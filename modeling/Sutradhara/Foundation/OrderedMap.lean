import Mathlib.Data.List.Induction
import Mathlib.Data.List.Nodup
import Mathlib.Data.List.Sort
import Mathlib.Order.Defs.LinearOrder
import Mathlib.Order.Lattice

/-!
# Maps in key order

A map is the list of its entries.  An insertion keeps the order of the keys and
overwrites the value of a key that is there; collecting entries inserts them one
after another, so the last value of a key stays.
-/

namespace Foundation
namespace OrderedMap

open List

variable {Key Value : Type*} [DecidableEq Key] [LT Key] [DecidableLT Key]

/-- Insert an entry before the first larger key, or overwrite its key. -/
def insert (key : Key) (value : Value) : List (Key × Value) → List (Key × Value)
  | [] => [(key, value)]
  | entry :: rest =>
    if key = entry.1 then (key, value) :: rest
    else if key < entry.1 then (key, value) :: entry :: rest
    else entry :: insert key value rest

/-- The map of entries inserted from left to right. -/
def collect (entries : List (Key × Value)) : List (Key × Value) :=
  entries.foldl (fun map entry => insert entry.1 entry.2 map) []

variable [BEq Key] [LawfulBEq Key]

omit [LT Key] [DecidableLT Key] in
theorem lookup_cons_eq_ite (wanted : Key) (entry : Key × Value) (rest : List (Key × Value)) :
    (entry :: rest).lookup wanted =
      if wanted = entry.1 then some entry.2 else rest.lookup wanted := by
  rw [lookup_cons]
  by_cases same : wanted = entry.1
  · simp [same]
  · simp [same, beq_eq_false_iff_ne.mpr same]

theorem lookup_insert (key wanted : Key) (value : Value) (map : List (Key × Value)) :
    (insert key value map).lookup wanted =
      if wanted = key then some value else map.lookup wanted := by
  induction map with
  | nil => rw [insert, lookup_cons_eq_ite]
  | cons entry rest ih =>
    rw [insert, lookup_cons_eq_ite]
    by_cases overwritten : key = entry.1
    · rw [if_pos overwritten, lookup_cons_eq_ite, ← overwritten]
      split_ifs <;> rfl
    · rw [if_neg overwritten]
      by_cases smaller : key < entry.1
      · rw [if_pos smaller, lookup_cons_eq_ite, lookup_cons_eq_ite]
      · rw [if_neg smaller, lookup_cons_eq_ite, ih]
        by_cases wantedKey : wanted = key
        · rw [wantedKey, if_neg overwritten, if_pos rfl, if_pos rfl]
        · rw [if_neg wantedKey, if_neg wantedKey]

omit [BEq Key] [LawfulBEq Key] in
theorem collect_append_singleton (entries : List (Key × Value)) (entry : Key × Value) :
    collect (entries ++ [entry]) = insert entry.1 entry.2 (collect entries) := by
  simp [collect, List.foldl_append]

omit [LT Key] [DecidableLT Key] in
theorem mem_of_lookup
    {map : List (Key × Value)}
    {key : Key}
    {value : Value}
    (found : map.lookup key = some value) : (key, value) ∈ map := by
  induction map with
  | nil => simp at found
  | cons entry rest ih =>
    rw [lookup_cons_eq_ite] at found
    rw [mem_cons]
    split_ifs at found with first
    · left
      rw [first, ← Option.some.inj found]
    · exact .inr (ih found)

omit [BEq Key] [LawfulBEq Key] in
theorem mem_of_mem_insert
    {key : Key}
    {value : Value}
    {map : List (Key × Value)}
    {entry : Key × Value}
    (member : entry ∈ insert key value map) :
    entry = (key, value) ∨ entry ∈ map := by
  induction map with
  | nil => simpa [insert] using member
  | cons head rest ih =>
    rw [insert] at member
    split_ifs at member with overwritten smaller
    · rcases mem_cons.mp member with here | later
      · exact .inl here
      · exact .inr (mem_cons_of_mem _ later)
    · rcases mem_cons.mp member with here | later
      · exact .inl here
      · exact .inr later
    · rcases mem_cons.mp member with here | later
      · exact .inr (by rw [here]; exact mem_cons_self)
      · exact (ih later).imp_right (mem_cons_of_mem _)

omit [BEq Key] [LawfulBEq Key] in
/-- A collected map holds no entries but the collected ones. -/
theorem mem_of_mem_collect
    {entries : List (Key × Value)}
    {entry : Key × Value}
    (member : entry ∈ collect entries) : entry ∈ entries := by
  induction entries using List.reverseRecOn with
  | nil => cases member
  | append_singleton entries last ih =>
    rw [collect_append_singleton] at member
    rw [mem_append, mem_singleton]
    rcases mem_of_mem_insert member with here | earlier
    · exact .inr here
    · exact .inl (ih earlier)

/-- What a collected map answers was among the entries. -/
theorem mem_of_lookup_collect
    {entries : List (Key × Value)}
    {key : Key}
    {value : Value}
    (found : (collect entries).lookup key = some value) : (key, value) ∈ entries :=
  mem_of_mem_collect (mem_of_lookup found)

/-- Every key that was inserted is answered. -/
theorem exists_lookup_collect
    {entries : List (Key × Value)}
    {entry : Key × Value}
    (member : entry ∈ entries) : ∃ value, (collect entries).lookup entry.1 = some value := by
  induction entries using List.reverseRecOn with
  | nil => cases member
  | append_singleton entries last ih =>
    rw [collect_append_singleton, lookup_insert]
    split_ifs with wanted
    · exact ⟨last.2, rfl⟩
    · rcases mem_append.mp member with earlier | here
      · exact ih earlier
      · rw [mem_singleton] at here
        exact absurd (by rw [here]) wanted

/-- Entries with distinct keys are answered as they were inserted. -/
theorem lookup_collect_of_nodup
    {entries : List (Key × Value)}
    (distinct : (entries.map Prod.fst).Nodup)
    {entry : Key × Value}
    (member : entry ∈ entries) :
    (collect entries).lookup entry.1 = some entry.2 := by
  obtain ⟨value, found⟩ := exists_lookup_collect member
  have same := inj_on_of_nodup_map distinct (mem_of_lookup_collect found) member rfl
  rw [found, ← same]

omit [BEq Key] [LawfulBEq Key] in
/-- A new key is inserted beside the others. -/
theorem perm_insert_of_notMem
    {key : Key}
    {map : List (Key × Value)}
    (new : key ∉ map.map Prod.fst)
    (value : Value) :
    (insert key value map).Perm ((key, value) :: map) := by
  induction map with
  | nil => exact List.Perm.refl _
  | cons entry rest ih =>
    rw [map_cons, mem_cons, not_or] at new
    rw [insert, if_neg new.1]
    split_ifs with smaller
    · exact List.Perm.refl _
    · exact ((ih new.2).cons entry).trans (List.Perm.swap _ _ _)

omit [BEq Key] [LawfulBEq Key] in
/-- Entries with distinct keys are all kept. -/
theorem perm_collect_of_nodup
    {entries : List (Key × Value)}
    (distinct : (entries.map Prod.fst).Nodup) : (collect entries).Perm entries := by
  induction entries using List.reverseRecOn with
  | nil => exact List.Perm.refl _
  | append_singleton entries last ih =>
    rw [map_append, map_singleton, nodup_append] at distinct
    obtain ⟨distinctBefore, -, apart⟩ := distinct
    have before := ih distinctBefore
    have new : last.1 ∉ (collect entries).map Prod.fst := fun member =>
      apart _ ((before.map Prod.fst).mem_iff.mp member) _ (mem_singleton_self _) rfl
    rw [collect_append_singleton]
    exact (perm_insert_of_notMem new last.2).trans
      ((before.cons last).trans (perm_append_singleton last entries).symm)

omit [LT Key] [DecidableLT Key] in
/-- A map with distinct keys answers every entry it has. -/
theorem lookup_of_nodup
    {map : List (Key × Value)}
    (distinct : (map.map Prod.fst).Nodup)
    {entry : Key × Value}
    (member : entry ∈ map) : map.lookup entry.1 = some entry.2 := by
  induction map with
  | nil => cases member
  | cons first rest ih =>
    rw [map_cons, nodup_cons] at distinct
    rw [lookup_cons_eq_ite]
    rcases mem_cons.mp member with rfl | further
    · rw [if_pos rfl]
    · rw [if_neg fun same => distinct.1 (by
        rw [← same]
        exact mem_map_of_mem further)]
      exact ih distinct.2 further

omit [LT Key] [DecidableLT Key] in
/-- Keys with one common value are answered with it. -/
theorem lookup_map_const (wanted : Key) (keys : List Key) (value : Value) :
    (keys.map fun key => (key, value)).lookup wanted =
      if wanted ∈ keys then some value else none := by
  induction keys with
  | nil => rfl
  | cons key rest ih =>
    rw [map_cons, lookup_cons_eq_ite, ih]
    by_cases here : wanted = key <;> simp [here]

/-- A collected map answers with the last value of a key. -/
theorem lookup_collect (entries : List (Key × Value)) (key : Key) :
    (collect entries).lookup key = entries.reverse.lookup key := by
  induction entries using List.reverseRecOn with
  | nil => rfl
  | append_singleton entries last ih =>
    rw [collect_append_singleton, lookup_insert, ih, reverse_append, reverse_singleton,
      singleton_append, lookup_cons_eq_ite]

omit [LT Key] [DecidableLT Key] in
/-- The first entry is the last one to be asked. -/
theorem lookup_reverse_cons (wanted : Key) (entry : Key × Value) (rest : List (Key × Value)) :
    (entry :: rest).reverse.lookup wanted =
      (rest.reverse.lookup wanted).or (if wanted = entry.1 then some entry.2 else none) := by
  rw [reverse_cons, lookup_append, lookup_cons_eq_ite]
  rfl

omit [LT Key] [DecidableLT Key] in
/-- What a key answers last stands at an index after which the key does not occur. -/
theorem lookup_reverse_eq_some_iff {items : List (Key × Value)} {key : Key} {value : Value} :
    items.reverse.lookup key = some value ↔
      ∃ index, items[index]? = some (key, value) ∧
        ∀ (later : Nat) (other : Value), items[later]? = some (key, other) → later ≤ index := by
  induction items generalizing value with
  | nil => simp
  | cons entry rest ih =>
    rw [lookup_reverse_cons, Option.or_eq_some_iff, ih]
    constructor
    · rintro (⟨index, found, latest⟩ | ⟨absent, head⟩)
      · refine ⟨index + 1, found, fun later other present => ?_⟩
        cases later with
        | zero => exact Nat.zero_le _
        | succ later => exact Nat.succ_le_succ (latest later other present)
      · split_ifs at head with same
        cases head
        refine ⟨0, by simp [same], fun later other present => ?_⟩
        cases later with
        | zero => exact Nat.le_refl 0
        | succ later =>
          have listed := lookup_eq_none_iff.mp absent _ (mem_reverse.mpr (mem_of_getElem? present))
          simp at listed
    · rintro ⟨index, found, latest⟩
      cases index with
      | zero =>
        cases Option.some.inj found
        refine .inr ⟨?_, if_pos rfl⟩
        refine lookup_eq_none_iff.mpr fun other member => ?_
        obtain ⟨later, present⟩ := mem_iff_getElem?.mp (mem_reverse.mp member)
        rw [bne_iff_ne]
        rintro rfl
        exact absurd (latest (later + 1) other.2 present) (Nat.not_succ_le_zero later)
      | succ index =>
        refine .inl ⟨index, found, fun later other present => ?_⟩
        exact Nat.le_of_succ_le_succ (latest (later + 1) other present)

section Ordered

variable [IsStrictTotalOrder Key (· < ·)]

omit [BEq Key] [LawfulBEq Key] in
theorem pairwise_insert
    {map : List (Key × Value)}
    (key : Key)
    (value : Value)
    (ordered : map.Pairwise fun first second => first.1 < second.1) :
    (insert key value map).Pairwise fun first second => first.1 < second.1 := by
  induction map with
  | nil => exact pairwise_singleton _ _
  | cons entry rest ih =>
    obtain ⟨above, later⟩ := pairwise_cons.mp ordered
    rw [insert]
    split_ifs with overwritten smaller
    · rw [overwritten]
      exact pairwise_cons.mpr ⟨above, later⟩
    · refine pairwise_cons.mpr ⟨forall_mem_cons.mpr ⟨smaller, fun other member => ?_⟩, ordered⟩
      exact trans_of (· < ·) smaller (above other member)
    · refine pairwise_cons.mpr ⟨fun other member => ?_, ih later⟩
      rcases mem_of_mem_insert member with rfl | inside
      · exact ((trichotomous_of (· < ·) entry.1 key).resolve_right (by
          rintro (same | below)
          exacts [overwritten same.symm, smaller below]))
      · exact above other inside

omit [BEq Key] [LawfulBEq Key] in
theorem pairwise_collect (entries : List (Key × Value)) :
    (collect entries).Pairwise fun first second => first.1 < second.1 := by
  induction entries using List.reverseRecOn with
  | nil => exact Pairwise.nil
  | append_singleton entries last ih =>
    rw [collect_append_singleton]
    exact pairwise_insert _ _ ih

/-- The entries of a collected map are what it answers. -/
theorem mem_collect_iff {entries : List (Key × Value)} {entry : Key × Value} :
    entry ∈ collect entries ↔ (collect entries).lookup entry.1 = some entry.2 := by
  have distinct : ((collect entries).map Prod.fst).Nodup :=
    pairwise_map.mpr ((pairwise_collect entries).imp (ne_of_irrefl (r := (· < ·))))
  exact ⟨lookup_of_nodup distinct, mem_of_lookup⟩

/-- Lists whose keys answer alike are collected into one map. -/
theorem collect_congr
    {first second : List (Key × Value)}
    (alike : ∀ key, first.reverse.lookup key = second.reverse.lookup key) :
    collect first = collect second := by
  have ordered := pairwise_collect first
  have nodup (entries : List (Key × Value)) : (collect entries).Nodup :=
    (pairwise_collect entries).imp fun below same =>
      ne_of_irrefl (r := (· < ·)) below (congrArg Prod.fst same)
  refine Perm.eq_of_pairwise (fun _ _ _ _ below above => absurd below (asymm_of (· < ·) above))
    ordered (pairwise_collect second)
    ((perm_ext_iff_of_nodup (nodup first) (nodup second)).mpr fun entry => ?_)
  rw [mem_collect_iff, mem_collect_iff, lookup_collect, lookup_collect, alike]

/-- Sorting by the key keeps the order of the entries of one key. -/
theorem collect_insertionSort
    {below : Key → Key → Prop}
    [DecidableRel below]
    (reflexive : ∀ key, below key key)
    (entries : List (Key × Value)) :
    collect (entries.insertionSort fun first second => below first.1 second.1) =
      collect entries := by
  refine collect_congr fun key => ?_
  have inserted (entry : Key × Value) (sorted : List (Key × Value)) :
      (sorted.orderedInsert (fun first second => below first.1 second.1) entry).reverse.lookup
          key =
        (entry :: sorted).reverse.lookup key := by
    induction sorted with
    | nil => rfl
    | cons head rest ih =>
      rw [orderedInsert]
      split_ifs with before
      · rfl
      · rw [lookup_reverse_cons, ih]
        simp only [lookup_reverse_cons]
        have apart : entry.1 ≠ head.1 := fun same => before (same ▸ reflexive entry.1)
        cases rest.reverse.lookup key with
        | some value => rfl
        | none =>
          simp only [Option.none_or]
          split_ifs with first second
          · exact absurd (first.symm.trans second) apart
          all_goals rfl
  induction entries with
  | nil => rfl
  | cons entry rest ih =>
    rw [insertionSort_cons, inserted, lookup_reverse_cons, lookup_reverse_cons, ih]

end Ordered

end OrderedMap
end Foundation
