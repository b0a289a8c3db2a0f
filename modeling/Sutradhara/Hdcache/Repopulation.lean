import Mathlib.Algebra.Ring.Int.Defs
import Mathlib.Data.List.Dedup
import Mathlib.Data.List.Perm.Basic
import Mathlib.Data.List.Sort
import Mathlib.Data.Prod.Lex
import Mathlib.Data.String.Basic

/-!
# Repopulation in batches

The lost targets are read back from their tapes.  The targets of one tape are put in
order and cut greedily: a batch ends before a target that would carry it over the
limit, so only a batch of one target can be too large.  A time without a zone cannot be
compared with one that has a zone, and a missing time counts as the earliest one with a
zone, so the targets of a tape cannot always be put in order.
-/

namespace Sutradhara
namespace Hdcache
namespace Repopulation

open List

/-- A `datetime`, with a zone or without.  Times count from `datetime.min`. -/
@[ext]
structure Moment where
  aware : Bool
  time : Int
deriving DecidableEq

/-- `LostTarget`, as far as batches depend on it. -/
structure LostTarget where
  sourceTape : String
  bundleKey : Option String
  lostAt : Option Moment
  shaHex : String
  sizeBytes : Int

/-- `RepopulationBatch`. -/
structure RepopulationBatch where
  sourceTape : String
  items : List LostTarget

/-- The size of some targets, as `bytes_total` of a batch. -/
def bytesTotal (items : List LostTarget) : Int := (items.map LostTarget.sizeBytes).sum

/-- `item.target.bundle_key or ""`. -/
def LostTarget.bundle (item : LostTarget) : String := item.bundleKey.getD ""

/-- `item.lost_at or dt.datetime.min.replace(tzinfo=dt.UTC)`. -/
def LostTarget.lost (item : LostTarget) : Moment := item.lostAt.getD ⟨true, 0⟩

/-- Whether a moment is earlier; `none` stands for the `TypeError`. -/
def Moment.before (first second : Moment) : Option Bool :=
  if first.aware = second.aware then some (decide (first.time < second.time)) else none

/-- The comparison of two keys of `_make_batches`: at the first place where they differ. -/
def LostTarget.before (first second : LostTarget) : Option Bool :=
  if first.bundle ≠ second.bundle then some (decide (first.bundle < second.bundle))
  else if first.lost ≠ second.lost then first.lost.before second.lost
  else some (decide (first.shaHex < second.shaHex))

/-- Puts a target before the first one that is not smaller. -/
def place (item : LostTarget) : List LostTarget → Option (List LostTarget)
  | [] => some [item]
  | next :: rest => do
    if ← next.before item then
      let placed ← place item rest
      return next :: placed
    else return item :: next :: rest

/-- `sorted` by the keys, as a stable sort that stops at the first failing comparison. -/
def sorted : List LostTarget → Option (List LostTarget)
  | [] => some []
  | item :: rest => do
    let placed ← sorted rest
    place item placed

section

variable (limit : Int) (targets : List LostTarget)

/-- The inner loop of `_make_batches`, with the current batch and its size. -/
def cutFrom : List LostTarget → Int → List LostTarget → List (List LostTarget)
  | current, _, [] => if current.isEmpty then [] else [current]
  | current, bytes, item :: rest =>
    if !current.isEmpty && limit < bytes + item.sizeBytes then
      current :: cutFrom [item] item.sizeBytes rest
    else cutFrom (current ++ [item]) (bytes + item.sizeBytes) rest

/-- `grouped[source_tape]`. -/
def grouped (tape : String) : List LostTarget :=
  targets.filter fun item => item.sourceTape = tape

/-- The outer loop of `_make_batches`. -/
def batchTapes : List String → Option (List RepopulationBatch)
  | [] => some []
  | tape :: tapes => do
    let ordered ← sorted (grouped targets tape)
    let batches ← batchTapes tapes
    return (cutFrom limit [] 0 ordered).map (⟨tape, ·⟩) ++ batches

/-- The keys of `grouped`, in the order of the outer loop. -/
def tapes : List String := (targets.map LostTarget.sourceTape).dedup.insertionSort (· ≤ ·)

/-- `_make_batches`. -/
def makeBatches : Option (List RepopulationBatch) := batchTapes limit targets (tapes targets)

end

/-! ## The planned order -/

/-- What the targets of a tape are ordered by, where all the times can be compared. -/
def LostTarget.key (item : LostTarget) : String ×ₗ Int ×ₗ String :=
  toLex (item.bundle, toLex (item.lost.time, item.shaHex))

/-- Two targets of one bundle that were lost at times with and without a zone. -/
def LostTarget.Mixed (first second : LostTarget) : Prop :=
  first.bundle = second.bundle ∧ first.lost.aware ≠ second.lost.aware

/-- The targets of a tape in the planned order. -/
def planned (items : List LostTarget) : List LostTarget :=
  items.insertionSort fun first second => first.key ≤ second.key

theorem before_eq_none (mixed : LostTarget.Mixed first second) : first.before second = none := by
  have other : first.lost ≠ second.lost := fun same => mixed.2 (congrArg Moment.aware same)
  rw [LostTarget.before, if_neg (not_not.mpr mixed.1), if_pos other, Moment.before, if_neg mixed.2]

/-- Other comparisons are those of the keys. -/
theorem before_eq_some
    (comparable : ¬ LostTarget.Mixed first second) :
    first.before second = some (decide (first.key < second.key)) := by
  have keys : first.key < second.key ↔
      first.bundle < second.bundle ∨ first.bundle = second.bundle ∧
        (first.lost.time < second.lost.time ∨ first.lost.time = second.lost.time ∧
          first.shaHex < second.shaHex) := by
    simp only [LostTarget.key, Prod.Lex.toLex_lt_toLex]
  rw [LostTarget.before]
  split
  next other => simp [keys, other]
  next same =>
    have bundle : first.bundle = second.bundle := not_not.mp same
    have aware : first.lost.aware = second.lost.aware :=
      not_not.mp fun differ => comparable ⟨bundle, differ⟩
    split
    next moved =>
      have time : first.lost.time ≠ second.lost.time := fun equal =>
        moved (Moment.ext aware equal)
      simp [Moment.before, aware, keys, bundle, time]
    next still => simp [keys, bundle, not_not.mp still]

theorem place_eq
    (comparable : ∀ other ∈ items, ¬ LostTarget.Mixed other item) :
    place item items =
      some (items.orderedInsert (fun first second => first.key ≤ second.key) item) := by
  induction items with
  | nil => rfl
  | cons next rest ih =>
    obtain ⟨head, tail⟩ := forall_mem_cons.mp comparable
    rw [place, before_eq_some head, orderedInsert_cons]
    by_cases earlier : next.key < item.key
    · simp [earlier, ih tail, not_le.mpr earlier]
    · simp [earlier, not_lt.mp earlier]

/-- What the sort finds out where it comes to an end.  Targets of one bundle stand
together, so that the first of them met by a new one stands for all of them. -/
theorem not_mixed_of_place
    (placed : place item items = some result)
    (comparable : ∀ first ∈ items, ∀ second ∈ items, ¬ LostTarget.Mixed first second)
    (ordered : items.Pairwise fun first second => first.key ≤ second.key) :
    ∀ other ∈ items, ¬ LostTarget.Mixed other item := by
  induction items generalizing result with
  | nil => simp
  | cons next rest ih =>
    obtain ⟨least, tail⟩ := pairwise_cons.mp ordered
    have head : ¬ LostTarget.Mixed next item := by
      intro mixed
      rw [place, before_eq_none mixed] at placed
      cases placed
    refine forall_mem_cons.mpr ⟨head, fun other member mixed => ?_⟩
    have later : next.bundle ≤ other.bundle := Prod.Lex.monotone_fst _ _ (least other member)
    obtain lower | same | higher := lt_trichotomy next.bundle item.bundle
    · have earlier : next.key < item.key := Prod.Lex.toLex_lt_toLex.mpr (.inl lower)
      rw [place, before_eq_some head] at placed
      simp only [earlier, decide_true, Option.bind_eq_bind, Option.bind_some, if_true,
        Option.bind_eq_some_iff] at placed
      obtain ⟨inner, inserted, -⟩ := placed
      refine ih inserted (fun first isFirst second isSecond => ?_) tail other member mixed
      exact comparable first (mem_cons_of_mem _ isFirst) second (mem_cons_of_mem _ isSecond)
    · have apart := comparable next mem_cons_self other (mem_cons_of_mem _ member)
      refine apart ⟨same.trans mixed.1.symm, fun alike => head ⟨same, ?_⟩⟩
      exact alike ▸ mixed.2
    · exact absurd mixed.1 (lt_of_lt_of_le higher later).ne'

/-- The targets can be put in order exactly if no two of them are mixed. -/
theorem sorted_eq_some_iff :
    sorted items = some result ↔
      (∀ first ∈ items, ∀ second ∈ items, ¬ LostTarget.Mixed first second) ∧
        result = planned items := by
  induction items generalizing result with
  | nil => simp [sorted, planned, eq_comm]
  | cons item rest ih =>
    have keep : ∀ other, other ∈ planned rest ↔ other ∈ rest := fun other => mem_insertionSort _
    have order : (planned rest).Pairwise fun first second => first.key ≤ second.key :=
      pairwise_insertionSort _ rest
    rw [sorted, Option.bind_eq_bind, Option.bind_eq_some_iff]
    constructor
    · rintro ⟨placed, isPlaced, inserted⟩
      obtain ⟨tail, rfl⟩ := ih.mp isPlaced
      have head := not_mixed_of_place inserted (by simpa only [keep] using tail) order
      refine ⟨?_, ?_⟩
      · have back : ∀ other ∈ rest, ¬ LostTarget.Mixed item other := fun other member mixed =>
          head other ((keep other).mpr member) ⟨mixed.1.symm, mixed.2.symm⟩
        intro first isFirst second isSecond
        obtain rfl | first_mem := mem_cons.mp isFirst <;>
          obtain rfl | second_mem := mem_cons.mp isSecond
        · exact fun mixed => mixed.2 rfl
        · exact back second second_mem
        · exact head first ((keep first).mpr first_mem)
        · exact tail first first_mem second second_mem
      · rw [place_eq head] at inserted
        exact (Option.some.inj inserted).symm
    · rintro ⟨comparable, rfl⟩
      refine ⟨planned rest, ih.mpr ⟨fun first isFirst second isSecond => ?_, rfl⟩, ?_⟩
      · exact comparable first (mem_cons_of_mem _ isFirst) second (mem_cons_of_mem _ isSecond)
      · refine place_eq fun other member => ?_
        exact comparable other (mem_cons_of_mem _ ((keep other).mp member)) item mem_cons_self

/-! ## The cuts -/

/-- Nothing is lost or moved by the cuts. -/
theorem flatten_cutFrom : (cutFrom limit current bytes rest).flatten = current ++ rest := by
  induction rest generalizing current bytes with
  | nil =>
    cases current with
    | nil => rfl
    | cons first others => simp [cutFrom]
  | cons item rest ih =>
    rw [cutFrom]
    split
    · rw [flatten_cons, ih, singleton_append]
    · rw [ih, append_assoc, singleton_append]

/-- The invariant of the loop: the current batch has the size that is kept, and is within
the limit unless it has one target. -/
theorem bytesTotal_le_of_mem_cutFrom
    (counted : bytesTotal current = bytes)
    (bounded : 1 < current.length → bytes ≤ limit) :
    ∀ batch ∈ cutFrom limit current bytes rest, 1 < batch.length → bytesTotal batch ≤ limit := by
  induction rest generalizing current bytes with
  | nil =>
    rw [cutFrom]
    split
    · exact fun _ member => absurd member not_mem_nil
    · rw [forall_mem_singleton, counted]
      exact bounded
  | cons item rest ih =>
    rw [cutFrom]
    split
    · rw [forall_mem_cons, counted]
      exact ⟨bounded, ih (by simp [bytesTotal]) (by simp)⟩
    next fits =>
      refine ih (by simp [bytesTotal, ← counted]) fun several => ?_
      have filled : current ≠ [] := by
        rintro rfl
        exact absurd several (by simp)
      simpa [filled] using fits

/-- The batches of one tape. -/
def batchesOf
    (limit : Int)
    (targets : List LostTarget)
    (tape : String) : List RepopulationBatch :=
  (cutFrom limit [] 0 (planned (grouped targets tape))).map (⟨tape, ·⟩)

theorem items_batchesOf :
    (batchesOf limit targets tape).flatMap RepopulationBatch.items =
      planned (grouped targets tape) := by
  rw [batchesOf, flatMap_map]
  exact flatMap_id'.trans flatten_cutFrom

/-- The loop over the tapes ends exactly if the targets of each tape can be put in order. -/
theorem batchTapes_eq_some_iff {tapes : List String} :
    batchTapes limit targets tapes = some batches ↔
      (∀ tape ∈ tapes, ∀ first ∈ grouped targets tape, ∀ second ∈ grouped targets tape,
        ¬ LostTarget.Mixed first second) ∧
      batches = tapes.flatMap (batchesOf limit targets) := by
  induction tapes generalizing batches with
  | nil => simp [batchTapes, eq_comm]
  | cons tape tapes ih =>
    rw [batchTapes, Option.bind_eq_bind, Option.bind_eq_some_iff]
    simp only [sorted_eq_some_iff, Option.bind_eq_bind, Option.bind_eq_some_iff, ih,
      forall_mem_cons, flatMap_cons, Option.pure_def, Option.some.injEq]
    constructor
    · rintro ⟨ordered, ⟨head, rfl⟩, others, ⟨tail, rfl⟩, rfl⟩
      exact ⟨⟨head, tail⟩, rfl⟩
    · rintro ⟨⟨head, tail⟩, rfl⟩
      exact ⟨_, ⟨head, rfl⟩, _, ⟨tail, rfl⟩, rfl⟩

/-! ## The batches -/

/-- Groups by distinct tapes make up the targets with these tapes. -/
theorem perm_flatMap_grouped
    {tapes : List String}
    (distinct : tapes.Nodup)
    (targets : List LostTarget) :
    (tapes.flatMap (grouped targets)).Perm
      (targets.filter fun item => item.sourceTape ∈ tapes) := by
  induction tapes with
  | nil => simp
  | cons tape tapes ih =>
    obtain ⟨fresh, rest⟩ := nodup_cons.mp distinct
    refine ((ih rest).append_left _).trans ?_
    refine (Perm.of_eq ?_).trans (filter_append_perm (fun item => item.sourceTape = tape) _)
    rw [filter_filter, filter_filter]
    congr 1 <;> refine filter_congr fun item _ => ?_
    · by_cases same : item.sourceTape = tape <;> simp [same]
    · by_cases same : item.sourceTape = tape <;> simp [same, fresh]

/-- Among the batches of distinct tapes, those of one tape carry its planned targets. -/
theorem items_filter_batches
    {tapes : List String}
    (distinct : tapes.Nodup)
    (listed : tape ∈ tapes) :
    ((tapes.flatMap (batchesOf limit targets)).filter
        (·.sourceTape = tape)).flatMap RepopulationBatch.items =
      planned (grouped targets tape) := by
  have foreign : ∀ other, other ≠ tape →
      (batchesOf limit targets other).filter (·.sourceTape = tape) = [] := by
    intro other differ
    simp [batchesOf, filter_map, Function.comp_def, differ]
  induction tapes with
  | nil => exact absurd listed not_mem_nil
  | cons other tapes ih =>
    obtain ⟨fresh, rest⟩ := nodup_cons.mp distinct
    rw [flatMap_cons, filter_append, flatMap_append]
    by_cases same : other = tape
    · subst same
      have own : (batchesOf limit targets other).filter (·.sourceTape = other) =
          batchesOf limit targets other := by
        simp [batchesOf, filter_map, Function.comp_def]
      have others : (tapes.flatMap (batchesOf limit targets)).filter (·.sourceTape = other) =
          [] := by
        rw [filter_flatMap, flatMap_eq_nil_iff]
        exact fun next member => foreign next fun equal => fresh (equal ▸ member)
      rw [own, others, items_batchesOf, flatMap_nil, append_nil]
    · rw [foreign other same, flatMap_nil, nil_append]
      exact ih rest ((mem_cons.mp listed).resolve_left (Ne.symm same))

theorem mem_tapes : tape ∈ tapes targets ↔ ∃ item ∈ targets, item.sourceTape = tape := by
  rw [tapes, mem_insertionSort, mem_dedup, mem_map]

theorem nodup_tapes : (tapes targets).Nodup :=
  (perm_insertionSort _ _).nodup_iff.mpr (nodup_dedup _)

/-- Every target is in exactly one batch.  A batch has targets of its own tape, and is
within the limit unless it has one target.  The batches of a tape, one after another, are
in the planned order, and targets that already were in this order stay so. -/
structure Partitions
    (limit : Int)
    (targets : List LostTarget)
    (batches : List RepopulationBatch) : Prop where
  once : (batches.flatMap RepopulationBatch.items).Perm targets
  tape : ∀ batch ∈ batches, ∀ item ∈ batch.items, item.sourceTape = batch.sourceTape
  within : ∀ batch ∈ batches, 1 < batch.items.length → bytesTotal batch.items ≤ limit
  inOrder : ∀ tape,
    ((batches.filter (·.sourceTape = tape)).flatMap RepopulationBatch.items).Pairwise
      fun first second => first.key ≤ second.key
  stable : ∀ tape, ∀ kept : List LostTarget,
    kept.Sublist (targets.filter (·.sourceTape = tape)) →
    (kept.Pairwise fun first second => first.key ≤ second.key) →
    kept.Sublist ((batches.filter (·.sourceTape = tape)).flatMap RepopulationBatch.items)

/-- Targets of one tape and one bundle were lost at times that all have a zone, or that
all have none; a missing time has one. -/
def Comparable (targets : List LostTarget) : Prop :=
  ∀ first ∈ targets, ∀ second ∈ targets, first.sourceTape = second.sourceTape →
    first.bundle = second.bundle → first.lost.aware = second.lost.aware

theorem comparable_iff :
    Comparable targets ↔
      ∀ tape ∈ tapes targets, ∀ first ∈ grouped targets tape, ∀ second ∈ grouped targets tape,
        ¬ LostTarget.Mixed first second := by
  simp only [Comparable, grouped, mem_filter, mem_tapes, LostTarget.Mixed, decide_eq_true_eq,
    not_and, not_not]
  constructor
  · rintro comparable tape - first ⟨isFirst, rfl⟩ second ⟨isSecond, same⟩
    exact comparable first isFirst second isSecond same.symm
  · intro comparable first isFirst second isSecond same
    exact comparable _ ⟨first, isFirst, rfl⟩ first ⟨isFirst, rfl⟩ second ⟨isSecond, same.symm⟩

theorem partitions_batchesOf :
    Partitions limit targets ((tapes targets).flatMap (batchesOf limit targets)) := by
  have inside : ∀ batch ∈ (tapes targets).flatMap (batchesOf limit targets),
      ∃ tape, ∃ items ∈ cutFrom limit [] 0 (planned (grouped targets tape)),
        batch = ⟨tape, items⟩ := by
    intro batch member
    obtain ⟨tape, -, cut⟩ := mem_flatMap.mp member
    obtain ⟨items, isCut, rfl⟩ := mem_map.mp cut
    exact ⟨tape, items, isCut, rfl⟩
  have unlisted : ∀ tape, tape ∉ tapes targets → grouped targets tape = [] ∧
      ((tapes targets).flatMap (batchesOf limit targets)).filter (·.sourceTape = tape) = [] := by
    intro tape foreign
    refine ⟨filter_eq_nil_iff.mpr fun item member => ?_, filter_eq_nil_iff.mpr ?_⟩
    · exact fun same => foreign (mem_tapes.mpr ⟨item, member, of_decide_eq_true same⟩)
    · intro batch member same
      obtain ⟨other, listed, cut⟩ := mem_flatMap.mp member
      obtain ⟨items, -, rfl⟩ := mem_map.mp cut
      exact foreign (of_decide_eq_true same ▸ listed)
  constructor
  case once =>
    rw [flatMap_assoc, flatMap_congr fun tape _ => items_batchesOf]
    refine (Perm.flatMap_left _ fun tape _ => perm_insertionSort _ _).trans ?_
    refine (perm_flatMap_grouped nodup_tapes targets).trans ?_
    refine Perm.of_eq (filter_eq_self.mpr fun item member => ?_)
    exact decide_eq_true (mem_tapes.mpr ⟨item, member, rfl⟩)
  case tape =>
    intro batch member item isItem
    obtain ⟨tape, items, isCut, rfl⟩ := inside batch member
    have stretch := infix_of_mem_flatten isCut
    rw [flatten_cutFrom, nil_append] at stretch
    have ofTape := (mem_insertionSort _).mp (stretch.subset isItem)
    exact of_decide_eq_true (mem_filter.mp ofTape).2
  case within =>
    intro batch member
    obtain ⟨tape, items, isCut, rfl⟩ := inside batch member
    exact bytesTotal_le_of_mem_cutFrom rfl (by simp) items isCut
  case inOrder =>
    intro tape
    by_cases listed : tape ∈ tapes targets
    · rw [items_filter_batches nodup_tapes listed]
      exact pairwise_insertionSort _ _
    · rw [(unlisted tape listed).2]
      exact .nil
  case stable =>
    intro tape kept isKept ordered
    by_cases listed : tape ∈ tapes targets
    · rw [items_filter_batches nodup_tapes listed]
      exact sublist_insertionSort ordered isKept
    · rw [show targets.filter (·.sourceTape = tape) = [] from (unlisted tape listed).1] at isKept
      rw [sublist_nil.mp isKept]
      exact nil_sublist _

/-- The targets are partitioned exactly if the times of each tape and bundle can be
compared. -/
theorem makeBatches_partitions_iff
    (limit : Int)
    (targets : List LostTarget) :
    (∃ batches, makeBatches limit targets = some batches ∧ Partitions limit targets batches) ↔
      Comparable targets := by
  simp only [makeBatches, batchTapes_eq_some_iff, ← comparable_iff]
  constructor
  · rintro ⟨batches, ⟨comparable, -⟩, -⟩
    exact comparable
  · intro comparable
    exact ⟨_, ⟨comparable, rfl⟩, partitions_batchesOf⟩

/-- A target that was lost at a time without a zone, and one of the same tape without any
time. -/
def missing : List LostTarget :=
  [⟨"tape", none, some ⟨false, 5⟩, "aa", 10⟩, ⟨"tape", none, none, "bb", 10⟩]

/-- These two are in no batch. -/
theorem not_partitions_missing :
    ¬ ∃ batches, makeBatches 100 missing = some batches ∧ Partitions 100 missing batches := by
  rintro ⟨batches, made, -⟩
  have stopped : makeBatches 100 missing = none := by decide
  rw [stopped] at made
  cases made

end Repopulation
end Hdcache
end Sutradhara
