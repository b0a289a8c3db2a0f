import Mathlib.Data.List.Nodup

/-!
# Tables with a unique key

A table is a list of rows in insertion order whose keys are distinct.  The
distinctness is part of the table, so a lookup by key and membership say the
same thing, and the writes are the ones that a unique index allows.
-/

namespace Foundation

open List

/-- The value of a column after an update that writes only what differs from the
loaded value. -/
def flushed {Value : Type*} [DecidableEq Value] (loaded assigned stored : Value) : Value :=
  if assigned = loaded then stored else assigned

/-- Where nobody else has written, the update leaves what was assigned. -/
@[simp] theorem flushed_self {Value : Type*} [DecidableEq Value] (loaded assigned : Value) :
    flushed loaded assigned loaded = assigned := by
  unfold flushed
  split
  next equal => exact equal.symm
  · rfl

/-- Rows in insertion order with pairwise distinct keys. -/
structure Table {Row Key : Type*} (key : Row → Key) where
  rows : List Row
  unique : (rows.map key).Nodup

/-- A rewrite of rows that keeps their keys. -/
structure Rewrite {Row Key : Type*} (key : Row → Key) where
  apply : Row → Row
  keeps : ∀ row, key (apply row) = key row

namespace Table

variable {Row Key : Type*} {key : Row → Key}

/-- The table without rows. -/
def empty : Table key := ⟨[], nodup_nil⟩

@[simp] theorem rows_empty : (empty : Table key).rows = [] := rfl

section

variable (table : Table key) (change : Rewrite key) (discard : Row → Bool) (row : Row)

/-- Two rows with one key are one row. -/
theorem eq_of_key_eq
    {first second : Row}
    (firstMember : first ∈ table.rows)
    (secondMember : second ∈ table.rows)
    (equal : key first = key second) : first = second :=
  inj_on_of_nodup_map table.unique firstMember secondMember equal

/-- Delete the rows that satisfy a condition. -/
def delete : Table key where
  rows := table.rows.filter fun row => !discard row
  unique := table.unique.sublist (filter_sublist.map key)

@[simp] theorem mem_delete :
    row ∈ (table.delete discard).rows ↔ row ∈ table.rows ∧ discard row = false := by
  simp [delete]

/-- Rewrite every row. -/
def rewrite : Table key where
  rows := table.rows.map change.apply
  unique := by
    rw [map_map, show key ∘ change.apply = key from funext change.keeps]
    exact table.unique

theorem mem_rewrite :
    row ∈ (table.rewrite change).rows ↔ ∃ old ∈ table.rows, change.apply old = row := by
  simp [rewrite]

end

variable [DecidableEq Key]

/-- The row with a given key. -/
def find? (table : Table key) (wanted : Key) : Option Row :=
  table.rows.find? fun row => key row = wanted

section

variable (table : Table key) (wanted : Key)

@[simp] theorem find?_empty : (empty : Table key).find? wanted = none := rfl

/-- A lookup finds exactly the row that carries the key. -/
theorem find?_eq_some_iff (row : Row) :
    table.find? wanted = some row ↔ row ∈ table.rows ∧ key row = wanted := by
  constructor
  · intro found
    exact ⟨mem_of_find?_eq_some found, by simpa using find?_some found⟩
  · rintro ⟨member, carries⟩
    cases found : table.find? wanted with
    | none =>
      have missing := find?_eq_none.mp found row member
      simp [carries] at missing
    | some other =>
      have otherMember := mem_of_find?_eq_some found
      have otherCarries : key other = wanted := by simpa using find?_some found
      rw [table.eq_of_key_eq otherMember member (otherCarries.trans carries.symm)]

theorem find?_eq_none_iff : table.find? wanted = none ↔ ∀ row ∈ table.rows, key row ≠ wanted := by
  simp [find?]

/-- Two tables with the same rows under a key answer it alike. -/
theorem find?_ext
    {table other : Table key}
    {wanted : Key}
    (same : ∀ row, key row = wanted → (row ∈ table.rows ↔ row ∈ other.rows)) :
    table.find? wanted = other.find? wanted := by
  apply Option.ext
  intro row
  rw [find?_eq_some_iff, find?_eq_some_iff]
  constructor
  · rintro ⟨member, carries⟩
    exact ⟨(same row carries).mp member, carries⟩
  · rintro ⟨member, carries⟩
    exact ⟨(same row carries).mpr member, carries⟩

theorem find?_delete (discard : Row → Bool) (wanted : Key) :
    (table.delete discard).find? wanted = (table.find? wanted).filter fun row => !discard row := by
  apply Option.ext
  intro row
  rw [find?_eq_some_iff, mem_delete, Option.filter_eq_some_iff, find?_eq_some_iff]
  simp only [Bool.not_eq_true']
  tauto

end

variable (table : Table key) (wanted : Key) (change : Rewrite key) (row : Row)

/-- Append a row whose key is not present. -/
def insert
    (absent : table.find? (key row) = none) : Table key where
  rows := table.rows ++ [row]
  unique := by
    rw [find?_eq_none_iff] at absent
    rw [map_append, map_singleton, nodup_append]
    refine ⟨table.unique, nodup_singleton _, ?_⟩
    intro present member other found
    rw [mem_singleton.mp found]
    obtain ⟨old, oldMember, rfl⟩ := mem_map.mp member
    exact absent old oldMember

@[simp] theorem mem_insert
    (absent : table.find? (key row) = none)
    (other : Row) :
    other ∈ (table.insert row absent).rows ↔ other ∈ table.rows ∨ other = row := by
  simp [insert]

theorem find?_insert_self
    (absent : table.find? (key row) = none) :
    (table.insert row absent).find? (key row) = some row := by
  rw [find?_eq_some_iff]
  simp

theorem find?_insert_of_ne
    (absent : table.find? (key row) = none)
    {wanted : Key}
    (different : wanted ≠ key row) :
    (table.insert row absent).find? wanted = table.find? wanted := by
  apply find?_ext
  intro other carries
  rw [mem_insert]
  constructor
  · rintro (member | rfl)
    · exact member
    · exact absurd carries.symm different
  · exact Or.inl

theorem find?_rewrite (wanted : Key) :
    (table.rewrite change).find? wanted = (table.find? wanted).map change.apply := by
  apply Option.ext
  intro row
  rw [find?_eq_some_iff, mem_rewrite, Option.map_eq_some_iff]
  constructor
  · rintro ⟨⟨old, member, rfl⟩, carries⟩
    exact ⟨old, (find?_eq_some_iff ..).mpr ⟨member, (change.keeps old).symm.trans carries⟩, rfl⟩
  · rintro ⟨old, found, rfl⟩
    obtain ⟨member, carries⟩ := (find?_eq_some_iff ..).mp found
    exact ⟨⟨old, member, rfl⟩, (change.keeps old).trans carries⟩

/-- Rewrite the row with a given key. -/
def update : Table key where
  rows := table.rows.map fun row => if key row = wanted then change.apply row else row
  unique := by
    rw [map_map]
    convert table.unique using 2
    funext row
    simp only [Function.comp_apply]
    split
    · exact change.keeps row
    · rfl

theorem mem_update :
    row ∈ (table.update wanted change).rows ↔
      (∃ old ∈ table.rows, key old = wanted ∧ row = change.apply old) ∨
        (row ∈ table.rows ∧ key row ≠ wanted) := by
  simp only [update, mem_map]
  constructor
  · rintro ⟨old, member, rfl⟩
    by_cases carries : key old = wanted
    · exact Or.inl ⟨old, member, carries, by rw [if_pos carries]⟩
    · rw [if_neg carries]
      exact Or.inr ⟨member, carries⟩
  · rintro (⟨old, member, carries, rfl⟩ | ⟨member, differs⟩)
    · exact ⟨old, member, by rw [if_pos carries]⟩
    · exact ⟨row, member, by rw [if_neg differs]⟩

theorem find?_update_self :
    (table.update wanted change).find? wanted = (table.find? wanted).map change.apply := by
  apply Option.ext
  intro row
  rw [find?_eq_some_iff, mem_update, Option.map_eq_some_iff]
  constructor
  · rintro ⟨⟨old, member, carries, rfl⟩ | ⟨_, differs⟩, carried⟩
    · exact ⟨old, (find?_eq_some_iff ..).mpr ⟨member, carries⟩, rfl⟩
    · exact absurd carried differs
  · rintro ⟨old, found, rfl⟩
    obtain ⟨member, carries⟩ := (find?_eq_some_iff ..).mp found
    exact ⟨Or.inl ⟨old, member, carries, rfl⟩, (change.keeps old).trans carries⟩

/-- A rewrite of the row that was inserted last touches no other row. -/
theorem rows_update_insert
    (absent : table.find? (key row) = none)
    (change : Rewrite key) : ((table.insert row absent).update (key row) change).rows =
      table.rows ++ [change.apply row] := by
  have others := (find?_eq_none_iff ..).mp absent
  have old : table.rows.map
      (fun other => if key other = key row then change.apply other else other) = table.rows := by
    conv_rhs => rw [← map_id table.rows]
    apply map_congr_left
    intro other member
    rw [if_neg (others other member)]
    rfl
  show (table.rows ++ [row]).map _ = _
  rw [map_append, old, map_singleton, if_pos rfl]

theorem find?_update_of_ne
    {wanted other : Key}
    (change : Rewrite key)
    (different : other ≠ wanted) :
    (table.update wanted change).find? other = table.find? other := by
  apply find?_ext
  intro row carries
  rw [mem_update]
  constructor
  · rintro (⟨old, _, oldCarries, rfl⟩ | ⟨member, _⟩)
    · rw [change.keeps, oldCarries] at carries
      exact absurd carries.symm different
    · exact member
  · intro member
    exact Or.inr ⟨member, carries ▸ different⟩

end Table
end Foundation
