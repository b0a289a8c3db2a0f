import Mathlib.Data.List.Sort
import Mathlib.Data.List.Nodup
import Mathlib.Data.Finset.Card
import Mathlib.Order.Interval.Finset.Nat

/-!
# Reading an ascending table by a cursor

A table keeps its rows in ascending order of a natural key.  A reader remembers
the greatest key it has taken.  Taking any beginning of the rows above the
cursor and moving the cursor to the last of them keeps the taken rows equal to
the rows up to the cursor.
-/

namespace Foundation
namespace Cursor

open List

variable {Row : Type*} (key : Row → Nat)

/-- Rows in strictly ascending order of their keys. -/
def Ascending (rows : List Row) : Prop := (rows.map key).Pairwise (· < ·)

/-- Rows up to a cursor. -/
def upTo (cursor : Nat) (rows : List Row) : List Row :=
  rows.filter fun row => decide (key row ≤ cursor)

/-- Rows above a cursor. -/
def above (cursor : Nat) (rows : List Row) : List Row :=
  rows.filter fun row => decide (cursor < key row)

/-- The cursor after taking rows in their order. -/
def advance : Nat → List Row → Nat
  | cursor, [] => cursor
  | _, row :: rest => advance (key row) rest

variable {key}

variable {rows : List Row}

theorem Ascending.append_singleton
    {row : Row}
    (ascending : Ascending key rows)
    (greater : ∀ other ∈ rows, key other < key row) : Ascending key (rows ++ [row]) := by
  unfold Ascending
  rw [map_append, pairwise_append]
  refine ⟨ascending, pairwise_singleton _ _, ?_⟩
  intro first firstMember second secondMember
  obtain ⟨other, member, rfl⟩ := mem_map.mp firstMember
  rw [map_singleton, mem_singleton] at secondMember
  rw [secondMember]
  exact greater other member

/-- A cursor cuts an ascending table into two parts. -/
theorem upTo_append_above (ascending : Ascending key rows) (cursor : Nat) :
    upTo key cursor rows ++ above key cursor rows = rows := by
  induction rows with
  | nil => rfl
  | cons row rest ih =>
    obtain ⟨least, ascendingRest⟩ := pairwise_cons.mp ascending
    by_cases taken : key row ≤ cursor
    · have split := ih ascendingRest
      simp only [upTo, above] at split ⊢
      rw [filter_cons_of_pos (by simpa using taken),
        filter_cons_of_neg (by simpa using taken), cons_append,
        split]
    · have later : ∀ other ∈ row :: rest, cursor < key other := by
        refine forall_mem_cons.mpr ⟨not_le.mp taken, fun other member => ?_⟩
        have := least (key other) (mem_map_of_mem member)
        omega
      have none : upTo key cursor (row :: rest) = [] :=
        filter_eq_nil_iff.mpr fun other member => by simpa using later other member
      have all : above key cursor (row :: rest) = row :: rest :=
        filter_eq_self.mpr fun other member => by simpa using later other member
      rw [none, all, nil_append]

variable {cursor : Nat}

theorem le_advance (ascending : Ascending key rows) (greater : ∀ row ∈ rows, cursor < key row) :
    cursor ≤ advance key cursor rows ∧ ∀ row ∈ rows, key row ≤ advance key cursor rows := by
  induction rows generalizing cursor with
  | nil => exact ⟨Nat.le_refl _, nofun⟩
  | cons row rest ih =>
    obtain ⟨least, ascendingRest⟩ := pairwise_cons.mp ascending
    obtain ⟨fromRow, later⟩ := ih ascendingRest
      fun other member => least (key other) (mem_map_of_mem member)
    have above := greater row mem_cons_self
    refine ⟨Nat.le_trans (Nat.le_of_lt above) fromRow, ?_⟩
    intro other member
    rcases mem_cons.mp member with rfl | member
    · exact fromRow
    · exact later other member

theorem advance_lt {bound : Nat} (start : cursor < bound) (less : ∀ row ∈ rows, key row < bound) :
    advance key cursor rows < bound := by
  induction rows generalizing cursor with
  | nil => exact start
  | cons row rest ih =>
    exact ih (less row mem_cons_self) fun other member => less other (mem_cons_of_mem row member)

/-- Taking a beginning of the rows above the cursor keeps the taken rows equal
to the rows up to the cursor. -/
theorem upTo_advance
    {chosen : List Row}
    (ascending : Ascending key rows)
    (beginning : chosen <+: above key cursor rows) :
    upTo key (advance key cursor chosen) rows = upTo key cursor rows ++ chosen := by
  obtain ⟨rest, split⟩ := beginning
  have greater : ∀ row ∈ chosen ++ rest, cursor < key row := by
    intro row member
    rw [split, above, mem_filter] at member
    simpa using member.2
  have whole : upTo key cursor rows ++ (chosen ++ rest) = rows := by
    rw [split]
    exact upTo_append_above ascending cursor
  have parts := ascending
  rw [← whole] at parts
  unfold Ascending at parts
  rw [map_append, map_append, pairwise_append, pairwise_append] at parts
  obtain ⟨_, ⟨ascendingChosen, _, before⟩, _⟩ := parts
  obtain ⟨fromCursor, fromChosen⟩ := le_advance ascendingChosen
    fun row member => greater row (mem_append_left rest member)
  calc
    upTo key (advance key cursor chosen) rows = upTo key (advance key cursor chosen)
          (upTo key cursor rows ++ (chosen ++ rest)) := by rw [whole]
    _ = upTo key cursor rows ++ chosen := by
      simp only [upTo, filter_append]
      congr 1
      · rw [filter_eq_self]
        intro row member
        have := of_mem_filter member
        simp only [decide_eq_true_eq] at this ⊢
        omega
      · have kept : (chosen.filter fun row =>
            decide (key row ≤ advance key cursor chosen)) = chosen := by
          rw [filter_eq_self]
          intro row member
          simpa using fromChosen row member
        have dropped : (rest.filter fun row =>
            decide (key row ≤ advance key cursor chosen)) = [] := by
          rw [filter_eq_nil_iff]
          intro row member
          have less : advance key cursor chosen < key row :=
            advance_lt (greater row (mem_append_right chosen member))
              fun other otherMember => before (key other)
                (mem_map_of_mem otherMember) (key row)
                (mem_map_of_mem member)
          simp only [decide_eq_true_eq]
          omega
        rw [kept, dropped, append_nil]

theorem Ascending.above (ascending : Ascending key rows) (cursor : Nat) :
    Ascending key (above key cursor rows) :=
  List.Pairwise.sublist (filter_sublist.map key) ascending

/-- Sorting any listing of an ascending table gives the table back. -/
theorem mergeSort_eq_of_perm
    {listed : List Row}
    (ascending : Ascending key rows)
    (permuted : listed.Perm rows) :
    listed.mergeSort (fun first second => decide (key first ≤ key second)) = rows := by
  have strict : rows.Pairwise fun first second => key first < key second :=
    pairwise_map.mp ascending
  have distinct : (rows.map key).Nodup := ascending.imp fun less => Nat.ne_of_lt less
  refine List.Perm.eq_of_pairwise ?_
    (pairwise_mergeSort (fun _ _ _ => by simpa using Nat.le_trans)
      (fun _ _ => by simpa using Nat.le_total _ _) listed)
    (strict.imp fun less => by simpa using Nat.le_of_lt less)
    ((mergeSort_perm _ _).trans permuted)
  intro first second firstMember secondMember atMost atLeast
  simp only [decide_eq_true_eq] at atMost atLeast
  exact inj_on_of_nodup_map distinct
    (permuted.mem_iff.mp (mem_mergeSort.mp firstMember)) secondMember
    (Nat.le_antisymm atMost atLeast)

/-- An ascending table with keys below a bound has at most that many rows. -/
theorem length_le_of_ascending
    {bound : Nat}
    (ascending : Ascending key rows)
    (less : ∀ row ∈ rows, key row < bound) : rows.length ≤ bound := by
  have distinct : (rows.map key).Nodup :=
    ascending.imp fun {first second} lower => Nat.ne_of_lt lower
  have contained : (rows.map key).toFinset ⊆ Finset.range bound := by
    intro value member
    obtain ⟨row, rowMember, rfl⟩ := mem_map.mp (mem_toFinset.mp member)
    exact Finset.mem_range.mpr (less row rowMember)
  calc
    rows.length = (rows.map key).length := (length_map ..).symm
    _ = (rows.map key).toFinset.card := (toFinset_card_of_nodup distinct).symm
    _ ≤ (Finset.range bound).card := Finset.card_le_card contained
    _ = bound := Finset.card_range bound

end Cursor
end Foundation
