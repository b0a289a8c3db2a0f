import Mathlib.Data.List.Basic

/-!
# Parts of a list

The parts between the separators of a list are made of its other elements.
-/

namespace Foundation
namespace Splitting

open List

variable {Item : Type*} [BEq Item] [LawfulBEq Item]
variable {separator item : Item} {part items : List Item}

/-- The parts of a longer list are the parts of the rest, the first of them perhaps
with one more element. -/
theorem mem_splitOn_cons
    (member : part ∈ (item :: items).splitOn separator) :
    part = [] ∨ part ∈ items.splitOn separator ∨
      item ≠ separator ∧ ∃ rest ∈ items.splitOn separator, part = item :: rest := by
  rw [splitOn_cons_eq_if_modifyHead] at member
  split_ifs at member with ends
  · rcases mem_cons.mp member with here | later
    · exact .inl here
    · exact .inr (.inl later)
  · obtain ⟨first, rest, parts⟩ := exists_cons_of_ne_nil (splitOn_ne_nil separator items)
    rw [parts, modifyHead_cons] at member
    rw [parts]
    rcases mem_cons.mp member with here | later
    · exact .inr (.inr ⟨by simpa using ends, first, mem_cons_self, here⟩)
    · exact .inr (.inl (mem_cons_of_mem _ later))

/-- No part holds the separator. -/
theorem notMem_of_mem_splitOn
    (member : part ∈ items.splitOn separator) : separator ∉ part := by
  induction items generalizing part with
  | nil =>
    rw [splitOn_nil, mem_singleton] at member
    exact member ▸ not_mem_nil
  | cons item items ih =>
    rcases mem_splitOn_cons member with rfl | inside | ⟨other, rest, inside, rfl⟩
    · exact not_mem_nil
    · exact ih inside
    · exact not_mem_cons_of_ne_of_not_mem other.symm (ih inside)

/-- The elements of a part are elements of the list. -/
theorem mem_of_mem_splitOn
    (member : part ∈ items.splitOn separator)
    (inside : item ∈ part) : item ∈ items := by
  induction items generalizing part with
  | nil =>
    rw [splitOn_nil, mem_singleton] at member
    exact member ▸ inside
  | cons first items ih =>
    rcases mem_splitOn_cons member with rfl | later | ⟨-, rest, later, rfl⟩
    · cases inside
    · exact mem_cons_of_mem _ (ih later inside)
    · rcases mem_cons.mp inside with rfl | further
      · exact mem_cons_self
      · exact mem_cons_of_mem _ (ih later further)

/-- Parts that hold separators themselves are cut there as well. -/
theorem splitOn_intercalate_eq_flatMap {parts : List (List Item)} (some : parts ≠ []) :
    ([separator].intercalate parts).splitOn separator = parts.flatMap (splitOn separator) := by
  induction parts with
  | nil => exact absurd rfl some
  | cons first rest ih =>
    cases rest with
    | nil => simp
    | cons second rest =>
      rw [intercalate_cons_cons, append_assoc, singleton_append, splitOn_append_cons_self,
        ih (cons_ne_nil _ _)]
      rfl

/-- A map that keeps the separators, and writes no others, works part by part. -/
theorem splitOn_of_separates
    {Other : Type*}
    [BEq Other]
    [LawfulBEq Other]
    {target : Other}
    {f : List Item → List Other}
    (keeps : ∀ before after, f (before ++ separator :: after) = f before ++ target :: f after)
    (free : ∀ part, separator ∉ part → target ∉ f part)
    (items : List Item) :
    (f items).splitOn target = (items.splitOn separator).map f := by
  suffices joined : ∀ parts ≠ [], (∀ part ∈ parts, separator ∉ part) →
      (f ([separator].intercalate parts)).splitOn target = parts.map f by
    have whole := joined _ (splitOn_ne_nil separator items) fun _ => notMem_of_mem_splitOn
    rwa [intercalate_splitOn] at whole
  intro parts some apart
  induction parts with
  | nil => exact absurd rfl some
  | cons first rest ih =>
    obtain ⟨here, later⟩ := forall_mem_cons.mp apart
    cases rest with
    | nil =>
      rw [intercalate_singleton, splitOn_eq_singleton (free first here), map_singleton]
    | cons second rest =>
      rw [intercalate_cons_cons, append_assoc, singleton_append, keeps,
        splitOn_append_cons_self_of_not_mem (free first here), ih (cons_ne_nil _ _) later]
      rfl

end Splitting
end Foundation
