import Mathlib.Data.List.Induction

/-!
# Numbered hash chains

Each link of a chain is a document made from its position, the digest of the
link before it and an item.  The digest of the last link is the head.  When no
two different documents of the two chains share a digest, the head determines
all items and their number.
-/

namespace Foundation
namespace HashChain

open List

variable {Item Document Digest : Type*}

/-- No two different documents of the list share a digest. -/
def CollisionFree (hash : Document → Digest) (documents : List Document) : Prop :=
  ∀ first ∈ documents, ∀ second ∈ documents, hash first = hash second → first = second

theorem CollisionFree.mono
    {hash : Document → Digest}
    {smaller larger : List Document}
    (free : CollisionFree hash larger)
    (contained : ∀ document ∈ smaller, document ∈ larger) :
    CollisionFree hash smaller :=
  fun first firstMember second secondMember =>
    free first (contained first firstMember) second (contained second secondMember)

/-- Collisions of a rendering that keeps documents apart are collisions of its
texts. -/
theorem CollisionFree.of_map
    {Text : Type*}
    {hash : Text → Digest}
    {render : Document → Text}
    {documents : List Document}
    (injective : Function.Injective render)
    (free : CollisionFree hash (documents.map render)) :
    CollisionFree (hash ∘ render) documents :=
  fun _ firstMember _ secondMember sameHash =>
    injective (free _ (mem_map_of_mem firstMember) _ (mem_map_of_mem secondMember) sameHash)

variable (hash : Document → Digest)
variable (link : Nat → Digest → Item → Document)

/-- Digest of the last link when the first has the given position. -/
def head : Nat → Digest → List Item → Digest
  | _, previous, [] => previous
  | position, previous, item :: rest =>
    head (position + 1) (hash (link position previous item)) rest

/-- The links of a chain. -/
def links : Nat → Digest → List Item → List Document
  | _, _, [] => []
  | position, previous, item :: rest =>
    link position previous item :: links (position + 1) (hash (link position previous item)) rest

variable (position : Nat) (previous : Digest)

@[simp] theorem head_cons :
    head hash link position previous (item :: rest) =
      head hash link (position + 1) (hash (link position previous item)) rest := rfl

theorem head_append (first second : List Item) :
    head hash link position previous (first ++ second) = head hash link (position + first.length)
        (head hash link position previous first) second := by
  induction first generalizing position previous with
  | nil => rfl
  | cons item rest ih =>
    rw [cons_append, head_cons, ih, head_cons, length_cons, Nat.add_assoc, Nat.add_comm 1]

theorem links_append :
    links hash link position previous (first ++ second) =
      links hash link position previous first ++ links hash link (position + first.length)
          (head hash link position previous first) second := by
  induction first generalizing position previous with
  | nil => rfl
  | cons item rest ih =>
    simp only [cons_append, links, ih, head_cons, length_cons, Nat.add_assoc, Nat.add_comm 1]

/-- Parts of a link can be read back from it. -/
def LinkInjective : Prop :=
  ∀ position previous item otherPosition otherPrevious otherItem,
    link position previous item = link otherPosition otherPrevious otherItem →
    position = otherPosition ∧ previous = otherPrevious ∧ item = otherItem

variable {hash link}

/-- The head of a nonempty chain determines its items. -/
theorem eq_of_head_eq
    (injective : LinkInjective link)
    {position : Nat}
    {start : Digest}
    {first second : List Item}
    (firstNonempty : first ≠ [])
    (secondNonempty : second ≠ [])
    (free : CollisionFree hash (links hash link position start first ++
      links hash link position start second))
    (sameHead : head hash link position start first = head hash link position start second) :
    first = second := by
  induction first using List.reverseRecOn generalizing second with
  | nil => exact absurd rfl firstNonempty
  | append_singleton firstInit firstLast ih =>
    obtain ⟨secondInit, secondLast, rfl⟩ : ∃ init last, second = init ++ [last] :=
      ⟨_, _, (dropLast_concat_getLast secondNonempty).symm⟩
    rw [links_append, links_append] at free
    rw [head_append, head_append] at sameHead
    have sameLink := free _ (by simp [links]) _ (by simp [links]) sameHead
    obtain ⟨samePosition, samePrevious, sameItem⟩ := injective _ _ _ _ _ _ sameLink
    have sameLength : firstInit.length = secondInit.length := by omega
    have sameInit : firstInit = secondInit := by
      by_cases empty : firstInit = []
      · rw [empty] at sameLength
        rw [empty, length_eq_zero_iff.mp sameLength.symm]
      · refine ih empty ?_ (free.mono ?_) samePrevious
        · intro otherEmpty
          rw [otherEmpty] at sameLength
          exact empty (length_eq_zero_iff.mp sameLength)
        · intro document member
          rcases mem_append.mp member with member | member
          · simp [member]
          · simp [member]
    rw [sameInit, sameItem]

end HashChain
end Foundation
