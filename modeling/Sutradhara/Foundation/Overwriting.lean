import Mathlib.Logic.Function.Basic
import Mathlib.Data.List.Induction

/-!
# Stores that overwrite

A store maps addresses to contents, and a write replaces whatever is at the addresses
that it changes.  A write may hand out a receipt: an address and the digest of what it
has left there.  A receipt stays true as long as the later writes spare its address or
leave the same digest there.
-/

namespace Foundation
namespace Overwriting

open List

variable {Address Content Digest : Type*}

/-- What a write changes, in its order, and the receipt that it hands out. -/
structure Write (Address Content Digest : Type*) where
  changes : List (Address × Option Content)
  receipt : Option (Address × Digest)

section Apply

variable [DecidableEq Address]

variable (objects : Address → Option Content) (change : Address × Option Content)

/-- The store after one change. -/
def replaceAt : Address → Option Content := Function.update objects change.1 change.2

@[simp] theorem replaceAt_self : replaceAt objects change change.1 = change.2 :=
  Function.update_self ..

/-- The store after a write. -/
def Write.apply (write : Write Address Content Digest) : Address → Option Content :=
  write.changes.foldl replaceAt objects

end Apply

variable (digest : Content → Digest)

/-- The address of a receipt holds content with its digest. -/
def Names (objects : Address → Option Content) (receipt : Address × Digest) : Prop :=
  ∃ content, objects receipt.1 = some content ∧ digest content = receipt.2

/-- A write hands out a receipt only for what it leaves. -/
def Honest [DecidableEq Address] (write : Write Address Content Digest) : Prop :=
  ∀ receipt, write.receipt = some receipt → ∀ objects, Names digest (write.apply objects) receipt

/-- A later write leaves the digest of an earlier receipt at its address, or does not
touch it. -/
def Spares (earlier later : Write Address Content Digest) : Prop :=
  ∀ receipt, earlier.receipt = some receipt →
    ∀ change ∈ later.changes, change.1 = receipt.1 →
      ∃ content, change.2 = some content ∧ digest content = receipt.2

variable {digest} [DecidableEq Address]

/-- A receipt outlives changes that spare it. -/
theorem names_foldl_replaceAt
    {objects : Address → Option Content}
    {receipt : Address × Digest}
    {changes : List (Address × Option Content)}
    (named : Names digest objects receipt)
    (spared : ∀ change ∈ changes, change.1 = receipt.1 →
      ∃ content, change.2 = some content ∧ digest content = receipt.2) :
    Names digest (changes.foldl replaceAt objects) receipt := by
  induction changes generalizing objects with
  | nil => exact named
  | cons change rest ih =>
    refine ih ?_ fun other member => spared other (mem_cons_of_mem _ member)
    by_cases same : change.1 = receipt.1
    · obtain ⟨content, left, isDigest⟩ := spared change mem_cons_self same
      refine ⟨content, ?_, isDigest⟩
      rw [← same, replaceAt_self, left]
    · obtain ⟨content, found, isDigest⟩ := named
      refine ⟨content, ?_, isDigest⟩
      rw [replaceAt, Function.update_of_ne (Ne.symm same), found]

/-- Every receipt of honest writes is true at the end when each write spares the
earlier ones. -/
theorem names_of_pairwise
    {writes : List (Write Address Content Digest)}
    (honest : ∀ write ∈ writes, Honest digest write)
    (spares : writes.Pairwise (Spares digest))
    (objects : Address → Option Content) :
    ∀ write ∈ writes, ∀ receipt, write.receipt = some receipt →
      Names digest (writes.foldl Write.apply objects) receipt := by
  -- induction from the right: the last write keeps what the earlier ones have left
  induction writes using List.reverseRecOn with
  | nil => exact fun _ member => absurd member not_mem_nil
  | append_singleton earlier last ih =>
    rw [pairwise_append] at spares
    intro write member receipt handed
    rw [List.foldl_append]
    rcases mem_append.mp member with before | now
    · refine names_foldl_replaceAt ?_
        (spares.2.2 write before last (mem_singleton_self last) receipt handed)
      exact ih
        (fun other inside => honest other (mem_append_left _ inside)) spares.1
        write before receipt handed
    · obtain rfl := mem_singleton.mp now
      exact honest write member receipt handed _

end Overwriting
end Foundation
