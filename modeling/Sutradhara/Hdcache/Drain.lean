import Mathlib.Data.List.Sort
import Sutradhara.Foundation.Table
import Sutradhara.Hdcache.Entries

/-!
# A drain pass over a retiring disk

A pass takes the present entries of the disk one after another.  It reads the entry
from the disk, or restores it from tape, fills it again from the plaintext, and
deletes the old file.  The fill reserves the new location in the row that names the
old one.  The disk is marked dead when no row names it any more.
-/

namespace Sutradhara
namespace Hdcache

open Foundation

/-! ## Fills from a plaintext -/

/-- Whether an exception is among those that the drain catches. -/
inductive Raised
  | caught
  | escapes
  deriving DecidableEq

/-- How `_write_source_to_disk` ends.  A write that fails may have put its file in
place already. -/
inductive WriteEnd
  | wrote (size : Nat)
  | enospc (left : Option Nat)
  | failed (left : Option Nat) (raised : Raised)

/-- What one attempt of a fill meets. -/
structure AttemptAnswer where
  /-- The key epoch cannot be had. -/
  epochFails : Option Raised
  /-- Placement, representation, key epoch, size and policy at the reservation. -/
  reserves : Answer
  write : WriteEnd
  /-- The finalisation raises before it changes the row. -/
  finalizeFails : Option Raised
  /-- Policy, representation and conformance at the finalisation. -/
  finalizes : Answer

/-- How a fill ends. -/
inductive FillEnd
  | returned
  | gaveUp (raised : Raised)

/-- A file that a failed write has left. -/
def World.leave (world : World) (reservation : Reservation) (left : Option Nat) : World :=
  match left with
  | some size => world.writeEntry reservation.diskId reservation.slot size
  | none => world

/-- The attempts of `fill_target_from_plaintext`, as many as remain. -/
def fillAttempts (fill : Fill) (answers : Nat → AttemptAnswer) :
    Nat → World → World × FillEnd
  | 0, world => (world, .gaveUp .caught)
  | remaining + 1, world =>
    let answer := answers remaining
    match answer.epochFails with
    | some raised => (world, .gaveUp raised)
    | none =>
      match reserve world fill (remaining + 1) world.entry answer.reserves with
      | (held, .write _ _ reservation) =>
        match answer.write with
        | .wrote size =>
          let written := held.writeEntry reservation.diskId reservation.slot size
          match answer.finalizeFails with
          | some raised => (releaseReserved written reservation, .gaveUp raised)
          | none =>
            match finalize written fill remaining reservation size answer.finalizes with
            | (next, .drainDelete _ _) => (next, .returned)
            | (next, .reserve _ _ _) => fillAttempts fill answers remaining next
            | (next, _) => (next, .gaveUp .caught)
        | .enospc left =>
          fillAttempts fill answers remaining
            (releaseReserved (held.leave reservation left) reservation)
        | .failed left raised =>
          (releaseReserved (held.leave reservation left) reservation, .gaveUp raised)
      | (next, _) => (next, .gaveUp .caught)

/-- What a fill meets. -/
structure FillAnswer where
  /-- The archival copy, the asset and the digest of the plaintext are in order. -/
  admitted : Bool
  /-- `entry_policy_conformant` of an entry that is present on an active disk. -/
  conformant : Bool
  /-- The identity of that disk is verified. -/
  identity : Bool
  /-- The deletion of a stale file times out. -/
  deleteTimesOut : Bool
  attempts : Nat → AttemptAnswer

/-- `fill_target_from_plaintext`. -/
def fillTargetFromPlaintext (world : World) (fill : Fill) (answer : FillAnswer) : World × FillEnd :=
  if !answer.admitted then (world, .gaveUp .caught)
  else
    match world.entry with
    | none => fillAttempts fill answer.attempts 4 world
    | some entry =>
      if entry.state = .present then
        if world.disks entry.diskId = some .active then
          if answer.conformant then (world, .returned)
          else if !answer.identity then (world, .gaveUp .caught)
          else if answer.deleteTimesOut then
            ({ world with
                disks := Function.update world.disks entry.diskId (some .absent) },
              .gaveUp .caught)
          else fillAttempts fill answer.attempts 4
            ((world.deleteEntry entry.diskId entry.slot).commit { entry with state := .lost })
        else if world.disks entry.diskId = some .retiring then
          fillAttempts fill answer.attempts 4 world
        else (world, .gaveUp .caught)
      else fillAttempts fill answer.attempts 4 world

/-! ## The cache -/

/-- A row of `cache_entry` with its key. -/
structure CachedAsset where
  contentSha256 : Nat
  entry : Entry
  deriving DecidableEq

/-- The rows, the disks and the sizes of the files of every asset. -/
structure Cache where
  entries : Table CachedAsset.contentSha256
  disks : Nat → Option DiskState
  files : Nat → Nat → Slot → Option Nat

namespace Cache

/-- What the cache holds of one asset. -/
def world (cache : Cache) (digest : Nat) : World where
  entry := (cache.entries.find? digest).map CachedAsset.entry
  disks := cache.disks
  files := cache.files digest

/-- Give a row another entry. -/
def assign (entry : Entry) : Rewrite CachedAsset.contentSha256 where
  apply row := { row with entry := entry }
  keeps _ := rfl

/-- Put back what was done to one asset.  Its row is there. -/
def put (cache : Cache) (digest : Nat) (world : World) : Cache where
  entries := match world.entry with
    | some entry => cache.entries.update digest (assign entry)
    | none => cache.entries
  disks := world.disks
  files := fun other => if other = digest then world.files else cache.files other

end Cache

/-! ## The pass -/

/-- What the pass meets at one entry. -/
structure DrainAnswer where
  /-- `desired_target_for_asset` finds a target. -/
  target : Bool
  /-- `_read_entry_plaintext` raises. -/
  readFails : Option Raised
  /-- `_restore_single_target` raises. -/
  restoreFails : Option Raised
  fill : FillAnswer
  /-- The old file is deleted; errors of the deletion are suppressed. -/
  deletes : Bool

/-- The errors that end a pass. -/
inductive DrainFault
  | unknownDisk (diskId : Nat)
  | notRetiring (diskId : Nat) (state : DiskState)
  | changedState (diskId : Nat)
  | uncaught

/-- The counters of a pass. -/
structure DrainCount where
  moved : Nat
  fallbackToTape : Nat
  failed : Nat

/-- `DrainResult`. -/
structure DrainResult where
  diskId : Nat
  count : DrainCount
  autoDead : Bool

section

variable (cache : Cache) (disk digest : Nat) (limit : Option Nat) (answer : DrainAnswer)

/-- The plaintext of an entry: from the disk, or from tape.  The answer is whether it
came from tape, and `none` if there is no plaintext. -/
def plaintextOf : Except DrainFault (Option Bool) :=
  match answer.readFails with
  | none => .ok (some false)
  | some .escapes => .error .uncaught
  | some .caught =>
    match answer.restoreFails with
    | none => .ok (some true)
    | some .caught => .ok none
    | some .escapes => .error .uncaught

/-- The old file of an entry that was filled again. -/
def deleteOld (world : World) (disk : Nat) (old : Slot) (deletes : Bool) : World :=
  if deletes then world.deleteEntry disk old else world

/-- The fill of one entry and the deletion of its old file. -/
def relocate (entry : Entry) (answer : DrainAnswer) (count : DrainCount) :
    Cache × Except DrainFault DrainCount :=
  match fillTargetFromPlaintext (cache.world digest) ⟨true, some (disk, entry.slot)⟩
      answer.fill with
  | (filled, .returned) =>
    if filled.disks disk = some .retiring then
      (cache.put digest (deleteOld filled disk entry.slot answer.deletes),
        .ok { count with moved := count.moved + 1 })
    else (cache.put digest filled, .error (.changedState disk))
  | (filled, .gaveUp .caught) =>
    (cache.put digest filled, .ok { count with failed := count.failed + 1 })
  | (filled, .gaveUp .escapes) => (cache.put digest filled, .error .uncaught)

/-- One round of the loop of `drain_retiring_disk`. -/
def drainEntry (count : DrainCount) : Cache × Except DrainFault DrainCount :=
  if cache.disks disk ≠ some .retiring then (cache, .error (.changedState disk))
  else
    match freshDrainEntry (cache.world digest) disk with
    | none => (cache, .ok count)
    | some entry =>
      if !answer.target then (cache, .ok { count with failed := count.failed + 1 })
      else
        match plaintextOf answer with
        | .error fault => (cache, .error fault)
        | .ok none => (cache, .ok { count with failed := count.failed + 1 })
        | .ok (some tape) =>
          relocate cache disk digest entry answer
            { count with fallbackToTape := count.fallbackToTape + if tape then 1 else 0 }

/-- The loop of `drain_retiring_disk`. -/
def drainEntries (disk : Nat) (answers : Nat → DrainAnswer) :
    List Nat → Cache → DrainCount → Cache × Except DrainFault DrainCount
  | [], cache, count => (cache, .ok count)
  | digest :: rest, cache, count =>
    match drainEntry cache disk digest (answers digest) count with
    | (next, .ok counted) => drainEntries disk answers rest next counted
    | (next, .error fault) => (next, .error fault)

/-- The present entries of a disk, in the order of their digests. -/
def presentOn : List Nat :=
  ((cache.entries.rows.filter fun row =>
    row.entry.diskId = disk && row.entry.state = .present).map
      CachedAsset.contentSha256).insertionSort (· ≤ ·)

/-- `_maybe_auto_dead`. -/
def maybeAutoDead : Cache × Bool :=
  if cache.entries.rows.any fun row => row.entry.diskId = disk then (cache, false)
  else ({ cache with disks := Function.update cache.disks disk (some .dead) }, true)

/-- The entries that a pass takes up. -/
def drainedDigests : List Nat :=
  match limit with
  | some limit => (presentOn cache disk).take limit
  | none => presentOn cache disk

/-- `drain_retiring_disk`. -/
def drainRetiringDisk (answers : Nat → DrainAnswer) : Cache × Except DrainFault DrainResult :=
  match cache.disks disk with
  | none => (cache, .error (.unknownDisk disk))
  | some state =>
    if state ≠ .retiring then (cache, .error (.notRetiring disk state))
    else
      match drainEntries disk answers (drainedDigests cache disk limit) cache ⟨0, 0, 0⟩ with
      | (drained, .error fault) => (drained, .error fault)
      | (drained, .ok count) =>
        let (final, autoDead) := maybeAutoDead drained disk
        (final, .ok ⟨disk, count, autoDead⟩)

/-! ## What a pass must keep -/

/-- The asset is recorded present, and the file that its row names exists. -/
def Held : Prop :=
  ∃ entry, (cache.world digest).entry = some entry ∧ entry.state = .present ∧
    (cache.files digest entry.diskId entry.relpath).isSome = true

end

/-- Every entry that was present on the disk is still held, and the disk is not marked
dead while a present entry remains on it. -/
structure Drained (before after : Cache) (disk : Nat) : Prop where
  kept : ∀ digest ∈ presentOn before disk, Held after digest
  dead : after.disks disk = some .dead →
    ∀ row ∈ after.entries.rows, row.entry.state = .present → row.entry.diskId ≠ disk

/-- No pass over a retiring disk whose present entries have their files loses one. -/
def DrainLaw : Prop :=
  ∀ (cache : Cache) (disk : Nat) (limit : Option Nat) (answers : Nat → DrainAnswer),
    cache.disks disk = some .retiring →
    (∀ digest ∈ presentOn cache disk, Held cache digest) →
      Drained cache (drainRetiringDisk cache disk limit answers).1 disk

end Hdcache
end Sutradhara
