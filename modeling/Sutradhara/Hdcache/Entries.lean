import Sutradhara.Foundation.Interleaving

/-!
# Cache entries and their files

The disk cache keeps one row for a logical asset and one file for each
representation and key epoch on each disk.  A fill reserves the row, writes the
file and finalises the row; a walker pass adopts, cleans and checks what it finds
on a disk; a drain moves the entry off a retiring disk by a fill and deletes the
old file.  Each of them is cut at its commits and at its effects on a disk.  One
asset is followed; disks are numbered.
-/

namespace Sutradhara
namespace Hdcache

open Foundation.Interleaving

/-- `cache_entry.state`. -/
inductive EntryState
  | filling
  | present
  | lost
  deriving DecidableEq

/-- `cache_disk.state`. -/
inductive DiskState
  | active
  | absent
  | retiring
  | dead
  deriving DecidableEq

/-- `cache_entry.representation`. -/
inductive Representation
  | rawBytes
  | remEncrypt
  deriving DecidableEq

/-- The file name of the asset in a representation under a key epoch. -/
structure Slot where
  representation : Representation
  keyEpoch : Option Nat
  deriving DecidableEq

/-- The `CacheEntry` row of the asset. -/
structure Entry where
  diskId : Nat
  relpath : Slot
  size : Nat
  state : EntryState
  representation : Representation
  keyEpoch : Option Nat
  trusted : Bool
  deriving DecidableEq

/-- `_entry_final_path`: the canonical file of a row on its disk. -/
def Entry.slot (entry : Entry) : Slot := ⟨entry.representation, entry.keyEpoch⟩

/-- The value of a column after an update of what has changed since it was
loaded. -/
def column {Value : Type} [DecidableEq Value] (loaded assigned stored : Value) : Value :=
  if assigned = loaded then stored else assigned

@[simp] theorem column_self {Value : Type} [DecidableEq Value] (loaded assigned : Value) :
    column loaded assigned loaded = assigned := by
  unfold column
  split_ifs with same
  · exact same.symm
  · rfl

/-- The update of a row writes only the columns that differ from the loaded row. -/
def Entry.update (loaded assigned stored : Entry) : Entry where
  diskId := column loaded.diskId assigned.diskId stored.diskId
  relpath := column loaded.relpath assigned.relpath stored.relpath
  size := column loaded.size assigned.size stored.size
  state := column loaded.state assigned.state stored.state
  representation := column loaded.representation assigned.representation stored.representation
  keyEpoch := column loaded.keyEpoch assigned.keyEpoch stored.keyEpoch
  trusted := column loaded.trusted assigned.trusted stored.trusted

/-- An update of the loaded row itself gives the assigned row. -/
@[simp] theorem Entry.update_self (loaded assigned : Entry) :
    loaded.update assigned loaded = assigned := by
  simp [Entry.update]

/-- The committed row, the disks and the sizes of the asset's files. -/
structure World where
  entry : Option Entry
  disks : Nat → Option DiskState
  files : Nat → Slot → Option Nat

namespace World

variable (world : World) (disk : Nat) (slot : Slot)

def setFile (size : Option Nat) : World :=
  { world with
    files := fun other name =>
      if other = disk ∧ name = slot then size else world.files other name }

/-- `delete_entry`. -/
def deleteEntry : World := world.setFile disk slot none

/-- `write_entry`, with the size of the stored stream. -/
def writeEntry (size : Nat) : World := world.setFile disk slot (some size)

/-- Commit a row. -/
def commit (entry : Entry) : World := { world with entry := some entry }

end World

/-- What ends a write. -/
inductive WriteOutcome
  | wrote (size : Nat)
  | enospc
  | failed

/-- The answers of the environment of one step. -/
structure Answer where
  /-- The process stops here, or a statement or a commit fails. -/
  stops : Bool := false
  /-- The archival copy, the asset and the source are as a fill needs them. -/
  admitted : Bool := true
  /-- `entry_policy_conformant`. -/
  conformant : Bool := true
  /-- The identity of the disk is verified. -/
  identity : Bool := true
  /-- `choose_placement`. -/
  placement : Nat := 0
  /-- `_expected_representation`. -/
  representation : Representation := .rawBytes
  /-- The key epoch of an encrypted representation. -/
  keyEpoch : Nat := 0
  /-- The size of the asset. -/
  sizeHint : Nat := 0
  /-- `_artifactclass_policy_sha256`. -/
  policy : Nat := 0
  outcome : WriteOutcome := .failed
  /-- What a walker finds on the disk beside the known files. -/
  unknown : List Slot := []
  /-- There are more unknown files than the tripwire allows. -/
  tripwire : Bool := false
  /-- `_filling_is_live_or_young`. -/
  liveOrYoung : Bool := true
  /-- The entry is verified in this pass. -/
  verifies : Bool := false
  /-- The stored bytes pass their verification. -/
  verified : Bool := true

/-- A fill, from a given plaintext or from the usual sources, and the old file of a
drain that runs it. -/
structure Fill where
  plaintext : Bool
  drained : Option (Nat × Slot)
  deriving DecidableEq

/-- `_FillReservation`. -/
structure Reservation where
  diskId : Nat
  representation : Representation
  keyEpoch : Option Nat
  policy : Nat
  deriving DecidableEq

def Reservation.slot (reservation : Reservation) : Slot :=
  ⟨reservation.representation, reservation.keyEpoch⟩

/-- Where an operation stands. -/
inductive Place
  | fill (fill : Fill)
  | giveUp (fill : Fill) (loaded : Entry)
  | markLost (fill : Fill) (loaded : Entry)
  | reserve (fill : Fill) (attempts : Nat) (loaded : Option Entry)
  | write (fill : Fill) (attempts : Nat) (reservation : Reservation)
  | finalize (fill : Fill) (attempts : Nat) (reservation : Reservation) (size : Nat)
  | release (fill : Fill) (attempts : Nat) (reservation : Reservation) (again : Bool)
  | walk (disk : Nat) (destructive : Bool)
  | enumerate (disk : Nat) (destructive : Bool) (loaded : Option Entry)
  | clean (disk : Nat) (unknown : List Slot) (loaded : Option Entry)
  | check (disk : Nat) (destructive : Bool) (loaded : Entry)
  | walkLost (disk : Nat) (loaded : Entry)
  | walkCommit (loaded assigned : Entry)
  | drain (disk : Nat)
  | drainFill (disk : Nat) (old : Slot)
  | drainDelete (disk : Nat) (old : Slot)
  | lifecycle (disk : Nat) (state : DiskState)
  | done
  deriving DecidableEq

/-! ## Fills -/

section

variable (world : World) (fill : Fill) (attempts disk : Nat) (reservation : Reservation)
  (size : Nat) (destructive : Bool) (entry : Entry) (loaded : Option Entry) (answer : Answer)

/-- A fill has returned. -/
def Fill.returned : Place :=
  match fill.drained with
  | some (disk, old) => .drainDelete disk old
  | none => .done

/-- `_epoch_for_representation`. -/
def epochForRepresentation : Option Nat :=
  match answer.representation with
  | .rawBytes => none
  | .remEncrypt => some answer.keyEpoch

/-- `_usable_existing_disk`. -/
def usableExistingDisk : Option Nat :=
  loaded.bind fun entry =>
    if entry.state = .filling ∧ world.disks entry.diskId = some .active then some entry.diskId
    else none

/-- The row that `_prepare_filling_entry` assigns. -/
def fillingEntry (diskId : Nat) (answer : Answer) : Entry where
  diskId := diskId
  relpath := ⟨answer.representation, epochForRepresentation answer⟩
  size := answer.sizeHint
  state := .filling
  representation := answer.representation
  keyEpoch := epochForRepresentation answer
  trusted := true

/-- One attempt: `_prepare_filling_entry` and its commit. -/
def reserve : World × Place :=
  match attempts with
  | 0 => (world, .done)
  | remaining + 1 =>
    let diskId := (usableExistingDisk world loaded).getD answer.placement
    -- A placement is a disk that the session sees active.
    if world.disks diskId = some .active then
      let assigned := fillingEntry diskId answer
      let reservation : Reservation :=
        ⟨diskId, assigned.representation, assigned.keyEpoch, answer.policy⟩
      match loaded, world.entry with
      | none, none => (world.commit assigned, .write fill remaining reservation)
      | some old, some stored =>
        (world.commit (old.update assigned stored), .write fill remaining reservation)
      | _, _ => (world, .done)
    else (world, .done)

/-- `fill_target` and `fill_target_from_plaintext` up to the first effect. -/
def enterFill : World × Place :=
  if !answer.admitted then (world, .done)
  else
    match world.entry with
    | none => reserve world fill 4 none answer
    | some entry =>
      if entry.state = .present then
        if world.disks entry.diskId = some .active then
          if answer.conformant then (world, fill.returned)
          else if answer.identity then (world, .giveUp fill entry)
          else (world, .done)
        else if fill.plaintext ∧ world.disks entry.diskId = some .retiring then
          reserve world fill 4 (some entry) answer
        else (world, .done)
      else reserve world fill 4 (some entry) answer

/-- The row still carries the reservation. -/
def Reservation.holds : Bool :=
  entry.state = .filling && entry.diskId = reservation.diskId &&
    entry.representation = reservation.representation &&
    entry.keyEpoch = reservation.keyEpoch

/-- `_release_reserved_entry` on the current row. -/
def releaseReserved : World :=
  match world.entry with
  | none => world
  | some entry =>
    if entry.state = .filling ∧ entry.diskId = reservation.diskId then
      world.commit { entry with state := .lost }
    else world

/-- The row that `_finalize_filling_entry` commits. -/
def finalizedEntry (reservation : Reservation) (size : Nat) : Entry :=
  { entry with
    relpath := reservation.slot
    size := size
    state := .present
    representation := reservation.representation
    keyEpoch := reservation.keyEpoch
    trusted := true }

/-- `_finalize_filling_entry`.  It holds the write lock from its first look at the
row to its commit, so a deletion and the commit after it are one step. -/
def finalize : World × Place :=
  let discarded := world.deleteEntry reservation.diskId reservation.slot
  match world.entry with
  | none => (discarded, .done)
  | some entry =>
    if world.disks reservation.diskId = none ∨ reservation.holds entry = false then
      (releaseReserved discarded reservation, .done)
    else if answer.policy ≠ reservation.policy ∨
        answer.representation ≠ reservation.representation then
      let lost := { entry with state := .lost }
      (discarded.commit lost, .reserve fill attempts (some lost))
    else
      let present := finalizedEntry entry reservation size
      if answer.conformant then (world.commit present, fill.returned)
      else
        let lost := { present with state := .lost }
        (discarded.commit lost, .reserve fill attempts (some lost))

/-! ## Walker passes -/

/-- What `walk_disk` loads of the asset. -/
def loadedOn : Option Entry := world.entry.filter fun entry => entry.diskId = disk

/-- The files that a pass deletes: unknown ones, and the recorded file of a lost
row that is not its canonical file. -/
def cleanupPaths (unknown : List Slot) : List Slot :=
  (unknown.filter fun slot =>
    (world.files disk slot).isSome && loaded.map Entry.slot ≠ some slot) ++
  (loaded.filter fun entry =>
    entry.state = .lost && entry.relpath ≠ entry.slot).toList.map Entry.relpath

/-- A pass goes on to the entry that it has loaded. -/
def afterCleaning : Place :=
  match loaded with
  | some entry => .check disk destructive entry
  | none => .done

/-- Mark the entry lost after another look at the disk's identity, if the pass may
change anything. -/
def loseEntry : Place := if destructive && answer.identity then .walkLost disk entry else .done

/-- Verify a present entry, if this pass does. -/
def verifyEntry (loaded entry : Entry) (answer : Answer) : Place :=
  if answer.verifies then
    if answer.verified then
      if destructive then .walkCommit loaded { entry with trusted := true }
      else .done
    else loseEntry disk destructive loaded answer
  else if destructive then .walkCommit loaded entry
  else .done

/-- `_walk_entry`, followed by the sampled verification. -/
def walkEntry (loaded : Entry) (answer : Answer) : Place :=
  match loaded.state with
  | .filling =>
    match world.files disk loaded.slot with
    | some size =>
      if size = loaded.size then
        if destructive then
          verifyEntry disk destructive loaded
            { loaded with state := .present, trusted := true } answer
        else .done
      else loseEntry disk destructive loaded answer
    | none =>
      if answer.liveOrYoung then .done
      else loseEntry disk destructive loaded answer
  | .present =>
    if world.files disk loaded.slot = some loaded.size then
      verifyEntry disk destructive loaded loaded answer
    else loseEntry disk destructive loaded answer
  | .lost => .done

/-! ## Steps -/

/-- `_fresh_drain_entry`. -/
def freshDrainEntry : Option Entry :=
  world.entry.filter fun entry => entry.state = .present && entry.diskId = disk

/-- One step of an operation. -/
def step (place : Place) (answer : Answer) : Option (World × Place) :=
  if answer.stops then some (world, .done)
  else
    match place with
    | .fill fill => some (enterFill world fill answer)
    | .giveUp fill loaded =>
      some (world.deleteEntry loaded.diskId loaded.slot, .markLost fill loaded)
    | .markLost fill loaded =>
      let lost := { loaded with state := .lost }
      match world.entry with
      | some stored =>
        some (world.commit (loaded.update lost stored), .reserve fill 4 (some lost))
      | none => some (world, .done)
    | .reserve fill attempts loaded => some (reserve world fill attempts loaded answer)
    | .write fill attempts reservation =>
      match answer.outcome with
      | .wrote size =>
        some (world.writeEntry reservation.diskId reservation.slot size,
          .finalize fill attempts reservation size)
      | .enospc => some (world, .release fill attempts reservation true)
      | .failed => some (world, .release fill attempts reservation false)
    | .finalize fill attempts reservation size =>
      some (finalize world fill attempts reservation size answer)
    | .release fill attempts reservation again =>
      let released := releaseReserved world reservation
      some (released, if again then .reserve fill attempts released.entry else .done)
    | .walk disk destructive =>
      if answer.identity then some (world, .enumerate disk destructive (loadedOn world disk))
      else some (world, .done)
    | .enumerate disk destructive loaded =>
      if answer.tripwire then some (world, .done)
      else if destructive then
        some (world, .clean disk (cleanupPaths world disk loaded answer.unknown) loaded)
      else some (world, afterCleaning disk destructive loaded)
    | .clean disk [] loaded => some (world, afterCleaning disk true loaded)
    | .clean disk (slot :: rest) loaded =>
      some (world.deleteEntry disk slot, .clean disk rest loaded)
    | .check disk destructive loaded =>
      some (world, walkEntry world disk destructive loaded answer)
    | .walkLost disk loaded =>
      some (world.deleteEntry disk loaded.slot,
        .walkCommit loaded { loaded with state := .lost })
    | .walkCommit loaded assigned =>
      match world.entry with
      | some stored => some (world.commit (loaded.update assigned stored), .done)
      | none => some (world, .done)
    | .drain disk =>
      match freshDrainEntry world disk with
      | some entry =>
        if world.disks disk = some .retiring then some (world, .drainFill disk entry.slot)
        else some (world, .done)
      | none => some (world, .done)
    | .drainFill disk old =>
      match freshDrainEntry world disk with
      | some _ =>
        if world.disks disk = some .retiring then some (world, .fill ⟨true, some (disk, old)⟩)
        else some (world, .done)
      | none => some (world, .done)
    | .drainDelete disk old =>
      if world.disks disk = some .retiring then some (world.deleteEntry disk old, .done)
      else some (world, .done)
    | .lifecycle disk state =>
      some ({ world with disks := Function.update world.disks disk (some state) }, .done)
    | .done => none

end

/-- An operation has not begun or is over. -/
def Place.atRest : Place → Bool
  | .fill operation => operation.drained = none
  | .walk _ _ => true
  | .drain _ => true
  | .lifecycle _ _ => true
  | .done => true
  | _ => false

/-- Fills, walker passes, drains and changes of disk states in any interleaving. -/
def program : Program World Place Answer where
  initial := Place.atRest
  step _ := step

end Hdcache
end Sutradhara
