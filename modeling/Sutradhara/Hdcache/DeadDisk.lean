import Sutradhara.Hdcache.Drain
import Sutradhara.Hdcache.Present

/-!
# Marking a disk dead

Marking a disk dead sets its state in one transaction and then marks its entries
lost, in transactions of bounded size, until one of them finds nothing to mark.
Fills of any assets run beside it.  A fill commits several times within one
session, whose commits do not expire what it has loaded: an attempt after the
first sees the disk that the fill still holds in the state in which it was last
read.  It can therefore reserve a disk that has been marked dead in between, and
its finalisation does not look at the disk's state.  When every later attempt
finds the entry and the disk as it last saw them, a disk that has been marked dead
holds no live entry.
-/

namespace Sutradhara
namespace Hdcache

open Foundation
open Foundation.Interleaving

/-! ## Fills over one session -/

/-- A disk row that a session keeps, with the state in which placement sees it. -/
structure HeldDisk where
  diskId : Nat
  state : Option DiskState
  deriving DecidableEq

/-- A fill of one asset, and the disk row that it holds from an earlier
transaction. -/
structure FillOperation where
  digest : Nat
  place : Place
  held : Option HeldDisk
  deriving DecidableEq

/-- The disks as a session sees them: the row that it holds is not read again. -/
def seenDisks (disks : Nat → Option DiskState) : Option HeldDisk → Nat → Option DiskState
  | none => disks
  | some held => Function.update disks held.diskId held.state

section

variable (operation : FillOperation) (cache : Cache)

/-- What the next step of a fill sees.  The first transaction reads everything anew,
and so does the finalisation, which refreshes the entry and the disk. -/
def FillOperation.sees : World :=
  match operation.place with
  | .reserve _ _ _ =>
    { cache.world operation.digest with disks := seenDisks cache.disks operation.held }
  | _ => cache.world operation.digest

/-- The disk row that a fill holds after a step to the given place. -/
def FillOperation.holding (next : Place) :
    Option HeldDisk :=
  match operation.place, next with
  | _, .giveUp _ loaded => some ⟨loaded.diskId, cache.disks loaded.diskId⟩
  | .finalize _ _ reservation _, _ => some ⟨reservation.diskId, cache.disks reservation.diskId⟩
  -- `_flag_disk_over_reserve`: the held row is no candidate any more.
  | .release _ _ reservation _, _ => some ⟨reservation.diskId, none⟩
  | _, _ => operation.held

/-- Store what was done to the row and the files of one asset. -/
def Cache.keep (digest : Nat) (world : World) : Cache where
  entries :=
    match world.entry with
    | none => cache.entries
    | some entry =>
      match found : cache.entries.find? digest with
      | some _ => cache.entries.update digest (assign entry)
      | none => cache.entries.insert ⟨digest, entry⟩ found
  disks := cache.disks
  files := fun other => if other = digest then world.files else cache.files other

end

/-! ## Lost batches -/

/-- `LOST_MARK_BATCH_SIZE`. -/
def lostMarkBatchSize : Nat := 1000

section

variable (cache : Cache) (disk : Nat)

/-- The rows that `_mark_lost_batch` selects. -/
def Cache.lostBatch (batchSize : Nat) : List Nat :=
  (((cache.entries.rows.filter fun row =>
    row.entry.diskId = disk && row.entry.state ≠ .lost).map
      CachedAsset.contentSha256).insertionSort (· ≤ ·)).take batchSize

/-- Mark the rows of a batch lost. -/
def loseBatch (batch : List Nat) : Rewrite CachedAsset.contentSha256 where
  apply row :=
    if row.contentSha256 ∈ batch then { row with entry := { row.entry with state := .lost } }
    else row
  keeps row := by
    split
    · rfl
    · rfl

/-! ## Steps -/

/-- A fill, or the stages of `mark_dead`. -/
inductive DiskOperation
  | fill (operation : FillOperation)
  | markDead (disk batchSize : Nat)
  | setDead (disk batchSize : Nat)
  | markLost (disk batchSize : Nat)
  | returned (disk : Nat)
  | failed
  deriving DecidableEq

/-- The answers of the environment. -/
inductive DiskAnswer
  | fill (answer : Answer)
  /-- Deleting the file of an entry that is given up times out. -/
  | timeout
  /-- The disk is not mounted, or that is confirmed, and no statement fails. -/
  | mark (proceeds : Bool)

def Cache.setState (state : DiskState) : Cache :=
  { cache with disks := Function.update cache.disks disk (some state) }

/-- A step of a fill, over what its session sees. -/
def FillOperation.step (operation : FillOperation) (cache : Cache) (answer : Answer) :
    Option (Cache × DiskOperation) :=
  (Hdcache.step (operation.sees cache) operation.place answer).map fun result =>
    (cache.keep operation.digest result.1,
      .fill ⟨operation.digest, result.2, operation.holding cache result.2⟩)

/-- One transaction of an operation. -/
def DiskOperation.step (cache : Cache) :
    DiskOperation → DiskAnswer → Option (Cache × DiskOperation)
  | .fill operation, .fill answer => operation.step cache answer
  | .fill operation, .timeout =>
    match operation.place with
    | .giveUp _ loaded =>
      some (cache.setState loaded.diskId .absent,
        .fill { operation with place := .done })
    | _ => none
  | .markDead disk batchSize, .mark proceeds =>
    some (cache,
      if proceeds && (cache.disks disk).isSome then .setDead disk batchSize
      else .failed)
  | .setDead disk batchSize, .mark proceeds =>
    if proceeds && (cache.disks disk).isSome then
      some (cache.setState disk .dead, .markLost disk batchSize)
    else some (cache, .failed)
  | .markLost disk batchSize, .mark proceeds =>
    if proceeds then
      let batch := cache.lostBatch disk batchSize
      if batch = [] then some (cache, .returned disk)
      else
        some ({ cache with entries := cache.entries.rewrite (loseBatch batch) },
          .markLost disk batchSize)
    else some (cache, .failed)
  | _, _ => none

/-- A fill begins, or the marking of a disk with a positive batch size. -/
def DiskOperation.begins : DiskOperation → Bool
  | .fill ⟨_, .fill ⟨_, none⟩, none⟩ => true
  | .markDead _ batchSize => 0 < batchSize
  | _ => false

/-- Fills and markings in any interleaving of their transactions. -/
def deadDiskProgram : Program Cache DiskOperation DiskAnswer where
  initial := DiskOperation.begins
  step _ := DiskOperation.step

/-- An operation is over. -/
def DiskOperation.ended : DiskOperation → Bool
  | .fill operation => operation.place = .done
  | .returned _ => true
  | .failed => true
  | _ => false

/-- No entry in state filling or present refers to the disk. -/
def NothingLive (cache : Cache) : Prop :=
  ∀ row ∈ cache.entries.rows, row.entry.diskId = disk → row.entry.state = .lost

/-- Once a disk has been marked dead and all operations have ended, nothing on it is
live. -/
def DeadDiskLaw : Prop :=
  ∀ (cache : Cache) (moves : List (Move DiskOperation DiskAnswer))
    (final : Config Cache DiskOperation) (disk : Nat),
    Transition.run deadDiskProgram.move ⟨cache, []⟩ moves = some final →
    .returned disk ∈ final.threads →
    (∀ operation ∈ final.threads, operation.ended = true) →
    NothingLive disk final.shared

/-- An attempt after the first finds the entry and the disk as it last saw them. -/
def FillOperation.current (operation : FillOperation) (cache : Cache) : Bool :=
  match operation.place with
  | .reserve _ _ loaded =>
    loaded = (cache.world operation.digest).entry &&
      operation.held.all fun held => held.state = none || held.state = cache.disks held.diskId
  | _ => true

/-- The move is not an attempt on rows that have changed since the fill read them. -/
def fresh (config : Config Cache DiskOperation) : Move DiskOperation DiskAnswer → Bool
  | .spawn _ => true
  | .act index _ =>
    match config.threads[index]? with
    | some (.fill operation) => operation.current config.shared
    | _ => true

/-! ## One asset -/

/-- The row, if it is on the disk, is lost. -/
def LostOn (entry : Option Entry) : Prop :=
  ∀ row, entry = some row → row.diskId = disk → row.state = .lost

end

/-- A fill stands here. -/
def Place.ofFill : Place → Bool
  | .fill _ => true
  | .giveUp _ _ => true
  | .markLost _ _ => true
  | .reserve _ _ _ => true
  | .write _ _ _ => true
  | .finalize _ _ _ _ => true
  | .release _ _ _ _ => true
  | .drainDelete _ _ => true
  | .done => true
  | _ => false

@[simp] theorem ofFill_returned (fill : Fill) : fill.returned.ofFill = true := by
  unfold Fill.returned
  split
  · rfl
  · rfl

theorem LostOn.of_ne (elsewhere : entry.diskId ≠ disk) : LostOn disk (some entry) := by
  rintro _ ⟨⟩ there
  exact absurd there elsewhere

theorem LostOn.of_lost (lost : entry.state = .lost) : LostOn disk (some entry) := by
  rintro _ ⟨⟩ _
  exact lost

/-- What a step of a fill leaves: the place of a fill, and no live row on a disk that
is not active and had none. -/
structure Spared (world : World) (result : World × Place) : Prop where
  lost : ∀ disk, world.disks disk ≠ some .active → LostOn disk world.entry →
    LostOn disk result.1.entry
  place : result.2.ofFill = true

/-- A step that leaves the row as it is. -/
theorem spared_of_entry_eq (same : next.entry = world.entry) (ofFill : place.ofFill = true) :
    Spared world (next, place) where
  lost disk _ lost := by
    rw [same]
    exact lost
  place := ofFill

/-- A step that commits a lost row. -/
theorem spared_of_lost
    {world next : World}
    (lost : entry.state = .lost)
    (ofFill : place.ofFill = true) : Spared world (next.commit entry, place) :=
  ⟨fun _ _ _ => LostOn.of_lost lost, ofFill⟩

/-- A reservation on the current row goes to an active disk. -/
theorem spared_reserve (world : World) (fill : Fill) (attempts : Nat) (answer : Answer) :
    Spared world (reserve world fill attempts world.entry answer) := by
  cases attempts with
  | zero => exact spared_of_entry_eq rfl rfl
  | succ remaining =>
    simp only [reserve]
    split_ifs with active
    · have elsewhere : ∀ disk, world.disks disk ≠ some .active →
          (usableExistingDisk world world.entry).getD answer.placement ≠ disk := by
        rintro _ inactive rfl
        exact inactive active
      cases stored : world.entry with
      | none =>
        rw [stored] at elsewhere
        exact ⟨fun disk inactive _ => LostOn.of_ne (elsewhere disk inactive), rfl⟩
      | some entry =>
        rw [stored] at elsewhere
        refine ⟨fun disk inactive _ => ?_, rfl⟩
        simp only [Entry.update_self]
        exact LostOn.of_ne (elsewhere disk inactive)
    · exact spared_of_entry_eq rfl rfl

theorem lostOn_releaseReserved (lost : LostOn disk world.entry) :
    LostOn disk (releaseReserved world reservation).entry := by
  unfold releaseReserved
  cases stored : world.entry with
  | none => exact lost
  | some entry =>
    dsimp only
    split_ifs with reserved
    · exact LostOn.of_lost rfl
    · exact lost

/-- A finalisation keeps the row on its disk, and does not find a lost row in the
state that it needs. -/
theorem spared_finalize : Spared world (finalize world fill attempts reservation size answer) := by
  unfold finalize
  cases stored : world.entry with
  | none => exact spared_of_entry_eq rfl rfl
  | some entry =>
    dsimp only
    split_ifs with changed policy conformant
    · refine ⟨fun disk _ lost => ?_, rfl⟩
      apply lostOn_releaseReserved
      exact lost
    · exact spared_of_lost rfl rfl
    · refine ⟨fun disk _ lost => ?_, ofFill_returned fill⟩
      have holds : reservation.holds entry = true := by simpa using (not_or.mp changed).2
      have filling : entry.state = .filling := by
        simp only [Reservation.holds, Bool.and_eq_true, decide_eq_true_eq] at holds
        exact holds.1.1.1
      apply LostOn.of_ne
      intro there
      have gone := lost entry stored there
      rw [filling] at gone
      cases gone
    · exact spared_of_lost rfl rfl

theorem spared_enterFill : Spared world (enterFill world fill answer) := by
  have reserves := spared_reserve world fill 4 answer
  unfold enterFill
  cases admitted : answer.admitted with
  | false => exact spared_of_entry_eq rfl rfl
  | true =>
    cases stored : world.entry with
    | none =>
      rw [stored] at reserves
      exact reserves
    | some entry =>
      rw [stored] at reserves
      simp only [Bool.not_true, Bool.false_eq_true, if_false]
      split_ifs with present active conformant identity retiring
      · exact spared_of_entry_eq rfl (ofFill_returned fill)
      · exact spared_of_entry_eq rfl rfl
      · exact spared_of_entry_eq rfl rfl
      · exact reserves
      · exact spared_of_entry_eq rfl rfl
      · exact reserves

/-- No step of a fill whose attempt is on the current row makes it live on a disk
that is not active. -/
theorem spared_step
    (ofFill : place.ofFill = true)
    (current : ∀ fill attempts loaded, place = .reserve fill attempts loaded → loaded = world.entry)
    (stepped : step world place answer = some result) : Spared world result := by
  unfold step at stepped
  by_cases stops : answer.stops = true
  · rw [if_pos stops] at stepped
    cases stepped
    exact spared_of_entry_eq rfl rfl
  · rw [if_neg stops] at stepped
    cases place with
    | fill fill =>
      cases stepped
      exact spared_enterFill
    | giveUp fill loaded =>
      cases stepped
      exact spared_of_entry_eq rfl rfl
    | markLost fill loaded =>
      cases stored : world.entry with
      | none =>
        simp only [stored] at stepped
        cases stepped
        exact spared_of_entry_eq rfl rfl
      | some entry =>
        simp only [stored] at stepped
        cases stepped
        refine ⟨fun disk _ lost => ?_, rfl⟩
        rw [stored] at lost
        rintro _ ⟨⟩ there
        have same : entry.diskId = disk := by simpa [Entry.update, column] using there
        simp [Entry.update, column, lost entry rfl same]
    | reserve fill attempts loaded =>
      cases stepped
      rw [current fill attempts loaded rfl]
      exact spared_reserve world fill attempts answer
    | write fill attempts reservation =>
      cases outcome : answer.outcome with
      | wrote size =>
        simp only [outcome] at stepped
        cases stepped
        exact spared_of_entry_eq rfl rfl
      | enospc =>
        simp only [outcome] at stepped
        cases stepped
        exact spared_of_entry_eq rfl rfl
      | failed =>
        simp only [outcome] at stepped
        cases stepped
        exact spared_of_entry_eq rfl rfl
    | finalize fill attempts reservation size =>
      cases stepped
      exact spared_finalize
    | release fill attempts reservation again =>
      cases stepped
      refine ⟨fun _ _ lost => lostOn_releaseReserved lost, ?_⟩
      cases again with
      | true => rfl
      | false => rfl
    | drainDelete old slot =>
      dsimp only at stepped
      split_ifs at stepped with retiring
      · cases stepped
        exact spared_of_entry_eq rfl rfl
      · cases stepped
        exact spared_of_entry_eq rfl rfl
    | done => cases stepped
    | _ => cases ofFill

/-! ## All rows -/

theorem NothingLive.lostOn (nothing : NothingLive disk cache) :
    LostOn disk (cache.world digest).entry := by
  intro entry stored there
  obtain ⟨row, found, rfl⟩ := Option.map_eq_some_iff.mp stored
  exact nothing row ((Table.find?_eq_some_iff ..).mp found).1 there

/-- The rows after one asset has been stored are its row and the others. -/
theorem NothingLive.keep
    (nothing : NothingLive disk cache)
    (digest : Nat)
    (lost : LostOn disk world.entry) : NothingLive disk (cache.keep digest world) := by
  intro row member there
  unfold Cache.keep at member
  cases stored : world.entry with
  | none =>
    simp only [stored] at member
    exact nothing row member there
  | some entry =>
    simp only [stored] at member
    split at member
    · rcases (Table.mem_update ..).mp member with ⟨old, _, _, rfl⟩ | ⟨kept, _⟩
      · exact lost entry stored there
      · exact nothing row kept there
    · rcases (Table.mem_insert ..).mp member with kept | rfl
      · exact nothing row kept there
      · exact lost entry stored there

theorem NothingLive.rewrite (nothing : NothingLive disk cache) (batch : List Nat) :
    NothingLive disk { cache with entries := cache.entries.rewrite (loseBatch batch) } := by
  intro row member there
  obtain ⟨old, kept, rfl⟩ := (Table.mem_rewrite ..).mp member
  unfold loseBatch at there ⊢
  dsimp only at there ⊢
  split_ifs at there ⊢ with marked
  · rfl
  · exact nothing old kept there

/-- A batch that finds nothing to mark has looked at every row of the disk. -/
theorem nothingLive_of_lostBatch_eq_nil
    (positive : 0 < batchSize)
    (empty : cache.lostBatch disk batchSize = []) : NothingLive disk cache := by
  intro row member there
  by_contra live
  have selected : row.contentSha256 ∈ ((cache.entries.rows.filter fun row =>
      row.entry.diskId = disk && row.entry.state ≠ .lost).map
        CachedAsset.contentSha256).insertionSort (· ≤ ·) := by
    rw [List.mem_insertionSort]
    refine List.mem_map_of_mem (List.mem_filter.mpr ⟨member, ?_⟩)
    simp [there, live]
  rcases List.take_eq_nil_iff.mp empty with zero | none
  · omega
  · rw [none] at selected
    cases selected

/-- What an operation relies on. -/
def DiskOperation.Relies (cache : Cache) : DiskOperation → Prop
  | .fill operation => operation.place.ofFill = true
  | .markDead _ batchSize => 0 < batchSize
  | .setDead _ batchSize => 0 < batchSize
  | .markLost disk batchSize => 0 < batchSize ∧ cache.disks disk ≠ some .active
  | .returned disk => cache.disks disk ≠ some .active ∧ NothingLive disk cache
  | .failed => True

/-- No disk becomes active, and a disk that is not active gains no live entry. -/
structure Quiet (before after : Cache) : Prop where
  inactive : ∀ disk, before.disks disk ≠ some .active → after.disks disk ≠ some .active
  nothing : ∀ disk, before.disks disk ≠ some .active → NothingLive disk before →
    NothingLive disk after

theorem Quiet.refl (cache : Cache) : Quiet cache cache :=
  ⟨fun _ inactive => inactive, fun _ _ nothing => nothing⟩

theorem Quiet.setState
    (cache : Cache)
    (disk : Nat)
    (passive : state ≠ .active) : Quiet cache (cache.setState disk state) where
  inactive other inactive := by
    unfold Cache.setState
    by_cases same : other = disk
    · subst same
      simpa using passive
    · simpa [Function.update_of_ne same] using inactive
  nothing _ _ nothing := nothing

theorem Quiet.relies
    {before after : Cache}
    (quiet : Quiet before after)
    {operation : DiskOperation}
    (relies : operation.Relies before) : operation.Relies after := by
  cases operation with
  | fill operation => exact relies
  | markDead disk batchSize => exact relies
  | setDead disk batchSize => exact relies
  | markLost disk batchSize => exact ⟨relies.1, quiet.inactive disk relies.2⟩
  | returned disk => exact ⟨quiet.inactive disk relies.1, quiet.nothing disk relies.1 relies.2⟩
  | failed => trivial

/-- A disk that is not active is not seen active by a current attempt. -/
theorem sees_of_current {operation : FillOperation} (current : operation.current cache = true) :
    (∀ disk, cache.disks disk ≠ some .active → (operation.sees cache).disks disk ≠ some .active) ∧
      (operation.sees cache).entry = (cache.world operation.digest).entry ∧
      ∀ fill attempts loaded, operation.place = .reserve fill attempts loaded →
        loaded = (operation.sees cache).entry := by
  obtain ⟨digest, place, held⟩ := operation
  cases place with
  | reserve fill attempts loaded =>
    simp only [FillOperation.current, Bool.and_eq_true, decide_eq_true_eq] at current
    refine ⟨fun disk inactive => ?_, rfl, ?_⟩
    · cases held with
      | none => exact inactive
      | some held =>
        simp only [Option.all_some, Bool.or_eq_true, decide_eq_true_eq] at current
        by_cases same : disk = held.diskId
        · subst same
          simp only [FillOperation.sees, seenDisks, Function.update_self]
          rcases current.2 with flagged | unchanged
          · simp [flagged]
          · rw [unchanged]
            exact inactive
        · simpa [FillOperation.sees, seenDisks, Function.update_of_ne same] using inactive
    · rintro _ _ _ ⟨⟩
      exact current.1
  | _ => exact ⟨fun disk inactive => inactive, rfl, fun _ _ _ impossible => by cases impossible⟩

/-- A transaction keeps every disk that is not active free of live entries, and gives
its own operation what it relies on. -/
theorem quiet_step
    {operation after : DiskOperation}
    (relies : operation.Relies cache)
    (current : ∀ fill, operation = .fill fill → fill.current cache = true)
    (stepped : operation.step cache answer = some (next, after)) :
    Quiet cache next ∧ after.Relies next := by
  cases operation with
  | fill operation =>
    cases answer with
    | fill answer =>
      obtain ⟨result, taken, same⟩ := Option.map_eq_some_iff.mp stepped
      cases same
      obtain ⟨inactive, entry, loaded⟩ := sees_of_current (current operation rfl)
      have spared := spared_step relies loaded taken
      refine ⟨⟨fun _ kept => kept, fun disk passive nothing => ?_⟩, spared.place⟩
      have lost : LostOn disk (operation.sees cache).entry := by
        rw [entry]
        exact nothing.lostOn
      exact nothing.keep operation.digest (spared.lost disk (inactive disk passive) lost)
    | timeout =>
      simp only [DiskOperation.step] at stepped
      split at stepped
      · cases stepped
        exact ⟨Quiet.setState cache _ (by decide), rfl⟩
      · cases stepped
    | mark proceeds => cases stepped
  | markDead disk batchSize =>
    cases answer with
    | mark proceeds =>
      cases stepped
      refine ⟨Quiet.refl cache, ?_⟩
      split
      · exact relies
      · trivial
    | _ => cases stepped
  | setDead disk batchSize =>
    cases answer with
    | mark proceeds =>
      simp only [DiskOperation.step] at stepped
      split at stepped
      · cases stepped
        refine ⟨Quiet.setState cache disk (by decide), relies, ?_⟩
        simp [Cache.setState]
      · cases stepped
        exact ⟨Quiet.refl cache, trivial⟩
    | _ => cases stepped
  | markLost disk batchSize =>
    cases answer with
    | mark proceeds =>
      simp only [DiskOperation.step] at stepped
      split_ifs at stepped with proceeding empty
      · cases stepped
        exact ⟨Quiet.refl cache, relies.2, nothingLive_of_lostBatch_eq_nil relies.1 empty⟩
      · cases stepped
        exact ⟨⟨fun _ kept => kept, fun _ _ nothing => nothing.rewrite _⟩, relies⟩
      · cases stepped
        exact ⟨Quiet.refl cache, trivial⟩
    | _ => cases stepped
  | returned disk => cases stepped
  | failed => cases stepped

theorem relies_of_begins {operation : DiskOperation} (begins : operation.begins = true) :
    operation.Relies cache := by
  unfold DiskOperation.begins at begins
  split at begins
  · rfl
  · simpa [DiskOperation.Relies] using begins
  · cases begins

/-! ## Whole runs -/

/-- Every operation has what it relies on. -/
def Reliable : Config Cache DiskOperation → Prop :=
  Program.Annotated (fun _ => True) (fun cache _ operation => operation.Relies cache)
    (fun _ _ => True)

theorem reliable_move
    (config : Config Cache DiskOperation)
    (move : Move DiskOperation DiskAnswer)
    (next : Config Cache DiskOperation)
    (reliable : Reliable config)
    (allowed : fresh config move = true)
    (moved : deadDiskProgram.move config move = some next) :
    Reliable next := by
  refine Program.annotated_move deadDiskProgram
    (fun config move => fresh config move = true) (fun _ _ _ => trivial)
    ?_ ?_ config move next reliable allowed moved
  · intro config operation _ begins _
    exact ⟨fun _ => relies_of_begins begins, fun _ _ _ => trivial⟩
  · intro config index answer operation shared' operation' reliable allowed present stepped
    simp only [fresh, present] at allowed
    have current : ∀ fill, operation = .fill fill → fill.current config.shared = true := by
      rintro fill rfl
      exact allowed
    obtain ⟨quiet, own⟩ := quiet_step (reliable.thread index operation present) current stepped
    refine ⟨trivial, own, fun other otherOperation _ otherPresent => ⟨?_, trivial⟩⟩
    exact quiet.relies (reliable.thread other otherOperation otherPresent)

/-- In every run in which attempts find the rows as they last saw them, nothing is
live on a disk once marking it dead has returned. -/
theorem nothingLive_of_fresh
    (cache : Cache)
    (moves : List (Move DiskOperation DiskAnswer))
    (final : Config Cache DiskOperation)
    (disk : Nat)
    (admitted : Transition.Admits deadDiskProgram.move
      (fun config move => fresh config move = true) ⟨cache, []⟩ moves)
    (ended : Transition.run deadDiskProgram.move ⟨cache, []⟩ moves = some final)
    (returned : .returned disk ∈ final.threads) : NothingLive disk final.shared := by
  have reliable : Reliable final :=
    Transition.invariant_of_admits _ Reliable reliable_move
      (Program.annotated_of_idle _ (fun _ _ => True) trivial) admitted ended
  obtain ⟨index, present⟩ := List.mem_iff_getElem?.mp returned
  exact (reliable.thread index _ present).2

/-! ## A fill that tries again -/

/-- No entries, and one active disk. -/
def oneDisk : Cache where
  entries := Table.empty
  disks disk := if disk = 0 then some .active else none
  files _ _ _ := none

/-- The marking of disk 0, by the second thread. -/
def marking : List (Move DiskOperation DiskAnswer) :=
  [.spawn (.markDead 0 lostMarkBatchSize), .act 1 (.mark true), .act 1 (.mark true)]

/-- A fill finds at its finalisation that the policy has changed and gives the entry
up; the disk is marked dead; the fill tries again. -/
def secondAttempt : List (Move DiskOperation DiskAnswer) :=
  [.spawn (.fill ⟨7, .fill ⟨false, none⟩, none⟩), .act 0 (.fill { sizeHint := 3 }),
    .act 0 (.fill { outcome := .wrote 3 }), .act 0 (.fill { policy := 1 })] ++
  marking ++ [.act 1 (.mark true), .act 0 (.fill { sizeHint := 3, policy := 1 }),
    .act 0 (.fill { outcome := .wrote 3 }), .act 0 (.fill { policy := 1 })]

/-- The entry that the fill leaves. -/
def presentEntry : Entry := ⟨0, ⟨.rawBytes, none⟩, 3, .present, .rawBytes, none, true⟩

/-- The second attempt makes an entry present on the dead disk. -/
theorem not_deadDiskLaw : ¬ DeadDiskLaw := by
  intro law
  have reached : (Transition.run deadDiskProgram.move ⟨oneDisk, []⟩ secondAttempt).map
      (fun final => (final.shared.entries.rows, final.threads)) =
      some ([⟨7, presentEntry⟩], [.fill ⟨7, .done, some ⟨0, some .dead⟩⟩, .returned 0]) := by
    decide
  obtain ⟨final, ended, same⟩ := Option.map_eq_some_iff.mp reached
  have rows : final.shared.entries.rows = [⟨7, presentEntry⟩] := congrArg Prod.fst same
  have threads : final.threads =
      [.fill ⟨7, .done, some ⟨0, some .dead⟩⟩, .returned 0] := congrArg Prod.snd same
  have nothing := law oneDisk secondAttempt final 0 ended (by simp [threads])
    (by simp [threads, DiskOperation.ended])
  have lost := nothing ⟨7, presentEntry⟩ (by simp [rows]) rfl
  cases lost

/-- The disk is marked dead between the reservation of a fill and its write. -/
def markedWhileWriting : List (Move DiskOperation DiskAnswer) :=
  [.spawn (.fill ⟨7, .fill ⟨false, none⟩, none⟩), .act 0 (.fill { sizeHint := 3 })] ++
  marking ++ [.act 0 (.fill { outcome := .wrote 3 }), .act 1 (.mark true),
    .act 0 (.fill {}), .act 1 (.mark true)]

/-- The reservation is marked lost, and the fill ends without an entry on the disk. -/
theorem nothingLive_of_fresh_marked : ∃ final,
      Transition.run deadDiskProgram.move ⟨oneDisk, []⟩ markedWhileWriting = some final ∧
        final.threads = [.fill ⟨7, .done, some ⟨0, some .dead⟩⟩, .returned 0] ∧
        NothingLive 0 final.shared := by
  have reached : (Transition.run deadDiskProgram.move ⟨oneDisk, []⟩
      markedWhileWriting).map (fun final => final.threads) =
      some [.fill ⟨7, .done, some ⟨0, some .dead⟩⟩, .returned 0] := by
    decide
  obtain ⟨final, ended, threads⟩ := Option.map_eq_some_iff.mp reached
  exact ⟨final, ended, threads, nothingLive_of_fresh oneDisk markedWhileWriting final 0
    (by decide) ended (by simp [threads])⟩

end Hdcache
end Sutradhara
