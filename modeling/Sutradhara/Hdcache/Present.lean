import Sutradhara.Hdcache.Entries

/-!
# Present entries have their files

A fill that finds its reservation gone deletes the file it has written, although
another fill may have made the row present with that very file.  Deleting a file
also comes before the commit that stops the row from naming it.  When operations
do not overlap and none of them gives up a present entry, a present row always
names a file of the recorded size, wherever an operation stops.
-/

namespace Sutradhara
namespace Hdcache

open Foundation List
open Foundation.Interleaving

/-- A present row names a file of the recorded size. -/
def PresentHasFile (world : World) : Prop :=
  ∀ entry, world.entry = some entry → entry.state = .present →
    world.files entry.diskId entry.relpath = some entry.size

/-- In every interleaving a present row keeps its file. -/
def PresentLaw : Prop :=
  ∀ world moves final,
    PresentHasFile world →
    (∀ entry, world.entry = some entry → entry.relpath = entry.slot) →
    Transition.run program.move ⟨world, []⟩ moves = some final →
    PresentHasFile final.shared

/-- The operation is about to give up a present entry: a fill to whose policy or key it
no longer conforms, or a pass that misses its file or finds it corrupt. -/
def givesUpPresent (world : World) (answer : Answer) : Place → Bool
  | .fill _ =>
    answer.admitted && !answer.conformant && answer.identity && world.entry.any fun entry =>
      entry.state = .present && world.disks entry.diskId = some .active
  | .check disk destructive loaded =>
    destructive && answer.identity && loaded.state = .present &&
      (world.files disk loaded.slot ≠ some loaded.size || answer.verifies && !answer.verified)
  | _ => false

/-- A move by one operation while all others are at rest, which stops there or does not
give up a present entry. -/
def undisturbed (config : Config World Place) : Move Place Answer → Bool
  | .spawn _ => true
  | .act index answer =>
    (config.threads.zipIdx.all fun thread => thread.2 = index || thread.1.atRest) &&
      (answer.stops || config.threads[index]?.all fun place =>
        !givesUpPresent config.shared answer place)

/-! ## Rows and files -/

variable {disk : Nat}

variable {world : World}

@[simp] theorem World.files_setFile_self :
    (world.setFile disk slot size).files disk slot = size :=
  if_pos ⟨rfl, rfl⟩

/-- What every state keeps: present rows have their files, and a row records its
canonical file. -/
structure Kept (world : World) : Prop where
  present : PresentHasFile world
  canonical : ∀ entry, world.entry = some entry → entry.relpath = entry.slot

/-- The row is not present. -/
def NotPresent (world : World) : Prop :=
  ∀ entry, world.entry = some entry → entry.state ≠ .present

theorem Kept.commit_of_ne_present
    (absent : entry.state ≠ .present)
    (canonical : entry.relpath = entry.slot) : Kept (world.commit entry) where
  present := by
    rintro _ ⟨⟩ isPresent
    exact absurd isPresent absent
  canonical := by
    rintro _ ⟨⟩
    exact canonical

/-- A file that no present row names may be written or deleted. -/
theorem Kept.setFile
    (kept : Kept world)
    (size : Option Nat)
    (unnamed : ∀ entry, world.entry = some entry → entry.state = .present →
      entry.diskId = disk → entry.relpath ≠ slot) :
    Kept (world.setFile disk slot size) where
  present := by
    intro entry stored isPresent
    refine (if_neg fun both => ?_).trans (kept.present entry stored isPresent)
    exact unnamed entry stored isPresent both.1 both.2
  canonical := kept.canonical

theorem Kept.setFile_of_notPresent (kept : Kept world) (absent : NotPresent world) :
    Kept (world.setFile disk slot size) :=
  kept.setFile size fun entry stored isPresent => absurd isPresent (absent entry stored)

/-! ## What an operation relies on -/

/-- The disk of a drain is retiring. -/
def Fill.Retiring (fill : Fill) (world : World) : Prop :=
  ∀ disk old, fill.drained = some (disk, old) → world.disks disk = some .retiring

/-- A fill writes to an active disk, so not to the disk of its drain. -/
def Fill.Apart (fill : Fill) (world : World) (diskId : Nat) : Prop :=
  fill.Retiring world ∧ ∀ disk old, fill.drained = some (disk, old) → diskId ≠ disk

/-- What holds while an operation stands at a place and all others are at rest. -/
def At (world : World) (_ : Nat) : Place → Prop
  | .fill fill => fill.Retiring world
  | .giveUp _ _ => False
  | .markLost _ _ => False
  | .reserve fill _ loaded => fill.Retiring world ∧ loaded = world.entry
  | .write fill _ reservation => fill.Apart world reservation.diskId ∧ NotPresent world
  | .finalize fill _ reservation size =>
    fill.Apart world reservation.diskId ∧ NotPresent world ∧
      world.files reservation.diskId reservation.slot = some size
  | .release fill _ _ _ => fill.Retiring world ∧ NotPresent world
  | .enumerate disk _ loaded => loaded = loadedOn world disk
  | .clean disk unknown loaded =>
    loaded = loadedOn world disk ∧ ∀ slot ∈ unknown, ∀ entry,
      world.entry = some entry → entry.state = .present → entry.diskId = disk → entry.relpath ≠ slot
  | .check disk _ loaded => world.entry = some loaded ∧ loaded.diskId = disk
  | .walkLost _ loaded => world.entry = some loaded ∧ loaded.state ≠ .present
  | .walkCommit loaded assigned =>
    world.entry = some loaded ∧ assigned.relpath = assigned.slot ∧
      (assigned.state = .present →
        world.files assigned.diskId assigned.relpath = some assigned.size)
  | .drainDelete disk _ =>
    world.disks disk = some .retiring ∧ ∀ entry, world.entry = some entry → entry.diskId ≠ disk
  | _ => True

theorem at_of_atRest (rest : place.atRest = true) :
    At world index place := by
  cases place with
  | fill fill =>
    intro disk old drained
    simp only [Place.atRest, decide_eq_true_eq] at rest
    rw [rest] at drained
    cases drained
  | _ => trivial

/-- After a step the common state is kept and the operation has what it relies on
at its next place. -/
def Fine (result : World × Place) : Prop := Kept result.1 ∧ At result.1 0 result.2

theorem fine_done (kept : Kept world) : Fine (world, .done) := ⟨kept, trivial⟩

/-! ## Fills -/

variable {fill : Fill}

theorem fine_returned
    (kept : Kept world)
    (retiring : fill.Retiring world)
    (apart : ∀ entry disk old, world.entry = some entry →
      fill.drained = some (disk, old) → entry.diskId ≠ disk) :
    Fine (world, fill.returned) := by
  refine ⟨kept, ?_⟩
  unfold Fill.returned
  split
  next disk old drained =>
    exact ⟨retiring disk old drained, fun entry stored => apart entry disk old stored drained⟩
  · trivial

/-- An active disk is not the retiring disk of a drain. -/
theorem Fill.Retiring.ne_of_active
    (retiring : fill.Retiring world)
    (active : world.disks diskId = some .active)
    (drained : fill.drained = some (disk, old)) :
    diskId ≠ disk := by
  rintro rfl
  rw [retiring diskId old drained] at active
  cases active

/-- A reservation makes the row filling, on an active disk. -/
theorem fine_reserve
    (kept : Kept world)
    (retiring : fill.Retiring world)
    (current : loaded = world.entry)
    (attempts : Nat)
    (answer : Answer) :
    Fine (reserve world fill attempts loaded answer) := by
  subst current
  unfold reserve
  split
  · exact fine_done kept
  next remaining =>
    dsimp only
    split_ifs with active
    · have reserved : ∀ stored : Entry, stored = fillingEntry
            ((usableExistingDisk world world.entry).getD answer.placement) answer →
          Fine (world.commit stored, .write fill remaining
            ⟨(usableExistingDisk world world.entry).getD answer.placement,
              answer.representation, epochForRepresentation answer,
              answer.policy⟩) := by
        rintro stored rfl
        refine ⟨Kept.commit_of_ne_present (by simp [fillingEntry]) rfl,
          ⟨retiring, fun disk old drained => retiring.ne_of_active active drained⟩,
          ?_⟩
        rintro entry ⟨⟩
        simp [fillingEntry]
      split
      · exact reserved _ rfl
      next old stored loaded found =>
        have same : old = stored := Option.some.inj (loaded.symm.trans found)
        rw [same, Entry.update_self]
        exact reserved _ rfl
      · exact fine_done kept
    · exact fine_done kept

theorem fine_enterFill
    (kept : Kept world)
    (retiring : fill.Retiring world)
    (keeps : givesUpPresent world answer (.fill fill) = false) :
    Fine (enterFill world fill answer) := by
  unfold enterFill
  cases stored : world.entry with
  | none =>
    have reserves := fine_reserve kept retiring stored.symm 4 answer
    simp only
    split_ifs
    · exact fine_done kept
    · exact reserves
  | some entry =>
    have reserves := fine_reserve kept retiring stored.symm 4 answer
    simp only
    split_ifs with refused isPresent active conformant identity retired
    · exact fine_done kept
    · refine fine_returned kept retiring ?_
      intro other disk old found drained
      rw [stored] at found
      cases found
      exact retiring.ne_of_active active drained
    · simp_all [givesUpPresent]
    · exact fine_done kept
    · exact reserves
    · exact fine_done kept
    · exact reserves

/-- Releasing a reservation leaves a row that is not present. -/
theorem kept_releaseReserved (kept : Kept world) (absent : NotPresent world) :
    Kept (releaseReserved world reservation) ∧ NotPresent (releaseReserved world reservation) ∧
      (releaseReserved world reservation).disks = world.disks := by
  unfold releaseReserved
  split
  · exact ⟨kept, absent, rfl⟩
  next entry stored =>
    split_ifs with held
    · refine ⟨Kept.commit_of_ne_present (by simp) (kept.canonical entry stored), ?_, rfl⟩
      rintro other ⟨⟩
      simp
    · exact ⟨kept, absent, rfl⟩

/-- After its reservation is released a fill ends or begins its next attempt. -/
theorem fine_release
    (kept : Kept world)
    (retiring : fill.Retiring world)
    (absent : NotPresent world)
    (attempts : Nat)
    (again : Bool) :
    let released := releaseReserved world reservation
    Fine (released, if again then .reserve fill attempts released.entry else .done) := by
  obtain ⟨released, -, disks⟩ := kept_releaseReserved kept absent
  refine ⟨released, ?_⟩
  cases again with
  | false => trivial
  | true =>
    refine ⟨?_, rfl⟩
    intro disk old drained
    rw [disks]
    exact retiring disk old drained

theorem fine_finalize
    (kept : Kept world)
    (apart : fill.Apart world reservation.diskId)
    (absent : NotPresent world)
    (written : world.files reservation.diskId reservation.slot = some size) :
    Fine (finalize world fill attempts reservation size answer) := by
  have discarded : Kept (world.deleteEntry reservation.diskId reservation.slot) :=
    kept.setFile_of_notPresent absent
  unfold finalize
  split
  · exact fine_done discarded
  next entry stored =>
    have canonical := kept.canonical entry stored
    split_ifs with gone changed conformant
    · exact fine_done (kept_releaseReserved discarded absent).1
    · exact ⟨Kept.commit_of_ne_present (by simp) canonical, apart.1, rfl⟩
    · simp only [not_or, Bool.not_eq_false, Reservation.holds, Bool.and_eq_true,
        decide_eq_true_eq] at gone
      obtain ⟨-, ⟨⟨-, onDisk⟩, -⟩, -⟩ := gone
      refine fine_returned ⟨?_, ?_⟩ apart.1 ?_
      · rintro other ⟨⟩ -
        change world.files entry.diskId reservation.slot = some size
        rw [onDisk]
        exact written
      · rintro other ⟨⟩
        rfl
      · rintro other disk old ⟨⟩ drained
        change entry.diskId ≠ disk
        rw [onDisk]
        exact apart.2 disk old drained
    · exact ⟨Kept.commit_of_ne_present (by simp) rfl, apart.1, rfl⟩

/-! ## Walker passes -/

theorem loadedOn_eq_some_iff :
    loadedOn world disk = some entry ↔ world.entry = some entry ∧ entry.diskId = disk := by
  simp [loadedOn]

/-- A walker pass does not collect the file of a present entry for deletion. -/
theorem ne_of_mem_cleanupPaths
    (kept : Kept world)
    (stored : world.entry = some entry)
    (isPresent : entry.state = .present)
    (onDisk : entry.diskId = disk)
    (member : slot ∈ cleanupPaths world disk (loadedOn world disk) unknown) :
    entry.relpath ≠ slot := by
  rw [cleanupPaths, loadedOn_eq_some_iff.mpr ⟨stored, onDisk⟩, mem_append] at member
  rcases member with stray | stale
  · simp only [mem_filter, Option.map_some, Bool.and_eq_true, decide_eq_true_eq,
      ne_eq, Option.some.injEq] at stray
    rw [kept.canonical entry stored]
    exact stray.2.2
  · simp [isPresent] at stale

theorem fine_afterCleaning (kept : Kept world) :
    Fine (world, afterCleaning disk destructive (loadedOn world disk)) := by
  refine ⟨kept, ?_⟩
  unfold afterCleaning
  split
  next entry loaded => exact loadedOn_eq_some_iff.mp loaded
  · trivial

theorem at_loseEntry
    (stored : world.entry = some entry)
    (keeps : (destructive && answer.identity) = true → entry.state ≠ .present) :
    At world 0 (loseEntry disk destructive entry answer) := by
  unfold loseEntry
  split_ifs with loses
  · exact ⟨stored, keeps loses⟩
  · trivial

theorem at_verifyEntry
    (stored : world.entry = some loaded)
    (canonical : entry.relpath = entry.slot)
    (file : world.files entry.diskId entry.relpath = some entry.size)
    (keeps : (answer.verifies && !answer.verified) = true →
      (destructive && answer.identity) = true → loaded.state ≠ .present) :
    At world 0 (verifyEntry disk destructive loaded entry answer) := by
  unfold verifyEntry
  split_ifs with verifies verified
  · exact ⟨stored, canonical, fun _ => file⟩
  · trivial
  · exact at_loseEntry stored (keeps (by simp [verifies, verified]))
  · exact ⟨stored, canonical, fun _ => file⟩
  · trivial

theorem at_walkEntry
    (kept : Kept world)
    (stored : world.entry = some loaded)
    (onDisk : loaded.diskId = disk)
    (keeps : givesUpPresent world answer (.check disk destructive loaded) = false) :
    At world 0 (walkEntry world disk destructive loaded answer) := by
  have canonical := kept.canonical loaded stored
  unfold walkEntry
  cases state : loaded.state with
  | lost => trivial
  | filling =>
    have absent : loaded.state ≠ .present := by simp [state]
    cases found : world.files disk loaded.slot with
    | none =>
      dsimp only
      split_ifs
      · trivial
      · exact at_loseEntry stored fun _ => absent
    | some size =>
      dsimp only
      split_ifs with same destroys
      · refine at_verifyEntry stored canonical ?_ fun _ _ => absent
        rw [onDisk, canonical, found, same]
      · trivial
      · exact at_loseEntry stored fun _ => absent
  | present =>
    dsimp only
    split_ifs with found
    · refine at_verifyEntry stored canonical ?_ fun corrupt destroys => ?_
      · rw [onDisk, canonical, found]
      · simp_all [givesUpPresent]
    · refine at_loseEntry stored fun destroys => ?_
      simp_all [givesUpPresent]

/-! ## One step and whole runs -/

/-- A step that gives up no present entry keeps the common state and brings its
operation to a place where it has what it relies on. -/
theorem fine_step
    (kept : Kept world)
    (holds : At world index place)
    (stepped : step world place answer = some result)
    (keeps : answer.stops = true ∨ givesUpPresent world answer place = false) :
    Fine result := by
  unfold step at stepped
  by_cases stops : answer.stops = true
  · rw [if_pos stops] at stepped
    cases stepped
    exact fine_done kept
  · rw [if_neg stops] at stepped
    replace keeps := keeps.resolve_left stops
    cases place with
    | fill fill =>
      cases stepped
      exact fine_enterFill kept holds keeps
    | giveUp fill loaded => exact holds.elim
    | markLost fill loaded => exact holds.elim
    | reserve fill attempts loaded =>
      cases stepped
      exact fine_reserve kept holds.1 holds.2 attempts answer
    | write fill attempts reservation =>
      obtain ⟨apart, absent⟩ := holds
      dsimp only at stepped
      split at stepped
      · cases stepped
        exact ⟨kept.setFile_of_notPresent absent, apart, absent, World.files_setFile_self⟩
      · cases stepped
        exact ⟨kept, apart.1, absent⟩
      · cases stepped
        exact ⟨kept, apart.1, absent⟩
    | finalize fill attempts reservation size =>
      obtain ⟨apart, absent, written⟩ := holds
      cases stepped
      exact fine_finalize kept apart absent written
    | release fill attempts reservation again =>
      cases stepped
      exact fine_release kept holds.1 holds.2 attempts again
    | walk disk destructive =>
      dsimp only at stepped
      split_ifs at stepped
      · cases stepped
        exact ⟨kept, rfl⟩
      · cases stepped
        exact fine_done kept
    | enumerate disk destructive loaded =>
      obtain rfl : loaded = loadedOn world disk := holds
      dsimp only at stepped
      split_ifs at stepped
      · cases stepped
        exact fine_done kept
      · cases stepped
        refine ⟨kept, rfl, ?_⟩
        intro slot member entry stored isPresent onDisk
        exact ne_of_mem_cleanupPaths kept stored isPresent onDisk member
      · cases stepped
        exact fine_afterCleaning kept
    | clean disk unknown loaded =>
      obtain ⟨rfl, spared⟩ := holds
      cases unknown with
      | nil =>
        cases stepped
        exact fine_afterCleaning kept
      | cons slot rest =>
        cases stepped
        refine ⟨kept.setFile none (spared slot mem_cons_self), rfl, ?_⟩
        exact fun slot member => spared slot (mem_cons_of_mem _ member)
    | check disk destructive loaded =>
      obtain ⟨stored, onDisk⟩ := holds
      cases stepped
      exact ⟨kept, at_walkEntry kept stored onDisk keeps⟩
    | walkLost disk loaded =>
      obtain ⟨stored, absent⟩ := holds
      cases stepped
      have notPresent : NotPresent world := by
        intro entry found
        rw [stored] at found
        cases found
        exact absent
      refine ⟨kept.setFile_of_notPresent notPresent, stored, kept.canonical loaded stored, ?_⟩
      rintro ⟨⟩
    | walkCommit loaded assigned =>
      obtain ⟨stored, canonical, file⟩ := holds
      simp only [stored, Entry.update_self] at stepped
      cases stepped
      refine fine_done ⟨?_, ?_⟩
      · rintro entry ⟨⟩ isPresent
        exact file isPresent
      · rintro entry ⟨⟩
        exact canonical
    | drain disk =>
      dsimp only at stepped
      split at stepped
      · split_ifs at stepped
        · cases stepped
          exact ⟨kept, trivial⟩
        · cases stepped
          exact fine_done kept
      · cases stepped
        exact fine_done kept
    | drainFill disk old =>
      dsimp only at stepped
      split at stepped
      · split_ifs at stepped with retiring
        · cases stepped
          refine ⟨kept, ?_⟩
          rintro other slot ⟨⟩
          exact retiring
        · cases stepped
          exact fine_done kept
      · cases stepped
        exact fine_done kept
    | drainDelete disk old =>
      obtain ⟨-, elsewhere⟩ := holds
      dsimp only at stepped
      split_ifs at stepped
      · cases stepped
        refine fine_done (kept.setFile none ?_)
        intro entry stored isPresent onDisk
        exact absurd onDisk (elsewhere entry stored)
      · cases stepped
        exact fine_done kept
    | lifecycle disk state =>
      cases stepped
      exact fine_done ⟨kept.present, kept.canonical⟩
    | done => cases stepped

/-- What all operations rely on together. -/
abbrev Serial : Config World Place → Prop := Program.Annotated Kept At fun _ _ => True

theorem at_index (holds : At world 0 place) : At world index place := by
  cases place with
  | _ => exact holds

theorem serial_move
    (config : Config World Place)
    (move : Move Place Answer)
    (next : Config World Place)
    (serial : Serial config)
    (allowed : undisturbed config move = true)
    (moved : program.move config move = some next) :
    Serial next := by
  refine Program.annotated_move program
    (fun config move => undisturbed config move = true) (fun _ _ _ => trivial)
    ?_ ?_ config move next serial allowed moved
  · intro config place serial initial _
    exact ⟨fun index => at_of_atRest initial, fun _ _ _ => trivial⟩
  · intro config index answer place shared' place' serial allowed present stepped
    have step_eq : step config.shared place answer = some (shared', place') := stepped
    simp only [undisturbed, present, Bool.and_eq_true, all_eq_true, Bool.or_eq_true,
      Option.all_some, Bool.not_eq_true'] at allowed
    obtain ⟨alone, keeps⟩ := allowed
    obtain ⟨kept, own⟩ := fine_step serial.common (serial.thread index place present) step_eq keeps
    refine ⟨kept, at_index own, ?_⟩
    intro other otherPlace different otherPresent
    have resting := alone (otherPlace, other) (by
      rw [mem_zipIdx_iff_getElem?]
      exact otherPresent)
    simp only [different, decide_false, Bool.false_eq_true, false_or] at resting
    exact ⟨at_of_atRest resting, trivial⟩

/-- In every run in which operations do not overlap and none gives up a present
entry, a present row names a file of the recorded size in every state. -/
theorem presentHasFile_of_undisturbed
    (world : World)
    (moves : List (Move Place Answer))
    (final : Config World Place)
    (present : PresentHasFile world)
    (canonical : ∀ entry, world.entry = some entry → entry.relpath = entry.slot)
    (admitted : Transition.Admits program.move
      (fun config move => undisturbed config move = true) ⟨world, []⟩ moves)
    (ended : Transition.run program.move ⟨world, []⟩ moves = some final) :
    PresentHasFile final.shared := by
  have serial : Serial final :=
    Transition.invariant_of_admits _ Serial serial_move
      (Program.annotated_of_idle At (fun _ _ => True) ⟨present, canonical⟩)
      admitted ended
  exact serial.common.present

/-! ## Two fills -/

/-- An empty cache with one active disk. -/
def emptyCache : World where
  entry := none
  disks disk := if disk = 0 then some .active else none
  files _ _ := none

/-- Two fills of the asset reserve the row, the first one finishes, and the second
one finds its reservation gone. -/
def overlappingFills : List (Move Place Answer) :=
  [.spawn (.fill ⟨false, none⟩), .spawn (.fill ⟨false, none⟩),
    .act 0 { sizeHint := 3 }, .act 1 { sizeHint := 3 },
    .act 0 { outcome := .wrote 3 }, .act 0 {}, .act 1 { outcome := .wrote 3 }, .act 1 {}]

/-- The second fill deletes the file of the present row. -/
theorem not_presentLaw : ¬ PresentLaw := by
  intro law
  have reached : (Transition.run program.move ⟨emptyCache, []⟩ overlappingFills).map
      (fun final => (final.shared.entry, final.shared.files 0 ⟨.rawBytes, none⟩)) =
      some (some ⟨0, ⟨.rawBytes, none⟩, 3, .present, .rawBytes, none, true⟩, none) := by
    decide
  obtain ⟨final, ended, same⟩ := Option.map_eq_some_iff.mp reached
  have holds := law emptyCache overlappingFills final
    (by rintro entry ⟨⟩) (by rintro entry ⟨⟩) ended _ (congrArg Prod.fst same) rfl
  have missing : final.shared.files 0 ⟨.rawBytes, none⟩ = none := congrArg Prod.snd same
  exact absurd (holds.symm.trans missing) (by simp)

/-- A fill, and after it a walker pass and a drain to a second disk. -/
def successiveOperations : List (Move Place Answer) :=
  [.spawn (.fill ⟨false, none⟩), .act 0 { sizeHint := 3 },
    .act 0 { outcome := .wrote 3 }, .act 0 {},
    .spawn (.walk 0 true), .act 1 {}, .act 1 {}, .act 1 {}, .act 1 {}, .act 1 {},
    .spawn (.lifecycle 0 .retiring), .act 2 {}, .spawn (.lifecycle 1 .active), .act 3 {},
    .spawn (.drain 0), .act 4 {}, .act 4 {},
    .act 4 { sizeHint := 3, placement := 1 }, .act 4 { outcome := .wrote 3 },
    .act 4 {}, .act 4 {}]

/-- After a fill, a pass and a drain the present row names its file on the second
disk. -/
theorem presentHasFile_of_undisturbed_drained : ∃ final,
      Transition.run program.move ⟨emptyCache, []⟩ successiveOperations = some final ∧
        final.shared.entry = some ⟨1, ⟨.rawBytes, none⟩, 3, .present, .rawBytes, none, true⟩ ∧
        PresentHasFile final.shared := by
  have reached : (Transition.run program.move ⟨emptyCache, []⟩
      successiveOperations).map (fun final => final.shared.entry) =
      some (some ⟨1, ⟨.rawBytes, none⟩, 3, .present, .rawBytes, none, true⟩) := by
    decide
  obtain ⟨final, ended, same⟩ := Option.map_eq_some_iff.mp reached
  exact ⟨final, ended, same, presentHasFile_of_undisturbed emptyCache
    successiveOperations final (by rintro entry ⟨⟩) (by rintro entry ⟨⟩) (by decide)
    ended⟩

end Hdcache
end Sutradhara
