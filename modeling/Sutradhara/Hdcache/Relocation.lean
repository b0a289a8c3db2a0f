import Sutradhara.Hdcache.Drain

/-!
# A drain keeps what it moves

A fill that fails after its reservation leaves the row lost at the new location, while
the good file is still on the retiring disk.  A pass loses no entry exactly when every
fill that it comes to either fails before its first reservation or ends with a
finalised entry.
-/

namespace Sutradhara
namespace Hdcache

open Foundation

/-! ## What the answers decide -/

section

variable (disks : Nat → Option DiskState)

/-- The attempt has a key epoch and is given an active disk, so it reserves. -/
def AttemptAnswer.reaches (answer : AttemptAnswer) : Bool :=
  answer.epochFails.isNone && disks answer.reserves.placement = some .active

/-- Policy, representation and conformance at the finalisation are those of the
reservation. -/
def AttemptAnswer.conforms (answer : AttemptAnswer) : Bool :=
  answer.finalizes.policy = answer.reserves.policy &&
    answer.finalizes.representation = answer.reserves.representation &&
    answer.finalizes.conformant

/-- One of the attempts that remain succeeds, and those before it run out of space or
meet a changed policy. -/
def lands (answers : Nat → AttemptAnswer) : Nat → Bool
  | 0 => false
  | remaining + 1 =>
    (answers remaining).reaches disks &&
      match (answers remaining).write with
      | .wrote _ =>
        (answers remaining).finalizeFails.isNone &&
          ((answers remaining).conforms || lands answers remaining)
      | .enospc _ => lands answers remaining
      | .failed _ _ => false

/-- The fill is refused before its first reservation, or lands the entry. -/
def FillAnswer.spares (answer : FillAnswer) : Bool :=
  !answer.admitted || !(answer.attempts 3).reaches disks || lands disks answer.attempts 4

/-- There is a target and a plaintext, so the entry is filled again. -/
def DrainAnswer.fills (answer : DrainAnswer) : Bool :=
  answer.target && (plaintextOf answer matches .ok (some _))

/-- The entry is not filled again, or its fill spares it. -/
def DrainAnswer.spares (answer : DrainAnswer) : Bool :=
  !answer.fills || answer.fill.spares disks

/-- An exception that the drain does not catch ends the pass, with the entry as it
was. -/
def DrainAnswer.aborts (answer : DrainAnswer) : Bool :=
  answer.target && (plaintextOf answer matches .error _) ||
    answer.fills && answer.fill.admitted && (answer.fill.attempts 3).epochFails = some .escapes

/-- Every entry that the pass comes to is spared. -/
def sparesAll (answers : Nat → DrainAnswer) : List Nat → Bool
  | [] => true
  | digest :: rest =>
    (answers digest).spares disks && ((answers digest).aborts || sparesAll answers rest)

end

/-! ## One asset -/

/-- The entry is present on an active disk, and its file exists. -/
def Landed (world : World) : Prop :=
  ∃ entry, world.entry = some entry ∧ entry.state = .present ∧
    world.disks entry.diskId = some .active ∧
    (world.files entry.diskId entry.relpath).isSome = true

/-- The reservation of an attempt. -/
def reservationOf (answer : Answer) : Reservation :=
  ⟨answer.placement, answer.representation, epochForRepresentation answer, answer.policy⟩

/-- A row that no fill holds is reserved on an active disk, or nothing is changed. -/
theorem reserve_eq (found : world.entry = some entry) (idle : entry.state ≠ .filling) :
    reserve world fill (remaining + 1) world.entry answer =
      if world.disks answer.placement = some .active then
        (world.commit (fillingEntry answer.placement answer),
          .write fill remaining (reservationOf answer))
      else (world, .done) := by
  simp only [reserve, found, usableExistingDisk, Option.bind_some, idle, false_and, if_false,
    Option.getD_none, Entry.update_self]
  rfl

/-- The row that a fill holds is lost when the fill lets it go. -/
theorem releaseReserved_eq
    (found : world.entry = some (fillingEntry answer.placement answer)) :
    releaseReserved world (reservationOf answer) =
      world.commit { fillingEntry answer.placement answer with state := .lost } := by
  simp [releaseReserved, found, fillingEntry, reservationOf]

/-- Whatever a failed write leaves on the disk, the released row is lost. -/
theorem lost_of_failedWrite (world : World) (answer : Answer) (left : Option Nat) :
    ∃ next row,
      releaseReserved ((world.commit (fillingEntry answer.placement answer)).leave
        (reservationOf answer) left) (reservationOf answer) = next ∧
      next.entry = some row ∧ row.state = .lost ∧ next.disks = world.disks := by
  cases left with
  | none => exact ⟨_, _, releaseReserved_eq rfl, rfl, rfl, rfl⟩
  | some size => exact ⟨_, _, releaseReserved_eq rfl, rfl, rfl, rfl⟩

/-- The row that a fill holds is finalised where everything conforms, and lost before
the next attempt elsewhere. -/
theorem finalize_eq
    {answer : AttemptAnswer}
    (world : World)
    (size : Nat)
    (found : world.entry = some (fillingEntry answer.reserves.placement answer.reserves))
    (active : world.disks answer.reserves.placement = some .active) :
    (answer.conforms = true ∧
      finalize world fill remaining (reservationOf answer.reserves) size answer.finalizes =
        (world.commit (finalizedEntry (fillingEntry answer.reserves.placement answer.reserves)
          (reservationOf answer.reserves) size), fill.returned)) ∨
    (answer.conforms = false ∧ ∃ next lost, next.entry = some lost ∧ lost.state = .lost ∧
      next.disks = world.disks ∧
      finalize world fill remaining (reservationOf answer.reserves) size answer.finalizes =
        (next, .reserve fill remaining (some lost))) := by
  have holds : (reservationOf answer.reserves).holds
      (fillingEntry answer.reserves.placement answer.reserves) = true := by
    simp [Reservation.holds, fillingEntry, reservationOf]
  have known : world.disks (reservationOf answer.reserves).diskId ≠ none := by
    simp [reservationOf, active]
  simp only [finalize, found, known, holds, Bool.true_eq_false, or_self, if_false]
  by_cases changed : answer.finalizes.policy ≠ (reservationOf answer.reserves).policy ∨
      answer.finalizes.representation ≠ (reservationOf answer.reserves).representation
  · rw [if_pos changed]
    refine .inr ⟨?differs, _, _, ?_, ?_, ?_, rfl⟩
    case differs =>
      simp only [AttemptAnswer.conforms, Bool.and_eq_false_iff, decide_eq_false_iff_not]
      exact .inl changed
    all_goals rfl
  · rw [if_neg changed]
    obtain ⟨samePolicy, sameRepresentation⟩ := not_or.mp changed
    simp only [reservationOf, ne_eq, not_not] at samePolicy sameRepresentation
    cases conformant : answer.finalizes.conformant with
    | true =>
      refine .inl ⟨?_, rfl⟩
      simp [AttemptAnswer.conforms, samePolicy, sameRepresentation, conformant]
    | false =>
      refine .inr ⟨by simp [AttemptAnswer.conforms, conformant], _, _, ?_, ?_, ?_, rfl⟩
      all_goals rfl

/-- Whether the next attempt reserves. -/
def reached (disks : Nat → Option DiskState) (answers : Nat → AttemptAnswer) : Nat → Bool
  | 0 => false
  | remaining + 1 => (answers remaining).reaches disks

/-- What is raised where the next attempt does not reserve. -/
def refusal (answers : Nat → AttemptAnswer) : Nat → Raised
  | 0 => .caught
  | remaining + 1 => (answers remaining).epochFails.getD .caught

/-- How the attempts of a fill end: with the entry at its new place, with nothing
changed, or with a lost row. -/
inductive Outcome (answers : Nat → AttemptAnswer) (attempts : Nat) (world : World) :
    World × FillEnd → Prop
  | landed (next : World) (does : lands world.disks answers attempts = true)
      (landed : Landed next) (same : next.disks = world.disks) :
      Outcome answers attempts world (next, .returned)
  | refused (idle : reached world.disks answers attempts = false) :
      Outcome answers attempts world (world, .gaveUp (refusal answers attempts))
  | lost (next : World) (raised : Raised) (entry : Entry)
      (begun : reached world.disks answers attempts = true)
      (fails : lands world.disks answers attempts = false)
      (found : next.entry = some entry) (isLost : entry.state = .lost)
      (same : next.disks = world.disks) :
      Outcome answers attempts world (next, .gaveUp raised)

/-- Attempts that go on after one that has lost the row. -/
theorem Outcome.later
    (outcome : Outcome answers remaining next result)
    (begun : (answers remaining).reaches world.disks = true)
    (found : next.entry = some entry)
    (isLost : entry.state = .lost)
    (same : next.disks = world.disks)
    (follows : lands world.disks answers (remaining + 1) = lands world.disks answers remaining) :
    Outcome answers (remaining + 1) world result := by
  cases outcome with
  | landed final does landed sameFinal =>
    rw [same] at does sameFinal
    exact .landed final (follows.trans does) landed sameFinal
  | refused idle =>
    have fails : lands next.disks answers remaining = false := by
      cases remaining with
      | zero => rfl
      | succ remaining =>
        rw [lands, show (answers remaining).reaches next.disks = false from idle, Bool.false_and]
    rw [same] at fails
    exact .lost next _ entry begun (follows.trans fails) found isLost same
  | lost final raised entry begun' fails foundFinal isLostFinal sameFinal =>
    rw [same] at fails sameFinal
    exact .lost final raised entry begun (follows.trans fails) foundFinal isLostFinal sameFinal

/-- Every attempt ends as its answers say.  The induction is on the attempts that
remain; a row that an attempt has lost is taken up by the next one. -/
theorem fillAttempts_outcome
    (fill : Fill)
    (attempts : Nat)
    (world : World)
    (drained : fill.drained = some old)
    (found : world.entry = some entry)
    (idle : entry.state ≠ .filling) :
    Outcome answers attempts world (fillAttempts fill answers attempts world) := by
  induction attempts generalizing world entry with
  | zero => exact .refused rfl
  | succ remaining ih =>
    unfold fillAttempts
    simp only
    cases epoch : (answers remaining).epochFails with
    | some raised =>
      have refused := @Outcome.refused answers (remaining + 1) world (by
        simp [reached, AttemptAnswer.reaches, epoch])
      rwa [refusal, epoch] at refused
    | none =>
      dsimp only
      rw [reserve_eq found idle]
      by_cases active : world.disks (answers remaining).reserves.placement = some .active
      · rw [if_pos active]
        have begun : (answers remaining).reaches world.disks = true := by
          simp [AttemptAnswer.reaches, epoch, active]
        have lost := lost_of_failedWrite world (answers remaining).reserves
        dsimp only
        cases write : (answers remaining).write with
        | failed left raised =>
          obtain ⟨next, row, released, foundNext, isLost, same⟩ := lost left
          dsimp only
          rw [released]
          refine .lost next raised row begun ?_ foundNext isLost same
          simp [lands, write]
        | enospc left =>
          obtain ⟨next, row, released, foundNext, isLost, same⟩ := lost left
          dsimp only
          rw [released]
          refine (ih next foundNext (by simp [isLost])).later begun foundNext isLost same ?_
          simp [lands, write, begun]
        | wrote size =>
          dsimp only
          cases fails : (answers remaining).finalizeFails with
          | some raised =>
            obtain ⟨next, row, released, foundNext, isLost, same⟩ := lost (some size)
            dsimp only
            rw [show World.writeEntry _ _ _ size = World.leave _ _ (some size) from rfl, released]
            refine .lost next raised row begun ?_ foundNext isLost same
            simp [lands, write, fails]
          | none =>
            dsimp only
            rcases finalize_eq ((world.commit (fillingEntry
                (answers remaining).reserves.placement (answers remaining).reserves)).writeEntry
                (reservationOf (answers remaining).reserves).diskId
                (reservationOf (answers remaining).reserves).slot size) size rfl active with
              ⟨conforms, finalized⟩ | ⟨conforms, next, row, foundNext, isLost, same, finalized⟩
            · rw [finalized, Fill.returned, drained]
              refine .landed _ ?_ ⟨_, rfl, rfl, active, ?_⟩ rfl
              · simp [lands, write, fails, conforms, begun]
              · simp [finalizedEntry, fillingEntry, reservationOf, World.commit,
                  World.writeEntry, World.setFile]
            · rw [finalized]
              refine (ih next foundNext (by simp [isLost])).later begun foundNext isLost same ?_
              simp [lands, write, fails, conforms, begun]
      · rw [if_neg active]
        have refused := @Outcome.refused answers (remaining + 1) world (by
          simp [reached, AttemptAnswer.reaches, active])
        rwa [refusal, epoch] at refused

/-- The fill of an entry that is present on a retiring disk. -/
theorem fillTargetFromPlaintext_eq
    (found : world.entry = some entry)
    (retiring : world.disks entry.diskId = some .retiring) :
    fillTargetFromPlaintext world fill answer =
      if answer.admitted then fillAttempts fill answer.attempts 4 world
      else (world, .gaveUp .caught) := by
  have passive : world.disks entry.diskId ≠ some .active := by
    rw [retiring]
    decide
  unfold fillTargetFromPlaintext
  cases answer.admitted with
  | false => rfl
  | true =>
    simp only [Bool.not_true, Bool.false_eq_true, if_false, if_true, found, if_neg passive,
      if_pos retiring, ite_self]

/-! ## One round -/

/-- Another asset sees nothing of what was done to this one. -/
theorem world_put_of_ne
    {cache : Cache}
    (different : other ≠ digest)
    (disks : world.disks = cache.disks) :
    (cache.put digest world).world other = cache.world other := by
  have row : (cache.put digest world).entries.find? other = cache.entries.find? other := by
    unfold Cache.put
    cases world.entry with
    | none => rfl
    | some entry => exact cache.entries.find?_update_of_ne _ different
  unfold Cache.world
  rw [row]
  simp [Cache.put, different, disks]

theorem world_put_self
    {cache : Cache}
    (known : (cache.world digest).entry = some old)
    (found : world.entry = some entry) : (cache.put digest world).world digest = world := by
  obtain ⟨row, foundRow, _⟩ := Option.map_eq_some_iff.mp known
  have after : (cache.put digest world).entries.find? digest = some ⟨row.contentSha256, entry⟩ := by
    unfold Cache.put
    simp only [found]
    rw [cache.entries.find?_update_self, foundRow]
    rfl
  obtain ⟨stored, disks, files⟩ := world
  unfold Cache.world
  rw [after]
  simp [Cache.put, show stored = some entry from found]

/-- What `Held` says of the asset alone. -/
def World.Backed (world : World) : Prop :=
  ∃ entry, world.entry = some entry ∧ entry.state = .present ∧
    (world.files entry.diskId entry.relpath).isSome = true

/-- The old file is not the one that the row names now. -/
theorem Landed.backed_deleteOld
    (landed : Landed world)
    (retiring : world.disks disk = some .retiring)
    (old : Slot)
    (deletes : Bool) :
    (deleteOld world disk old deletes).Backed := by
  obtain ⟨entry, found, present, active, file⟩ := landed
  have elsewhere : entry.diskId ≠ disk := by
    rintro rfl
    rw [active] at retiring
    cases retiring
  unfold deleteOld
  split_ifs
  · refine ⟨entry, found, present, ?_⟩
    simp only [World.deleteEntry, World.setFile, elsewhere]
    exact file
  · exact ⟨entry, found, present, file⟩

/-- A round leaves the disks and the other assets as they are. -/
structure Round (cache next : Cache) (digest : Nat) : Prop where
  disks : next.disks = cache.disks
  others : ∀ other, other ≠ digest → next.world other = cache.world other

theorem Round.refl (cache : Cache) (digest : Nat) : Round cache cache digest :=
  ⟨rfl, fun _ _ => rfl⟩

theorem round_put {cache : Cache} (disks : world.disks = cache.disks) :
    Round cache (cache.put digest world) digest :=
  ⟨disks, fun _ different => world_put_of_ne different disks⟩

theorem held_put
    {cache : Cache}
    (known : (cache.world digest).entry = some old)
    (found : world.entry = some entry) :
    Held (cache.put digest world) digest ↔ world.Backed := by
  change ((cache.put digest world).world digest).Backed ↔ _
  rw [world_put_self known found]

theorem not_backed_of_lost
    {world : World}
    (found : world.entry = some entry)
    (isLost : entry.state = .lost) :
    ¬ world.Backed := by
  rintro ⟨other, isOther, present, -⟩
  rw [found, Option.some.injEq] at isOther
  rw [← isOther, isLost] at present
  cases present

/-- The fill of one entry keeps the entry exactly where its answers spare it. -/
theorem relocate_spec
    (retiring : cache.disks disk = some .retiring)
    (fresh : freshDrainEntry (cache.world digest) disk = some entry)
    (held : Held cache digest) :
    ∃ next outcome, relocate cache disk digest entry answer count = (next, outcome) ∧
      Round cache next digest ∧
      (Held next digest ↔ answer.fill.spares cache.disks = true) ∧
      (answer.fill.spares cache.disks = true → (outcome.isOk = false ↔
        answer.fill.admitted = true ∧ (answer.fill.attempts 3).epochFails = some .escapes)) := by
  obtain ⟨found, present⟩ := Option.filter_eq_some_iff.mp fresh
  simp only [Bool.and_eq_true, decide_eq_true_eq] at present
  obtain ⟨isPresent, rfl⟩ := present
  have unchanged : Held (cache.put digest (cache.world digest)) digest :=
    (held_put found found).mpr held
  unfold relocate
  rw [fillTargetFromPlaintext_eq found retiring]
  cases admitted : answer.fill.admitted with
  | false =>
    refine ⟨_, _, rfl, round_put rfl, iff_of_true unchanged ?_, fun _ => ?_⟩
    · simp [FillAnswer.spares, admitted]
    · simp [Except.isOk, Except.toBool]
  | true =>
    have ends := @fillAttempts_outcome _ _ answer.fill.attempts
      ⟨true, some (entry.diskId, entry.slot)⟩ 4 (cache.world digest) rfl found
      (by simp [isPresent])
    simp only [if_true, true_and]
    generalize fillAttempts _ answer.fill.attempts 4 (cache.world digest) = result at ends
    cases ends with
    | landed next does landed same =>
      have stillRetiring : next.disks entry.diskId = some .retiring := by
        rw [same]
        exact retiring
      have backed := landed.backed_deleteOld stillRetiring entry.slot answer.deletes
      have ⟨after, foundAfter, _⟩ := backed
      have disks : (deleteOld next entry.diskId entry.slot answer.deletes).disks = cache.disks := by
        unfold deleteOld
        split_ifs <;> exact same
      have begun : (answer.fill.attempts 3).reaches cache.disks = true :=
        Bool.and_elim_left does
      simp only [stillRetiring, if_true]
      refine ⟨_, _, rfl, round_put disks, iff_of_true ((held_put found foundAfter).mpr backed) ?_,
        fun _ => ?_⟩
      · simp [FillAnswer.spares, show lands cache.disks _ 4 = true from does]
      · simp only [AttemptAnswer.reaches, Bool.and_eq_true, Option.isNone_iff_eq_none] at begun
        simp [Except.isOk, Except.toBool, begun.1]
    | refused idle =>
      have spares : answer.fill.spares cache.disks = true := by
        simp [FillAnswer.spares, show (answer.fill.attempts 3).reaches cache.disks = false from
          idle]
      cases epoch : (answer.fill.attempts 3).epochFails with
      | none =>
        refine ⟨_, _, by rw [refusal, epoch]; rfl, round_put rfl, iff_of_true unchanged spares,
          fun _ => by simp [Except.isOk, Except.toBool]⟩
      | some raised =>
        cases raised with
        | caught =>
          refine ⟨_, _, by rw [refusal, epoch]; rfl, round_put rfl, iff_of_true unchanged spares,
            fun _ => by simp [Except.isOk, Except.toBool]⟩
        | escapes =>
          refine ⟨_, _, by rw [refusal, epoch]; rfl, round_put rfl, iff_of_true unchanged spares,
            fun _ => by simp [Except.isOk, Except.toBool]⟩
    | lost next raised row begun fails foundNext isLost same =>
      have harms : answer.fill.spares cache.disks = false := by
        simp [FillAnswer.spares, admitted,
          show (answer.fill.attempts 3).reaches cache.disks = true from begun,
          show lands cache.disks _ 4 = false from fails]
      have lost : ¬ Held (cache.put digest next) digest := fun still =>
        not_backed_of_lost foundNext isLost ((held_put found foundNext).mp still)
      rw [harms]
      cases raised with
      | caught => exact ⟨_, _, rfl, round_put same, iff_of_false lost (by decide), nofun⟩
      | escapes => exact ⟨_, _, rfl, round_put same, iff_of_false lost (by decide), nofun⟩

/-- A round keeps its entry exactly where its answers spare it, and only an exception
that escapes ends the pass. -/
theorem drainEntry_spec
    (retiring : cache.disks disk = some .retiring)
    (fresh : (freshDrainEntry (cache.world digest) disk).isSome = true)
    (held : Held cache digest) :
    ∃ next outcome, drainEntry cache disk digest answer count = (next, outcome) ∧
      Round cache next digest ∧
      (Held next digest ↔ answer.spares cache.disks = true) ∧
      (answer.spares cache.disks = true → (outcome.isOk = false ↔ answer.aborts = true)) := by
  obtain ⟨entry, fresh⟩ := Option.isSome_iff_exists.mp fresh
  unfold drainEntry
  simp only [retiring, ne_eq, not_true_eq_false, if_false, fresh]
  cases target : answer.target with
  | false =>
    exact ⟨_, _, rfl, .refl cache digest,
      iff_of_true held (by simp [DrainAnswer.spares, DrainAnswer.fills, target]), fun _ => by
        simp [DrainAnswer.aborts, DrainAnswer.fills, target, Except.isOk, Except.toBool]⟩
  | true =>
    cases plaintext : plaintextOf answer with
    | error fault =>
      exact ⟨_, _, rfl, .refl cache digest,
        iff_of_true held (by simp [DrainAnswer.spares, DrainAnswer.fills, plaintext]), fun _ => by
          simp [DrainAnswer.aborts, target, plaintext, Except.isOk, Except.toBool]⟩
    | ok source =>
      cases source with
      | none =>
        exact ⟨_, _, rfl, .refl cache digest,
          iff_of_true held (by simp [DrainAnswer.spares, DrainAnswer.fills, plaintext]),
          fun _ => by
            simp [DrainAnswer.aborts, DrainAnswer.fills, plaintext, Except.isOk, Except.toBool]⟩
      | some tape =>
        obtain ⟨next, outcome, relocated, round, kept, ends⟩ := @relocate_spec _ _ _ _ answer
          { count with fallbackToTape := count.fallbackToTape + if tape then 1 else 0 }
          retiring fresh held
        have fills : answer.fills = true := by simp [DrainAnswer.fills, target, plaintext]
        refine ⟨next, outcome, relocated, round, ?_, ?_⟩
        · simpa [DrainAnswer.spares, fills] using kept
        · simpa [DrainAnswer.spares, DrainAnswer.aborts, fills, plaintext] using ends

/-- A pass keeps the entries that it takes up exactly where all of them are spared.
The induction is on the entries that remain; a round sees the others as they were. -/
theorem drainEntries_spec
    (distinct : digests.Nodup)
    (retiring : cache.disks disk = some .retiring)
    (ready : ∀ digest ∈ digests,
      (freshDrainEntry (cache.world digest) disk).isSome = true ∧ Held cache digest) :
    let final := (drainEntries disk answers digests cache count).1
    final.disks = cache.disks ∧
      (∀ other, other ∉ digests → final.world other = cache.world other) ∧
      ((∀ digest ∈ digests, Held final digest) ↔ sparesAll cache.disks answers digests = true) := by
  induction digests generalizing cache count with
  | nil => exact ⟨rfl, fun _ _ => rfl, iff_of_true nofun rfl⟩
  | cons digest rest ih =>
    obtain ⟨⟨fresh, held⟩, readyRest⟩ := List.forall_mem_cons.mp ready
    obtain ⟨new, distinctRest⟩ := List.nodup_cons.mp distinct
    obtain ⟨next, outcome, drained, round, kept, ends⟩ :=
      @drainEntry_spec _ _ _ (answers digest) count retiring fresh held
    have others : ∀ other ∈ rest, next.world other = cache.world other := fun other member =>
      round.others other (ne_of_mem_of_not_mem member new)
    unfold drainEntries
    simp only [drained, List.forall_mem_cons, sparesAll, Bool.and_eq_true, Bool.or_eq_true]
    cases outcome with
    | error fault =>
      refine ⟨round.disks, fun other absent => ?_, ?_⟩
      · exact round.others other (List.ne_of_not_mem_cons absent)
      · have restHeld : ∀ other ∈ rest, Held next other := fun other member => by
          change (next.world other).Backed
          rw [others other member]
          exact (readyRest other member).2
        rw [kept]
        exact ⟨fun ⟨spared, _⟩ => ⟨spared, .inl ((ends spared).mp rfl)⟩,
          fun ⟨spared, _⟩ => ⟨spared, restHeld⟩⟩
    | ok counted =>
      have readyNext : ∀ other ∈ rest,
          (freshDrainEntry (next.world other) disk).isSome = true ∧ Held next other :=
        fun other member => by
          change _ ∧ (next.world other).Backed
          rw [others other member]
          exact readyRest other member
      obtain ⟨disks, untouched, all⟩ := ih distinctRest (round.disks ▸ retiring) readyNext
      refine ⟨disks.trans round.disks, fun other absent => ?_, ?_⟩
      · obtain ⟨different, later⟩ := not_or.mp (mt List.mem_cons.mpr absent)
        exact (untouched other later).trans (round.others other different)
      · rw [round.disks] at all
        have here : Held (drainEntries disk answers rest next counted).1 digest ↔
            (answers digest).spares cache.disks = true := by
          rw [← kept]
          change (Cache.world _ digest).Backed ↔ _
          rw [untouched digest new]
          rfl
        rw [here, all]
        refine and_congr_right fun spared => ?_
        have goesOn : ¬ (answers digest).aborts = true := fun aborts => by
          cases (ends spared).mpr aborts
        exact ⟨.inr, fun either => either.resolve_left goesOn⟩

/-! ## The whole pass -/

theorem dead_maybeAutoDead
    (retiring : cache.disks disk = some .retiring)
    (dead : (maybeAutoDead cache disk).1.disks disk = some .dead) :
    ∀ row ∈ (maybeAutoDead cache disk).1.entries.rows, row.entry.diskId ≠ disk := by
  unfold maybeAutoDead at dead ⊢
  split_ifs at dead ⊢ with remaining
  · rw [retiring] at dead
    cases dead
  · intro row member onDisk
    apply remaining
    exact List.any_eq_true.mpr ⟨row, member, decide_eq_true onDisk⟩

theorem held_maybeAutoDead : Held (maybeAutoDead cache disk).1 digest ↔ Held cache digest := by
  unfold maybeAutoDead
  split_ifs <;> exact Iff.rfl

theorem nodup_presentOn (cache : Cache) (disk : Nat) : (presentOn cache disk).Nodup := by
  refine (List.perm_insertionSort _ _).nodup_iff.mpr ?_
  exact cache.entries.unique.sublist (List.filter_sublist.map _)

/-- A pass finds the entries that it has listed. -/
theorem isSome_freshDrainEntry (member : digest ∈ presentOn cache disk) :
    (freshDrainEntry (cache.world digest) disk).isSome = true := by
  obtain ⟨row, listed, rfl⟩ := List.mem_map.mp ((List.mem_insertionSort _).mp member)
  obtain ⟨inTable, there⟩ := List.mem_filter.mp listed
  simp only [Bool.and_eq_true, decide_eq_true_eq] at there
  have found := (cache.entries.find?_eq_some_iff row.contentSha256 row).mpr ⟨inTable, rfl⟩
  simp [freshDrainEntry, Cache.world, found, there]

theorem drainedDigests_sublist : (drainedDigests cache disk limit).Sublist
    (presentOn cache disk) := by
  unfold drainedDigests
  split
  · exact List.take_sublist _ _
  · exact List.Sublist.refl _

/-- A pass loses no entry, and marks the disk dead only when no present entry is left on
it, exactly when every entry that it comes to is spared. -/
theorem drained_iff_sparesAll
    (cache : Cache)
    (disk : Nat)
    (limit : Option Nat)
    (answers : Nat → DrainAnswer)
    (retiring : cache.disks disk = some .retiring)
    (held : ∀ digest ∈ presentOn cache disk, Held cache digest) :
    Drained cache (drainRetiringDisk cache disk limit answers).1 disk ↔
      sparesAll cache.disks answers (drainedDigests cache disk limit) = true := by
  have taken := @drainedDigests_sublist cache disk limit
  have pass := @drainEntries_spec _ _ _ answers ⟨0, 0, 0⟩
    ((nodup_presentOn cache disk).sublist taken) retiring fun digest member =>
      ⟨isSome_freshDrainEntry (taken.subset member), held digest (taken.subset member)⟩
  unfold drainRetiringDisk
  simp only [retiring, ne_eq, not_true_eq_false, if_false]
  generalize drainEntries disk answers (drainedDigests cache disk limit) cache
    ⟨0, 0, 0⟩ = result at pass ⊢
  obtain ⟨drained, outcome⟩ := result
  obtain ⟨disks, untouched, all⟩ := pass
  have stillRetiring : drained.disks disk = some .retiring := by
    rw [show drained.disks = cache.disks from disks]
    exact retiring
  have kept : sparesAll cache.disks answers (drainedDigests cache disk limit) = true ↔
      ∀ digest ∈ presentOn cache disk, Held drained digest := by
    rw [← all]
    refine ⟨fun spared digest member => ?_, fun still digest member =>
      still digest (taken.subset member)⟩
    by_cases listed : digest ∈ drainedDigests cache disk limit
    · exact spared digest listed
    · change (drained.world digest).Backed
      rw [untouched digest listed]
      exact held digest member
  rw [kept]
  cases outcome with
  | error fault =>
    refine ⟨Drained.kept, fun still => ⟨still, fun dead => ?_⟩⟩
    simp only [stillRetiring] at dead
    cases dead
  | ok count =>
    refine ⟨fun drained digest member => ?_, fun still => ⟨fun digest member => ?_, ?_⟩⟩
    · exact held_maybeAutoDead.mp (drained.kept digest member)
    · exact held_maybeAutoDead.mpr (still digest member)
    · intro dead row member _
      exact dead_maybeAutoDead stillRetiring dead row member

/-! ## A write that fails -/

/-- An entry with a plain file on a disk. -/
def sampleEntry (diskId size : Nat) (state : EntryState) : Entry :=
  ⟨diskId, ⟨.rawBytes, none⟩, size, state, .rawBytes, none, true⟩

/-- Asset 7 is present on disk 1, which retires; disk 2 is active. -/
def sampleCache : Cache where
  entries := ⟨[⟨7, sampleEntry 1 10 .present⟩], by simp⟩
  disks disk := if disk = 1 then some .retiring else if disk = 2 then some .active else none
  files digest disk slot :=
    if digest = 7 ∧ disk = 1 ∧ slot = ⟨.rawBytes, none⟩ then some 10 else none

/-- Everything goes well but for the write, which may not. -/
def sampleDrain (write : Nat → WriteEnd) : DrainAnswer where
  target := true
  readFails := none
  restoreFails := none
  fill := {
    admitted := true
    conformant := true
    identity := true
    deleteTimesOut := false
    attempts := fun remaining =>
      { epochFails := none
        reserves := { placement := 2, sizeHint := 10 }
        write := write remaining
        finalizeFails := none
        finalizes := {} } }
  deletes := true

theorem presentOn_sampleCache : presentOn sampleCache 1 = [7] := by decide

theorem held_sampleCache : Held sampleCache 7 := ⟨sampleEntry 1 10 .present, rfl, rfl, rfl⟩

/-- The disk runs full at the first attempt, and the second one succeeds. -/
theorem drained_iff_sparesAll_enospc : Drained sampleCache
      (drainRetiringDisk sampleCache 1 none fun _ => sampleDrain fun remaining =>
        if remaining = 3 then .enospc none else .wrote 10).1 1 := by
  refine (drained_iff_sparesAll sampleCache 1 none _ rfl ?_).mpr (by decide)
  rw [presentOn_sampleCache]
  intro digest member
  rw [List.mem_singleton.mp member]
  exact held_sampleCache

/-- After a failed write the row is lost at the new location, and the disk with the
good file is marked dead. -/
theorem not_drainLaw : ¬ DrainLaw := by
  intro law
  have drained := law sampleCache 1 none (fun _ => sampleDrain fun _ =>
    .failed none .caught) rfl (by
      intro digest member
      rw [List.mem_singleton.mp member]
      exact held_sampleCache)
  obtain ⟨entry, found, present, _⟩ := drained.kept 7 (by
    exact List.mem_singleton_self 7)
  have lost : (((drainRetiringDisk sampleCache 1 none (fun _ => sampleDrain fun _ =>
      .failed none .caught)).1.world 7).entry).map Entry.state = some .lost := by decide
  rw [found] at lost
  simp [present] at lost

end Hdcache
end Sutradhara
