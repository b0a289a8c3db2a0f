import Mathlib.Data.Set.Lattice
import Mathlib.Data.List.Sort

/-!
# What a batch still owes

A job handler reports the objects it has written and those that a checkpoint has made
durable; what is written and not yet durable stays in the step state of the job, also
when the handler fails.  On a failure the engine takes it from the attribute that the
handler's session has loaded, and a rollback of that session expires the attribute.
-/

namespace Sutradhara
namespace Jobs
namespace Checkpoint

/-! ## Reports -/

/-- An object of a batch.  Its `restart_offset` is always zero. -/
structure WrittenObject where
  callerObjectId : String
  provisionalOrdinal : Int
  source : String

/-- The value under `CHECKPOINT_BATCH_STATE_KEY`, empty where a batch has no entry. -/
abbrev Batches := String → List WrittenObject

/-- `record_batch_written` and `record_batch_checkpointed`. -/
inductive Report
  | written (batchId : String) (object : WrittenObject)
  | checkpointed (batchId : String) (callerObjectIds : List String)

/-- The key by which the objects of a batch are sorted. -/
def WrittenObject.precedes (first second : WrittenObject) : Bool :=
  first.provisionalOrdinal < second.provisionalOrdinal ||
    (first.provisionalOrdinal = second.provisionalOrdinal &&
      first.callerObjectId ≤ second.callerObjectId)

section

variable (stored batches : Batches)

/-- A checkpoint of a batch without an entry is left alone. -/
def Report.records : Report → Bool
  | .written _ _ => true
  | .checkpointed batchId _ => !(batches batchId).isEmpty

/-- The batches that a report assigns. -/
def Report.record : Report → Batches
  | .written batchId object =>
    Function.update batches batchId ((((batches batchId).filter fun other =>
        other.callerObjectId ≠ object.callerObjectId) ++ [object]).insertionSort
          fun first second => first.precedes second)
  | .checkpointed batchId callerObjectIds =>
    Function.update batches batchId
      ((batches batchId).filter fun other => !callerObjectIds.contains other.callerObjectId)

/-! ## The session of a handler -/

/-- The session of a handler, with what it holds of the job. -/
structure HandlerSession where
  /-- What the connection reads. -/
  row : Batches
  /-- The attribute in `handler_job.__dict__`, unless it is expired. -/
  loaded : Option Batches
  /-- The row at the last commit. -/
  committed : Batches
  /-- The row at the start of the open savepoints, the innermost first, and whether the
  job has been flushed since. -/
  savepoints : List (Batches × Bool)
  /-- `checkpoint_batch_state_touched`. -/
  touched : Bool

/-- The session as `_invoke_handler_in_savepoint` opens it. -/
def HandlerSession.start : HandlerSession := ⟨stored, some stored, stored, [], false⟩

/-- What a handler does with its session. -/
inductive Action
  | report (report : Report)
  | savepoint
  | release
  /-- The innermost savepoint is rolled back. -/
  | rollbackTo
  | commit
  /-- The session is rolled back, by the handler or by a flush that fails. -/
  | rollback

/-- One action.  A rollback expires what it may have changed. -/
def HandlerSession.step (session : HandlerSession) : Action → HandlerSession
  | .report report =>
    let prior := session.loaded.getD session.row
    if report.records prior then
      { session with
        row := report.record prior
        loaded := some (report.record prior)
        savepoints := session.savepoints.map fun saved => (saved.1, true)
        touched := true }
    else { session with loaded := some prior }
  | .savepoint => { session with savepoints := (session.row, false) :: session.savepoints }
  | .release => { session with savepoints := session.savepoints.tail }
  | .rollbackTo =>
    match session.savepoints with
    | [] => session
    | (saved, flushed) :: rest =>
      { session with
        row := saved
        loaded := if flushed then none else session.loaded
        savepoints := rest }
  | .commit => { session with committed := session.row, savepoints := [] }
  | .rollback => { session with row := session.committed, loaded := none, savepoints := [] }

/-- How a handler ends. -/
inductive Ending
  /-- It returns, with the batches that the step state of its result carries, if any. -/
  | returns (result : Option Batches)
  /-- It raises an error other than a lock error. -/
  | raises

/-- One attempt of the job. -/
structure Attempt where
  actions : List Action
  ending : Ending

/-- The batches in the step state when the attempt commits. -/
def Attempt.run (attempt : Attempt) : Batches :=
  let session := attempt.actions.foldl HandlerSession.step (.start stored)
  match attempt.ending with
  | .returns result => result.getD session.row
  | .raises => if session.touched then session.loaded.getD fun _ => [] else stored

/-! ## What is owed -/

/-- The objects of the batches. -/
def obligations : Set (String × WrittenObject) := {owed | owed.2 ∈ batches owed.1}

/-- What is owed after a report: a written object replaces the one of its name. -/
def Report.settle (owed : Set (String × WrittenObject)) : Report → Set (String × WrittenObject)
  | .written batchId object =>
    insert (batchId, object) {one ∈ owed |
      ¬(one.1 = batchId ∧ one.2.callerObjectId = object.callerObjectId)}
  | .checkpointed batchId callerObjectIds =>
    {one ∈ owed | ¬(one.1 = batchId ∧ one.2.callerObjectId ∈ callerObjectIds)}

/-- What is owed after an action; only reports count. -/
def Action.settle (owed : Set (String × WrittenObject)) : Action → Set (String × WrittenObject)
  | .report made => made.settle owed
  | _ => owed

/-- After any attempts the job owes exactly what was reported written and not since
checkpointed. -/
def ObligationLaw : Prop :=
  ∀ (stored : Batches) (attempts : List Attempt),
    obligations (attempts.foldl Attempt.run stored) =
      (attempts.flatMap Attempt.actions).foldl Action.settle (obligations stored)

/-- No savepoint is rolled back in which the job was flushed, and the session only
before its first report. -/
def HandlerSession.careful (session : HandlerSession) : Action → Bool
  | .rollbackTo => session.savepoints.head?.all fun saved => !saved.2
  | .rollback => !session.touched
  | _ => true

/-- The careful lists of actions. -/
def HandlerSession.allCareful : HandlerSession → List Action → Bool
  | _, [] => true
  | session, action :: rest => session.careful action && (session.step action).allCareful rest

/-- The handlers are careful, and their results leave the batches alone. -/
def Careful : Batches → List Attempt → Prop
  | _, [] => True
  | stored, attempt :: rest =>
    (HandlerSession.start stored).allCareful attempt.actions = true ∧
      (∀ batches, attempt.ending ≠ .returns (some batches)) ∧ Careful (attempt.run stored) rest

theorem obligations_record (report : Report) :
    obligations (report.record batches) = report.settle (obligations batches) := by
  ext ⟨batchId, object⟩
  cases report with
  | written target added =>
    by_cases same : batchId = target
    · subst same
      simp [obligations, Report.record, Report.settle, or_comm]
    · simp [obligations, Report.record, Report.settle, same]
  | checkpointed target names =>
    by_cases same : batchId = target
    · subst same
      simp [obligations, Report.record, Report.settle]
    · simp [obligations, Report.record, Report.settle, same]

end

/-- A report that is left alone settles nothing. -/
theorem settle_of_not_records (ignored : Report.records batches report = false) :
    report.settle (obligations batches) = obligations batches := by
  cases report with
  | written => cases ignored
  | checkpointed target names =>
    have empty : batches target = [] := by simpa [Report.records] using ignored
    ext ⟨batchId, object⟩
    simp only [Report.settle, obligations, Set.mem_ofPred_eq, and_iff_left_iff_imp]
    rintro member ⟨rfl, _⟩
    simp [empty] at member

/-! ## Careful handlers -/

/-- The invariant of a careful handler: the row owes what is due, and the attribute is
the row whenever the engine may look at it. -/
structure Kept (stored : Batches) (owed : Set (String × WrittenObject))
    (session : HandlerSession) : Prop where
  owes : obligations session.row = owed
  loaded : session.loaded.getD session.row = session.row
  known : session.touched = true → session.loaded = some session.row
  untouched : session.touched = false → session.row = stored ∧ session.committed = stored
  clean : ∀ saved, (saved, false) ∈ session.savepoints → saved = session.row

variable {session : HandlerSession}

theorem Kept.report (kept : Kept stored owed session) (report : Report) :
    Kept stored (report.settle owed) (session.step (.report report)) := by
  rw [HandlerSession.step, kept.loaded, ← kept.owes]
  cases recorded : report.records session.row with
  | true => exact ⟨obligations_record _ _, rfl, fun _ => rfl, nofun, by simp⟩
  | false =>
    exact ⟨(settle_of_not_records recorded).symm, rfl, fun _ => rfl, kept.untouched, kept.clean⟩

theorem Kept.step (kept : Kept stored owed session) (isCareful : session.careful action = true) :
    Kept stored (action.settle owed) (session.step action) := by
  obtain ⟨row, loaded, committed, savepoints, touched⟩ := session
  obtain ⟨owes, same, known, untouched, clean⟩ := kept
  cases action with
  | report report => exact Kept.report ⟨owes, same, known, untouched, clean⟩ report
  | savepoint => exact ⟨owes, same, known, untouched, by simpa [HandlerSession.step] using clean⟩
  | release =>
    exact ⟨owes, same, known, untouched, fun saved member =>
      clean saved (List.mem_of_mem_tail member)⟩
  | rollbackTo =>
    cases savepoints with
    | nil => exact ⟨owes, same, known, untouched, clean⟩
    | cons first rest =>
      obtain ⟨saved, flushed⟩ := first
      cases flushed with
      | true => cases isCareful
      | false =>
        obtain rfl : saved = row := clean saved List.mem_cons_self
        exact ⟨owes, same, known, untouched, fun other member =>
          clean other (List.mem_cons_of_mem _ member)⟩
  | commit =>
    exact ⟨owes, same, known, fun before => ⟨(untouched before).1, (untouched before).1⟩, nofun⟩
  | rollback =>
    obtain rfl : touched = false := by simpa [HandlerSession.careful] using isCareful
    obtain ⟨rfl, rfl⟩ : row = stored ∧ committed = stored := untouched rfl
    exact ⟨owes, rfl, nofun, fun _ => ⟨rfl, rfl⟩, nofun⟩

theorem Kept.run
    (kept : Kept stored owed session)
    (isCareful : session.allCareful actions = true) :
    Kept stored (actions.foldl Action.settle owed) (actions.foldl HandlerSession.step session) := by
  induction actions generalizing session owed with
  | nil => exact kept
  | cons action rest ih =>
    obtain ⟨here, later⟩ := Bool.and_eq_true_iff.mp isCareful
    exact ih (kept.step here) later

/-- One attempt of a careful handler. -/
theorem obligations_run
    {attempt : Attempt}
    (isCareful : (HandlerSession.start stored).allCareful attempt.actions = true)
    (plain : ∀ batches, attempt.ending ≠ .returns (some batches)) :
    obligations (attempt.run stored) =
      attempt.actions.foldl Action.settle (obligations stored) := by
  obtain ⟨actions, ending⟩ := attempt
  have started : Kept stored (obligations stored) (.start stored) :=
    ⟨rfl, rfl, fun _ => rfl, fun _ => ⟨rfl, rfl⟩, nofun⟩
  have kept := started.run isCareful
  rw [← kept.owes]
  cases ending with
  | returns result =>
    cases result with
    | none => rfl
    | some batches => exact absurd rfl (plain batches)
  | raises =>
    simp only [Attempt.run]
    split
    next touched => rw [kept.known touched, Option.getD_some]
    next untouched => rw [(kept.untouched (by simpa using untouched)).1]

/-- The obligations of careful handlers survive their failures. -/
theorem owed_of_careful
    (stored : Batches)
    (attempts : List Attempt)
    (careful : Careful stored attempts) : obligations (attempts.foldl Attempt.run stored) =
      (attempts.flatMap Attempt.actions).foldl Action.settle (obligations stored) := by
  induction attempts generalizing stored with
  | nil => rfl
  | cons attempt rest ih =>
    obtain ⟨here, plain, later⟩ := careful
    rw [List.flatMap_cons, List.foldl_append, ← obligations_run here plain]
    exact ih _ later

/-! ## A flush that fails after a report -/

/-- The first object of a batch. -/
def firstObject : WrittenObject := ⟨"o", 0, "s"⟩

/-- The report is committed by the handler; then a flush fails and the handler raises. -/
def failedFlush : Attempt := ⟨[.report (.written "b" firstObject), .commit, .rollback], .raises⟩

/-- The expired attribute is taken for an empty one. -/
theorem not_obligationLaw : ¬ObligationLaw := by
  intro law
  have settled := law (fun _ => []) [failedFlush]
  have owed : ("b", firstObject) ∈ obligations (failedFlush.run fun _ => []) := by
    rw [show failedFlush.run (fun _ => []) = [failedFlush].foldl Attempt.run _ from rfl, settled]
    exact Set.mem_insert _ _
  cases owed

/-- A handler that raises after a report in a savepoint, and one that checkpoints. -/
def retried : List Attempt :=
  [⟨[.rollback, .savepoint, .report (.written "b" firstObject), .release, .savepoint,
      .rollbackTo], .raises⟩,
    ⟨[.report (.checkpointed "b" ["o"]), .commit], .returns none⟩]

theorem owed_of_careful_retried : obligations (retried.foldl Attempt.run fun _ => []) =
      (retried.flatMap Attempt.actions).foldl Action.settle (obligations fun _ => []) :=
  owed_of_careful _ retried ⟨rfl, nofun, rfl, nofun, trivial⟩

end Checkpoint
end Jobs
end Sutradhara
