import Sutradhara.Foundation.Transition

/-!
# One reader for each disk

All reads of a disk with a deadline go through one reader.  A worker that has run
out of time cannot be stopped, so its generation is abandoned, and a recovery probe
starts the next one.  The threads report timeouts and recoveries after the fact and
name only a generation.  A probe of a generation may therefore report its success
after another request of that generation has timed out, and new requests then queue
behind the stuck worker.
-/

namespace Sutradhara
namespace Hdcache

open Foundation

/-- `_state` of a reader. -/
inductive ReaderState
  | normal
  | abandoned
  | recovering
  deriving DecidableEq

/-- A future, with whether its result passes `recovery_succeeded`.  To the thread that
waits, a `TimeoutError` of the operation itself is the timeout of the wait. -/
inductive ReadFuture
  | pending
  | cancelled
  | running
  | done (succeeded : Bool)
  | timeoutError
  deriving DecidableEq

/-- How far the thread of `_run_disk_actor_operation` has come. -/
inductive Waiter
  | waiting
  | expired
  | abandoning
  | reported
  | recovered
  deriving DecidableEq

/-- A submission.  The untaken requests of a generation, in their order, are the
queue of its worker. -/
structure Submission where
  recoveryProbe : Bool
  generation : Nat
  future : ReadFuture
  waiter : Waiter

/-- `_DiskReaderActor`. -/
structure DiskReader where
  state : ReaderState
  generation : Nat
  submissions : List Submission

/-- `__init__`. -/
def startedReader : DiskReader := ⟨.normal, 0, []⟩

section

variable (reader : DiskReader)

/-- `submit`, with the worker on whose queue the request is put. -/
def DiskReader.submit (recoveryProbe : Bool) : DiskReader × Option Nat :=
  let put (reader : DiskReader) : DiskReader × Option Nat :=
    ({ reader with submissions :=
        reader.submissions ++ [⟨recoveryProbe, reader.generation, .pending, .waiting⟩] },
      some reader.generation)
  if reader.state ≠ .normal ∧ recoveryProbe = false then (reader, none)
  else if recoveryProbe = true ∧ reader.state = .abandoned then
    put { reader with state := .recovering, generation := reader.generation + 1 }
  else put reader

/-- Change one submission that is ready for it. -/
def DiskReader.advance (index : Nat) (ready : Submission → Bool)
    (change : Submission → Submission) : Option DiskReader :=
  (reader.submissions[index]?).bind fun submission =>
    if ready submission then
      some { reader with submissions := reader.submissions.set index (change submission) }
    else none

/-- Set the state unless the generation has passed, as `mark_abandoned` and
`mark_recovered` do. -/
def DiskReader.mark (generation : Nat) (state : ReaderState) : DiskReader :=
  if generation = reader.generation then { reader with state := state } else reader

/-- What the threads and the workers do. -/
inductive ReaderAction
  | submit (recoveryProbe : Bool)
  | take (worker : Nat)
  | finish (index : Nat) (succeeded : Bool)
  | raiseTimeout (index : Nat)
  | expire (index : Nat)
  | cancel (index : Nat)
  | markAbandoned (index : Nat)
  | markRecovered (index : Nat)

/-- The next request of a worker that is free. -/
def DiskReader.next (worker : Nat) : Option Nat :=
  let own := reader.submissions.filter (·.generation = worker)
  if own.any (·.future = .running) then none
  else reader.submissions.findIdx? fun submission =>
    submission.generation = worker ∧ submission.future = .pending

/-- One step of a thread or a worker. -/
def DiskReader.step : ReaderAction → Option DiskReader
  | .submit recoveryProbe => some (reader.submit recoveryProbe).1
  | .take worker =>
    (reader.next worker).bind fun index =>
      reader.advance index (fun _ => true) ({ · with future := .running })
  | .finish index succeeded =>
    reader.advance index (·.future = .running) ({ · with future := .done succeeded })
  | .raiseTimeout index =>
    reader.advance index (·.future = .running) ({ · with future := .timeoutError })
  | .expire index =>
    reader.advance index
      (fun submission => submission.waiter = .waiting ∧ ∀ succeeded,
        submission.future ≠ .done succeeded)
      ({ · with waiter := .expired })
  | .cancel index =>
    reader.advance index (·.waiter = .expired) fun submission =>
      { submission with
        waiter := .abandoning
        future := if submission.future = .pending then .cancelled else submission.future }
  | .markAbandoned index =>
    (reader.submissions[index]?).bind fun submission =>
      (reader.advance index (·.waiter = .abandoning) ({ · with waiter := .reported })).map
        (·.mark submission.generation .abandoned)
  | .markRecovered index =>
    (reader.submissions[index]?).bind fun submission =>
      (reader.advance index
        (fun submission => submission.waiter = .waiting ∧ submission.recoveryProbe ∧
          submission.future = .done true)
        ({ · with waiter := .recovered })).map (·.mark submission.generation .normal)

/-- No request is put on the queue of a worker that executes an operation whose
timeout has been recorded. -/
def DiskReader.Unstuck : Prop :=
  ∀ worker, (reader.submit false).2 = some worker → ∀ submission ∈ reader.submissions,
    submission.waiter = .reported → submission.future = .running →
    submission.generation ≠ worker

/-- In every run. -/
def ReaderLaw : Prop :=
  ∀ actions reader, Transition.run DiskReader.step startedReader actions = some reader →
    reader.Unstuck

/-- A probe reports after a read that came later has timed out. -/
theorem not_readerLaw : ¬ ReaderLaw := by
  intro law
  have unstuck := law [.submit true, .take 0, .finish 0 true, .submit false, .take 0,
    .expire 1, .cancel 1, .markAbandoned 1, .markRecovered 0] _ rfl
  exact unstuck 0 rfl _ (.tail _ (.head _)) rfl rfl rfl

/-- A recovery is reported before any timeout of its generation. -/
def timely : ReaderAction → Bool
  | .markRecovered index =>
    (reader.submissions[index]?).all fun probe =>
      reader.submissions.all fun submission =>
        submission.waiter ≠ .reported ∨ submission.generation ≠ probe.generation
  | _ => true

/-- Every recorded timeout is of an earlier generation, or the reader does not take
requests. -/
def DiskReader.Fenced : Prop :=
  ∀ submission ∈ reader.submissions, submission.generation ≤ reader.generation ∧
    (submission.waiter = .reported → reader.state = .normal →
      submission.generation ≠ reader.generation)

end

namespace DiskReader

variable {reader next : DiskReader} {index : Nat} {ready : Submission → Bool}
  {change : Submission → Submission}

theorem Fenced.unstuck (fenced : reader.Fenced) : reader.Unstuck := by
  intro worker placed submission member reported running
  unfold submit at placed
  split_ifs at placed with refused probes
  · cases probes.1
  · cases placed
    exact (fenced submission member).2 reported (by simpa using refused)

theorem Fenced.submit (fenced : reader.Fenced) (recoveryProbe : Bool) :
    (reader.submit recoveryProbe).1.Fenced := by
  unfold DiskReader.submit
  split_ifs with refused probes
  · exact fenced
  all_goals
    intro submission member
    rcases List.mem_append.mp member with before | added
  · exact ⟨Nat.le_succ_of_le (fenced submission before).1, nofun⟩
  · rw [List.mem_singleton.mp added]
    exact ⟨Nat.le_refl _, nofun⟩
  · exact fenced submission before
  · rw [List.mem_singleton.mp added]
    exact ⟨Nat.le_refl _, nofun⟩

theorem exists_of_advance (advanced : reader.advance index ready change = some next) :
    ∃ old, reader.submissions[index]? = some old ∧
      next = { reader with submissions := reader.submissions.set index (change old) } := by
  obtain ⟨old, found, changed⟩ := Option.bind_eq_some_iff.mp advanced
  split_ifs at changed
  exact ⟨old, found, (Option.some.inj changed).symm⟩

/-- A change that records no timeout keeps the fence. -/
theorem Fenced.advance
    (fenced : reader.Fenced)
    (advanced : reader.advance index ready change = some next)
    (generation : ∀ submission, (change submission).generation = submission.generation)
    (waiter : ∀ submission, (change submission).waiter = .reported →
      submission.waiter = .reported) : next.Fenced := by
  obtain ⟨old, isOld, rfl⟩ := exists_of_advance advanced
  have bounded := fenced old (List.mem_of_getElem? isOld)
  intro submission member
  rcases List.mem_or_eq_of_mem_set member with before | rfl
  · exact fenced submission before
  · rw [generation]
    exact ⟨bounded.1, fun reported => bounded.2 (waiter old reported)⟩

theorem Fenced.step
    {action : ReaderAction}
    (fenced : reader.Fenced)
    (permitted : timely reader action = true)
    (stepped : reader.step action = some next) : next.Fenced := by
  cases action with
  | submit recoveryProbe =>
    cases stepped
    exact fenced.submit recoveryProbe
  | take worker =>
    obtain ⟨index, -, advanced⟩ := Option.bind_eq_some_iff.mp stepped
    exact fenced.advance advanced (fun _ => rfl) (fun _ reported => reported)
  | finish index succeeded =>
    exact fenced.advance stepped (fun _ => rfl) (fun _ reported => reported)
  | raiseTimeout index =>
    exact fenced.advance stepped (fun _ => rfl) (fun _ reported => reported)
  | expire index =>
    exact fenced.advance stepped (fun _ => rfl) nofun
  | cancel index =>
    exact fenced.advance stepped (fun _ => rfl) nofun
  | markAbandoned index =>
    obtain ⟨own, isOwn, marked⟩ := Option.bind_eq_some_iff.mp stepped
    obtain ⟨middle, advanced, rfl⟩ := Option.map_eq_some_iff.mp marked
    obtain ⟨old, isOld, rfl⟩ := exists_of_advance advanced
    obtain rfl := Option.some.inj (isOwn.symm.trans isOld)
    have bounded := fenced own (List.mem_of_getElem? isOwn)
    unfold mark
    split_ifs with same
    all_goals
      intro submission member
      rcases List.mem_or_eq_of_mem_set member with before | rfl
    · exact ⟨(fenced submission before).1, nofun⟩
    · exact ⟨bounded.1, nofun⟩
    · exact fenced submission before
    · exact ⟨bounded.1, fun _ _ => same⟩
  | markRecovered index =>
    obtain ⟨own, isOwn, marked⟩ := Option.bind_eq_some_iff.mp stepped
    obtain ⟨middle, advanced, rfl⟩ := Option.map_eq_some_iff.mp marked
    have kept := fenced.advance advanced (fun _ => rfl) nofun
    obtain ⟨old, isOld, rfl⟩ := exists_of_advance advanced
    unfold mark
    split_ifs with same
    · intro submission member
      refine ⟨(kept submission member).1, fun reported _ => ?_⟩
      rcases List.mem_or_eq_of_mem_set member with before | rfl
      · rw [timely, isOwn, Option.all_some, List.all_eq_true] at permitted
        have apart := of_decide_eq_true (permitted submission before)
        exact same ▸ apart.resolve_left (not_not.mpr reported)
      · cases reported
    · exact kept

end DiskReader

/-- While recoveries are reported before the timeouts of their generation, nothing
queues behind a stuck worker. -/
theorem unstuck_of_timely
    (actions : List ReaderAction)
    (reader : DiskReader)
    (admitted : Transition.Admits DiskReader.step (timely · · = true) startedReader actions)
    (ended : Transition.run DiskReader.step startedReader actions = some reader) :
    reader.Unstuck := by
  refine (Transition.invariant_of_admits _ DiskReader.Fenced
    (fun _ _ _ fenced permitted stepped => fenced.step permitted stepped) ?_ admitted ended).unstuck
  intro submission member
  cases member

theorem unstuck_of_timely_recovery : (DiskReader.mk .normal 1
    [⟨false, 0, .running, .reported⟩, ⟨true, 1, .done true, .recovered⟩]).Unstuck :=
  unstuck_of_timely [.submit false, .take 0, .expire 0, .cancel 0, .markAbandoned 0,
    .submit true, .take 1, .finish 1 true, .markRecovered 1] _ (by decide) rfl

end Hdcache
end Sutradhara
