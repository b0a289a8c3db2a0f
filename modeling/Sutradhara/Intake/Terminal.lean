import Sutradhara.Intake.Streaming

/-!
# Terminal states of a streaming intake

`AbortIntake` writes its state without looking at the state it overwrites, and
so do the rollback and the last transaction of `CommitIntake`.  An abort that
overlaps a commit therefore undoes it.  When aborts and orphan reconciliations
stay outside the commits, committed and aborted are terminal, and the directory
of a committed intake is never removed by an abort.
-/

namespace Sutradhara
namespace Intake

open Foundation Option
open Foundation.Interleaving Transition

/-- The stretch of a call during which another call may disturb it. -/
inductive Window
  | outside
  | uploading
  | committing
  | aborting
  deriving DecidableEq

/-- An upload is counted from its lock to its `finally` block, a commit runs from
its compare-and-set to its last state write, and an abort from its status check
to its state write. -/
def Call.window : Call → Window
  | .receiving _ | .leaseLost | .uploadExit _ => .uploading
  | .commitCheck _ | .commitRollback _ | .commitAssemble _
  | .commitFinish _ => .committing
  | .abortRemove | .abortMark => .aborting
  | _ => .outside

variable {request : CommitRequest}

@[simp] theorem window_commitClaim : (Call.commitClaim request).window = .outside := rfl

@[simp] theorem window_abort : Call.abort.window = .outside := rfl

@[simp] theorem window_abortRemove : Call.abortRemove.window = .aborting := rfl

@[simp] theorem window_abortMark : Call.abortMark.window = .aborting := rfl

@[simp] theorem window_reconcile : Call.reconcile.window = .outside := rfl

/-- Everything a step can do to the durable state, the upload counter, the
landing directory and the window of its call. -/
inductive Transit : Shared → Call → Shared → Call → Prop
  | silent {shared shared' call call'}
      (state : shared'.state = shared.state)
      (removed : shared'.removedByAbort = shared.removedByAbort)
      (inFlight : shared'.inFlight = shared.inFlight)
      (window : call'.window = call.window) :
      Transit shared call shared' call'
  | enterUpload {shared call call'}
      (before : call.window = .outside)
      (streaming : shared.state = .streaming)
      (after : call'.window = .uploading) :
      Transit shared call { shared with inFlight := shared.inFlight + 1 } call'
  | loseLease {shared call call'}
      (before : call.window = .uploading)
      (after : call'.window = .uploading) :
      Transit shared call (failIntakeAfterLeaseLoss shared) call'
  | leaveUpload {shared call call'}
      (before : call.window = .uploading)
      (after : call'.window = .outside) :
      Transit shared call (leaveUpload shared) call'
  | enterCommit {shared request call'}
      (idle : shared.inFlight = 0)
      (streaming : shared.state = .streaming)
      (after : call'.window = .committing) :
      Transit shared (.commitClaim request) (setState shared .committing) call'
  | leaveCommit {shared shared' call call'}
      (before : call.window = .committing)
      (removed : shared'.removedByAbort = shared.removedByAbort)
      (inFlight : shared'.inFlight = shared.inFlight)
      (after : call'.window = .outside) :
      Transit shared call shared' call'
  | enterAbort {shared call'}
      (alive : shared.state ≠ .committed)
      (after : call'.window = .aborting) :
      Transit shared .abort shared call'
  | removeDir {shared shared'}
      (state : shared'.state = shared.state)
      (inFlight : shared'.inFlight = shared.inFlight) :
      Transit shared .abortRemove shared' .abortMark
  | giveUpAbort {shared shared' call call'}
      (before : call.window = .aborting)
      (state : shared'.state = shared.state)
      (removed : shared'.removedByAbort = shared.removedByAbort)
      (inFlight : shared'.inFlight = shared.inFlight)
      (after : call'.window = .outside) :
      Transit shared call shared' call'
  | leaveAbort {shared call call'}
      (before : call.window = .aborting)
      (after : call'.window = .outside) :
      Transit shared call (setState shared .aborted) call'
  | reconcile {shared call'}
      (alive : shared.state = .streaming ∨ shared.state = .committing)
      (after : call'.window = .outside) :
      Transit shared .reconcile (setState shared .aborted) call'

theorem uploadFile_transit (shared : Shared) (relpath : String) : Transit shared (.upload relpath)
      (uploadFile shared relpath).1 (uploadFile shared relpath).2 := by
  unfold uploadFile
  split
  next streaming => exact .enterUpload rfl streaming rfl
  · exact .silent rfl rfl rfl rfl

theorem receiveFile_transit (taken : receiveFile shared relpath answer = some (shared', call')) :
    Transit shared (.receiving relpath) shared' call' := by
  cases answer with
  | received digest size =>
    simp only [receiveFile] at taken
    split at taken <;> cases taken <;> exact .silent rfl rfl rfl rfl
  | leaseLost | raised | raisedAfterMkdir =>
    cases taken
    exact .silent rfl rfl rfl rfl
  | proceed | receiveError | inactive | raisedRemoving | killed => cases taken

variable {shared : Shared}

theorem commitIntake_window : (commitIntake shared request).window = .outside := by
  unfold commitIntake
  split
  · split <;> rfl
  · rfl
  · rfl
  · rfl

theorem commitClaim_transit (shared : Shared) (request : CommitRequest) :
    Transit shared (.commitClaim request)
      (commitClaim shared request).1 (commitClaim shared request).2 := by
  unfold commitClaim compareAndSetState
  by_cases busy : shared.inFlight ≠ 0
  · rw [if_pos busy]
    exact .silent rfl rfl rfl rfl
  · rw [if_neg busy]
    by_cases streaming : shared.state = .streaming
    · rw [if_pos streaming]
      exact .enterCommit (not_not.mp busy) streaming rfl
    · rw [if_neg streaming]
      exact .silent rfl rfl rfl rfl

theorem commitCheck_window : (commitCheck shared request).window = .committing := by
  simp only [commitCheck]
  split <;> rfl

theorem commitAssemble_transit
    (taken : commitAssemble shared request answer = some (shared', call')) :
    Transit shared (.commitAssemble request) shared' call' := by
  cases answer with
  | proceed | receiveError =>
    cases taken
    exact .silent rfl rfl rfl rfl
  | raised =>
    cases taken
    exact .leaveCommit rfl rfl rfl rfl
  | received | leaseLost | raisedAfterMkdir | inactive | raisedRemoving
  | killed => cases taken

theorem abortIntake_transit : Transit shared .abort shared (abortIntake shared) := by
  cases current : shared.state with
  | committed | aborted =>
    refine .silent rfl rfl rfl ?_
    simp only [abortIntake, current]
    rfl
  | streaming | committing =>
    refine .enterAbort (by simp [current]) ?_
    simp only [abortIntake, current]
    rfl

theorem abortRemove_transit (taken : abortRemove shared answer = some (shared', call')) :
    Transit shared .abortRemove shared' call' := by
  cases answer with
  | proceed =>
    cases taken
    exact .removeDir rfl rfl
  | raisedRemoving =>
    cases taken
    exact .giveUpAbort rfl rfl rfl rfl rfl
  | received | receiveError | leaseLost | raised | raisedAfterMkdir | inactive
  | killed => cases taken

theorem reconcile_transit (taken : reconcileOrphanedGrpcIntake shared answer = some shared') :
    Transit shared .reconcile shared' (.returned .reconciled) := by
  cases answer with
  | inactive =>
    simp only [reconcileOrphanedGrpcIntake] at taken
    split at taken
    next alive =>
      cases taken
      exact .reconcile alive rfl
    · cases taken
      exact .silent rfl rfl rfl rfl
  | proceed =>
    cases taken
    exact .silent rfl rfl rfl rfl
  | received | receiveError | leaseLost | raised | raisedAfterMkdir
  | raisedRemoving | killed => cases taken

theorem die_transit (taken : die shared call = some (shared', call')) :
    Transit shared call shared' call' := by
  cases call with
  | receiving | leaseLost | uploadExit =>
    cases taken
    exact .leaveUpload rfl rfl
  | commitCheck | commitRollback | commitAssemble | commitFinish =>
    cases taken
    exact .leaveCommit rfl rfl rfl rfl
  | abortRemove =>
    cases taken
    exact .giveUpAbort rfl rfl rfl rfl rfl
  | abortMark | returned => cases taken
  | upload | commit | commitClaim | commitCleanup | abort | reconcile =>
    cases taken
    exact .silent rfl rfl rfl rfl

theorem serve_transit (taken : serve shared call answer = some (shared', call')) :
    Transit shared call shared' call' := by
  cases call with
  | upload relpath =>
    have transit := uploadFile_transit shared relpath
    rw [Option.some.inj taken] at transit
    exact transit
  | receiving relpath => exact receiveFile_transit taken
  | leaseLost =>
    cases taken
    exact .loseLease rfl rfl
  | uploadExit reply =>
    cases taken
    exact .leaveUpload rfl rfl
  | commit request =>
    cases taken
    exact .silent rfl rfl rfl (commitIntake_window)
  | commitClaim request =>
    have transit := commitClaim_transit shared request
    rw [Option.some.inj taken] at transit
    exact transit
  | commitCheck request =>
    cases taken
    exact .silent rfl rfl rfl (commitCheck_window)
  | commitRollback reply | commitFinish request =>
    cases taken
    exact .leaveCommit rfl rfl rfl rfl
  | commitAssemble request => exact commitAssemble_transit taken
  | commitCleanup =>
    cases taken
    exact .silent rfl rfl rfl rfl
  | abort =>
    cases taken
    exact abortIntake_transit
  | abortRemove => exact abortRemove_transit taken
  | abortMark =>
    cases taken
    exact .leaveAbort rfl rfl
  | reconcile =>
    simp only [serve, map_eq_some_iff] at taken
    obtain ⟨next, reconciled, equal⟩ := taken
    cases equal
    exact reconcile_transit reconciled
  | returned reply => cases taken

/-- Every step is one of the listed transitions. -/
theorem step_transit (taken : program.step self shared call answer = some (shared', call')) :
    Transit shared call shared' call' := by
  simp only [program, step] at taken
  split at taken
  · exact die_transit taken
  · exact serve_transit taken

/-- Windows in which two calls may stand at once: nothing but finished or
waiting calls beside a commit. -/
def Window.compatible : Window → Window → Bool
  | .committing, other | other, .committing => other == .outside
  | _, _ => true

theorem Window.compatible_symm
    (first second : Window)
    (compatible : first.compatible second = true) : second.compatible first = true := by
  cases first <;> cases second <;> first | rfl | cases compatible

/-- A call inside a window knows the durable state it works on. -/
def AtWindow (shared : Shared) (_index : Nat) (call : Call) : Prop :=
  (call.window = .committing → shared.state = .committing) ∧
    (call.window = .aborting → shared.state ≠ .committed)

/-- Two calls stand in compatible windows. -/
def Beside (first second : Call) : Prop := first.window.compatible second.window = true

/-- The window a call must not find open when it takes its next step. -/
def Call.excludes : Call → Option Window
  | .abort | .reconcile => some .committing
  | .commitClaim _ => some .aborting
  | _ => none

section

variable (state : GrpcIntakeState) (config : Calls)

/-- Aborts and orphan reconciliations stay outside the commits: an abort passes
its status check, and a reconciliation runs, only while no commit is in its
window, and a commit takes its compare-and-set only while no abort is in its
window. -/
def Separate : Move Call Answer → Prop
  | .spawn _ => True
  | .act index _ =>
    ∀ call ∈ config.threads[index]?, ∀ other ∈ config.threads, call.excludes ≠ some other.window

instance (config : Calls) : ∀ move, Decidable (Separate config move)
  | .spawn _ => inferInstanceAs (Decidable True)
  | .act index _ =>
    inferInstanceAs (Decidable (∀ call ∈ config.threads[index]?,
      ∀ other ∈ config.threads, call.excludes ≠ some other.window))

/-- The upload counter counts the uploads. -/
def CountsUploads : Prop :=
  config.shared.inFlight = config.threads.countP fun call => call.window == .uploading

/-- Whoever removed the directory has marked the intake aborted or is about
to. -/
def RemovalAnswered : Prop :=
  config.shared.removedByAbort = true →
    config.shared.state = .aborted ∨ ∃ index : Nat, config.threads[index]? = some .abortMark

/-- What holds between any two steps of calls that stay apart. -/
structure Consistent (config : Calls) : Prop where
  windows : Program.Annotated (fun _ => True) AtWindow Beside config
  uploads : CountsUploads config
  removal : RemovalAnswered config

@[simp] theorem setState_inFlight : (setState shared state).inFlight = shared.inFlight := rfl

end

@[simp] theorem failIntakeAfterLeaseLoss_inFlight :
    (failIntakeAfterLeaseLoss shared).inFlight = shared.inFlight := by
  unfold failIntakeAfterLeaseLoss
  split <;> rfl

/-- A lost lease aborts a live intake and leaves a finished one as it is. -/
theorem failIntakeAfterLeaseLoss_state : (failIntakeAfterLeaseLoss shared).state = shared.state ∨
      ((shared.state = .streaming ∨ shared.state = .committing) ∧
        (failIntakeAfterLeaseLoss shared).state = .aborted) := by
  unfold failIntakeAfterLeaseLoss
  split
  next alive => exact Or.inr ⟨alive, rfl⟩
  · exact Or.inl rfl

theorem Beside.outside (window : call.window = .outside) : Beside call other := by
  unfold Beside
  rw [window]
  cases other.window <;> rfl

theorem Beside.of_not_committing
    (own : call.window ≠ .committing)
    (others : other.window ≠ .committing) : Beside call other := by
  unfold Beside
  cases ownWindow : call.window <;> cases otherWindow : other.window <;> first
    | rfl
    | exact absurd ownWindow own
    | exact absurd otherWindow others

/-- Beside a commit every other call is outside its window. -/
theorem Beside.outside_of_committing
    (beside : Beside call other)
    (committing : call.window = .committing) : other.window = .outside := by
  unfold Beside at beside
  rw [committing] at beside
  cases otherWindow : other.window <;> rw [otherWindow] at beside <;> first | rfl | cases beside

theorem Beside.not_committing
    (beside : Beside call other)
    (window : call.window = .uploading ∨ call.window = .aborting) :
    other.window ≠ .committing := by
  intro committing
  unfold Beside at beside
  rw [committing] at beside
  rcases window with uploading | aborting
  · rw [uploading] at beside
    cases beside
  · rw [aborting] at beside
    cases beside

theorem AtWindow.outside (window : call.window = .outside) : AtWindow shared index call := by
  constructor <;> intro inside <;> rw [window] at inside <;> cases inside

theorem AtWindow.of_state_eq
    (holds : AtWindow shared index call)
    (state : shared'.state = shared.state)
    (window : call'.window = call.window) :
    AtWindow shared' other call' := by
  unfold AtWindow
  rw [state, window]
  exact holds

theorem AtWindow.of_not_committing
    (window : call.window ≠ .committing)
    (state : call.window = .aborting → shared'.state ≠ .committed) :
    AtWindow shared' index call :=
  ⟨fun inside => absurd inside window, state⟩

section

variable (transit : Transit shared call shared' call')
include transit

/-- The assertion a step establishes for its own call. -/
theorem Transit.atWindow (holds : AtWindow shared index call) : AtWindow shared' index call' := by
  cases transit with
  | silent state _ _ window => exact holds.of_state_eq state window
  | enterUpload _ _ after | loseLease _ after =>
    apply AtWindow.of_not_committing <;> rw [after]
    · decide
    · intro inside
      cases inside
  | leaveUpload _ after | leaveCommit _ _ _ after | giveUpAbort _ _ _ _ after
  | leaveAbort _ after | reconcile _ after => exact AtWindow.outside after
  | enterCommit _ _ after =>
    refine ⟨fun _ => rfl, ?_⟩
    intro inside
    rw [after] at inside
    cases inside
  | enterAbort alive after =>
    refine ⟨?_, fun _ => alive⟩
    intro inside
    rw [after] at inside
    cases inside
  | removeDir state _ =>
    refine ⟨nofun, fun _ => ?_⟩
    rw [state]
    exact holds.2 rfl

/-- A step keeps the assertion of every other call, and stays beside it, when
its own call does not exclude the other's window and an entering commit finds no
upload. -/
theorem Transit.beside
    (holds : AtWindow shared index call)
    (otherHolds : AtWindow shared other otherCall)
    (beside : Beside call otherCall)
    (noUpload : shared.inFlight = 0 → otherCall.window ≠ .uploading)
    (notExcluded : call.excludes ≠ some otherCall.window) :
    AtWindow shared' other otherCall ∧ Beside call' otherCall := by
  cases transit with
  | silent state _ _ window =>
    refine ⟨otherHolds.of_state_eq state rfl, ?_⟩
    unfold Beside
    rw [window]
    exact beside
  | enterUpload _ streaming after =>
    refine ⟨otherHolds.of_state_eq rfl rfl, ?_⟩
    apply Beside.of_not_committing
    · rw [after]
      decide
    · intro committing
      have := otherHolds.1 committing
      rw [streaming] at this
      cases this
  | loseLease before after =>
    have apart := beside.not_committing (Or.inl before)
    refine ⟨AtWindow.of_not_committing apart ?_, ?_⟩
    · intro aborting
      rcases failIntakeAfterLeaseLoss_state with same | ⟨_, aborted⟩
      · rw [same]
        exact otherHolds.2 aborting
      · rw [aborted]
        decide
    · apply Beside.of_not_committing _ apart
      rw [after]
      decide
  | leaveUpload _ after => exact ⟨otherHolds.of_state_eq rfl rfl, Beside.outside after⟩
  | enterCommit idle streaming after =>
    have outside : otherCall.window = .outside := by
      cases otherWindow : otherCall.window with
      | outside => rfl
      | uploading => exact absurd otherWindow (noUpload idle)
      | aborting => exact absurd (by rw [otherWindow]; rfl) notExcluded
      | committing =>
        have := otherHolds.1 otherWindow
        rw [streaming] at this
        cases this
    refine ⟨AtWindow.outside outside, ?_⟩
    exact Window.compatible_symm _ _ (Beside.outside outside)
  | leaveCommit before _ _ after =>
    exact ⟨AtWindow.outside (beside.outside_of_committing before), Beside.outside after⟩
  | enterAbort _ after =>
    refine ⟨otherHolds, ?_⟩
    apply Beside.of_not_committing
    · rw [after]
      decide
    · intro committing
      rw [committing] at notExcluded
      exact notExcluded rfl
  | removeDir state _ => exact ⟨otherHolds.of_state_eq state rfl, beside⟩
  | giveUpAbort _ state _ _ after =>
    exact ⟨otherHolds.of_state_eq state rfl, Beside.outside after⟩
  | leaveAbort before after =>
    refine ⟨AtWindow.of_not_committing
      (beside.not_committing (Or.inr before)) ?_, Beside.outside after⟩
    intro _ committed
    cases committed
  | reconcile _ after =>
    refine ⟨AtWindow.of_not_committing ?_ ?_, Beside.outside after⟩
    · intro committing
      rw [committing] at notExcluded
      exact notExcluded rfl
    · intro _ committed
      cases committed

/-- The upload counter moves exactly with the uploading window. -/
theorem Transit.inFlight_add (counted : call.window = .uploading → 0 < shared.inFlight) :
    shared'.inFlight + (if call.window == .uploading then 1 else 0) =
      shared.inFlight + (if call'.window == .uploading then 1 else 0) := by
  cases transit with
  | silent _ _ inFlight window => rw [inFlight, window]
  | enterUpload before _ after => simp [before, after]
  | loseLease before after => simp [before, after]
  | leaveUpload before after =>
    have positive := counted before
    simp only [before, after]
    exact Nat.sub_add_cancel positive
  | enterCommit _ _ after => simp [after]
  | leaveCommit before _ inFlight after => simp [before, after, inFlight]
  | enterAbort _ after => simp [after]
  | removeDir _ inFlight => simp [inFlight]
  | giveUpAbort before _ _ inFlight after => simp [before, after, inFlight]
  | leaveAbort before after => simp [before, after]
  | reconcile _ after => simp [after]

end

theorem countsUploads_move
    (counts : CountsUploads config)
    (moved : program.move config move = some next) : CountsUploads next := by
  refine program.counts_move ?_ (fun taken counted => ?_) counts moved
  · intro call initial
    cases call <;> first | rfl | cases initial
  · exact (step_transit taken).inFlight_add fun uploading => counted (by simp [uploading])

/-- Only the removal of an abort sets the removal flag. -/
theorem Transit.removedByAbort
    (transit : Transit shared call shared' call')
    (removed : shared'.removedByAbort = true) :
    shared.removedByAbort = true ∨ call' = .abortMark := by
  cases transit with
  | silent _ same _ _ | leaveCommit _ same _ _ | giveUpAbort _ _ same _ _ =>
    rw [same] at removed
    exact Or.inl removed
  | enterUpload | leaveUpload | enterCommit | enterAbort | leaveAbort
  | reconcile => exact Or.inl removed
  | loseLease =>
    unfold failIntakeAfterLeaseLoss at removed
    split at removed <;> exact Or.inl removed
  | removeDir => exact Or.inr rfl

/-- A step whose own call knows its state keeps a committed intake committed and
an aborted intake aborted. -/
theorem Transit.terminal
    (transit : Transit shared call shared' call')
    (holds : AtWindow shared index call) :
    (shared.state = .committed → shared'.state = .committed) ∧
      (shared.state = .aborted → shared'.state = .aborted) := by
  cases transit with
  | silent state _ _ _ | removeDir state _ | giveUpAbort _ state _ _ _ =>
    rw [state]
    exact ⟨id, id⟩
  | enterUpload | leaveUpload | enterAbort => exact ⟨id, id⟩
  | loseLease =>
    rcases failIntakeAfterLeaseLoss_state with same | ⟨alive, aborted⟩
    · rw [same]
      exact ⟨id, id⟩
    · rw [aborted]
      refine ⟨fun committed => ?_, fun _ => rfl⟩
      rcases alive with streaming | committing <;> simp_all
  | enterCommit _ streaming _ =>
    rw [streaming]
    exact ⟨nofun, nofun⟩
  | leaveCommit before _ _ _ =>
    rw [holds.1 before]
    exact ⟨nofun, nofun⟩
  | leaveAbort before _ =>
    exact ⟨fun committed => absurd committed (holds.2 before), fun _ => rfl⟩
  | reconcile alive _ =>
    refine ⟨fun committed => ?_, fun _ => rfl⟩
    rcases alive with streaming | committing <;> simp_all

theorem removalAnswered_move
    (consistent : Consistent config)
    (moved : program.move config move = some next) : RemovalAnswered next := by
  cases move with
  | spawn call =>
    obtain ⟨_, rfl⟩ := program.move_spawn_eq_some moved
    intro removed
    rcases consistent.removal removed with aborted | ⟨index, marking⟩
    · exact Or.inl aborted
    · obtain ⟨bound, _⟩ := List.getElem?_eq_some_iff.mp marking
      refine Or.inr ⟨index, ?_⟩
      simpa [List.getElem?_append_left bound] using marking
  | act index answer =>
    obtain ⟨call, shared', call', present, taken, rfl⟩ := program.move_act_eq_some moved
    have transit := step_transit taken
    have holds := consistent.windows.thread index call present
    obtain ⟨bound, _⟩ := List.getElem?_eq_some_iff.mp present
    intro removed
    rcases transit.removedByAbort removed with before | marking
    · rcases consistent.removal before with aborted | ⟨other, marking⟩
      · exact Or.inl ((transit.terminal holds).2 aborted)
      · by_cases same : other = index
        · subst same
          rw [present] at marking
          cases marking
          simp only [program, step] at taken
          split at taken
          · cases taken
          · cases taken
            exact Or.inl rfl
        · refine Or.inr ⟨other, ?_⟩
          simpa [List.getElem?_set_ne (Ne.symm same)] using marking
    · refine Or.inr ⟨index, ?_⟩
      rw [← marking]
      exact List.getElem?_set_self bound

/-- An entering call stands outside every window. -/
theorem window_of_entering (initial : program.initial call = true) : call.window = .outside := by
  cases call <;> first | rfl | cases initial

/-- Separate calls stay consistent. -/
theorem consistent_move
    (config : Calls)
    (move : Move Call Answer)
    (next : Calls)
    (consistent : Consistent config)
    (separate : Separate config move)
    (moved : program.move config move = some next) : Consistent next := by
  refine ⟨?_, countsUploads_move consistent.uploads moved, removalAnswered_move consistent moved⟩
  refine program.annotated_move (fun config move => Separate config move ∧ CountsUploads config)
    (fun _ _ => Window.compatible_symm _ _) ?_ ?_
    config move next consistent.windows ⟨separate, consistent.uploads⟩ moved
  · intro config call _ initial _
    have outside := window_of_entering initial
    exact ⟨fun _ => AtWindow.outside outside, fun _ _ _ => Beside.outside outside⟩
  · rintro config index answer call shared' call' annotated ⟨separate, counts⟩ present taken
    have transit := step_transit taken
    have holds := annotated.thread index call present
    refine ⟨trivial, transit.atWindow holds, ?_⟩
    intro other otherCall different otherPresent
    refine transit.beside holds (annotated.thread other otherCall otherPresent)
      (annotated.pair index other call otherCall (Ne.symm different) present otherPresent) ?_
      (separate call present otherCall (List.mem_of_getElem? otherPresent))
    intro idle uploading
    unfold CountsUploads at counts
    rw [idle, eq_comm, List.countP_eq_zero] at counts
    exact counts otherCall (List.mem_of_getElem? otherPresent) (by simp [uploading])

theorem consistent_started : Consistent started where
  windows := Program.annotated_of_idle AtWindow Beside trivial
  uploads := rfl
  removal := nofun

/-- One part of a run: committed stays committed, aborted stays aborted, and at
its end the directory of a committed intake is one no abort has removed. -/
def TerminalFrom (middle final : Calls) : Prop :=
  (middle.shared.state = .committed → final.shared.state = .committed) ∧
    (middle.shared.state = .aborted → final.shared.state = .aborted) ∧
    (final.shared.state = .committed → final.shared.removedByAbort = false)

/-- Committed and aborted are terminal in every interleaving. -/
def TerminalLaw : Prop :=
  ∀ first second middle final,
    run program.move started first = some middle →
      run program.move middle second = some final → TerminalFrom middle final

/-- A commit of the only file of the intake. -/
def oneFileRequest : CommitRequest := ⟨[⟨"A001.mov", "5ac1", 7⟩], "c0de"⟩

/-- The only file of the intake arrives in full. -/
def oneFileUpload : List (Move Call Answer) :=
  [.spawn (.upload "A001.mov"), .act 0 .proceed, .act 0 (.received "5ac1" 7), .act 0 .proceed]

/-- A commit runs from its first line to its last transaction. -/
def wholeCommit (index : Nat) : List (Move Call Answer) := List.replicate 5 (.act index .proceed)

/-- An abort checks the status of a streaming intake, which is then committed. -/
def overlappingAbort : List (Move Call Answer) :=
  oneFileUpload ++
    [.spawn .abort, .act 1 .proceed, .spawn (.commit oneFileRequest)] ++
    wholeCommit 2

/-- The abort goes on, removes the directory and marks the committed intake as
aborted. -/
theorem not_terminalLaw : ¬ TerminalLaw := by
  intro law
  have committed : (run program.move started overlappingAbort).map
        (fun config => config.shared.state) = some .committed := by
    decide +kernel
  have aborted : ((run program.move started overlappingAbort).bind fun config =>
        run program.move config [.act 1 .proceed, .act 1 .proceed]).map
        (fun config => config.shared.state) = some .aborted := by
    decide +kernel
  obtain ⟨middle, reached, atMiddle⟩ := map_eq_some_iff.mp committed
  rw [reached] at aborted
  obtain ⟨final, continued, atFinal⟩ := map_eq_some_iff.mp aborted
  have stays := (law _ _ _ _ reached continued).1 atMiddle
  rw [atFinal] at stays
  cases stays

/-- In every run whose aborts and orphan reconciliations stay outside the
commits, committed and aborted are terminal and no abort removes the directory
of a committed intake. -/
theorem terminal_of_separate
    {first second : List (Move Call Answer)}
    {middle final : Calls}
    (reached : run program.move started first = some middle)
    (continued : run program.move middle second = some final)
    (separate : Transition.Admits program.move Separate started (first ++ second)) :
    TerminalFrom middle final := by
  obtain ⟨separateFirst, separateSecond⟩ := Transition.Admits.append program.move separate
  have middleConsistent : Consistent middle :=
    invariant_of_admits program.move Consistent consistent_move
      consistent_started separateFirst reached
  have laterSeparate := separateSecond middle reached
  have stays (state : GrpcIntakeState) (terminal : state = .committed ∨ state = .aborted)
      (holds : middle.shared.state = state) :
      final.shared.state = state := by
    refine (invariant_of_admits program.move
      (fun config => Consistent config ∧ config.shared.state = state) ?_
      ⟨middleConsistent, holds⟩ laterSeparate continued).2
    rintro config move next ⟨consistent, here⟩ allowed moved
    refine ⟨consistent_move config move next consistent allowed moved, ?_⟩
    cases move with
    | spawn call =>
      obtain ⟨_, rfl⟩ := program.move_spawn_eq_some moved
      exact here
    | act index answer =>
      obtain ⟨call, shared', call', present, taken, rfl⟩ := program.move_act_eq_some moved
      have stays := (step_transit taken).terminal (consistent.windows.thread index call present)
      rcases terminal with rfl | rfl
      · exact stays.1 here
      · exact stays.2 here
  have finalConsistent : Consistent final :=
    invariant_of_admits program.move Consistent consistent_move
      middleConsistent laterSeparate continued
  refine ⟨stays .committed (Or.inl rfl), stays .aborted (Or.inr rfl), fun committed => ?_⟩
  by_contra removed
  rcases finalConsistent.removal (by simpa using removed) with aborted | ⟨index, marking⟩
  · rw [committed] at aborted
    cases aborted
  · exact (finalConsistent.windows.thread index .abortMark marking).2 rfl committed

/-- An upload, its commit, and an abort that comes too late. -/
theorem terminal_of_separate_commit : ∃ middle final, run program.move started
        (oneFileUpload ++ [.spawn (.commit oneFileRequest)] ++ wholeCommit 1) = some middle ∧
      run program.move middle [.spawn .abort, .act 2 .proceed] = some final ∧
      middle.shared.state = .committed ∧ TerminalFrom middle final := by
  have committed : (run program.move started
        (oneFileUpload ++ [.spawn (.commit oneFileRequest)] ++ wholeCommit 1)).map
          (fun config => config.shared.state) = some .committed := by
    decide +kernel
  have ends : ((run program.move started
        (oneFileUpload ++ [.spawn (.commit oneFileRequest)] ++ wholeCommit 1)).bind fun config =>
            run program.move config [.spawn .abort, .act 2 .proceed]).isSome := by decide +kernel
  obtain ⟨middle, reached, atMiddle⟩ := map_eq_some_iff.mp committed
  rw [reached] at ends
  obtain ⟨final, continued⟩ := isSome_iff_exists.mp ends
  exact ⟨middle, final, reached, continued, atMiddle,
    terminal_of_separate reached continued (by decide +kernel)⟩

/-- In every interleaving the upload counter is the number of uploads under way. -/
theorem countsUploads_of_run (ended : run program.move started moves = some final) :
    CountsUploads final :=
  invariant_of_run program.move CountsUploads (fun _ _ _ => countsUploads_move) (by rfl) ended

/-- A run that stops inside an upload. -/
theorem countsUploads_of_run_upload : ∃ final,
    run program.move started (oneFileUpload.take 3) = some final ∧
      final.shared.inFlight = 1 ∧ CountsUploads final :=
  ⟨_, rfl, rfl, countsUploads_of_run (rfl : run program.move started (oneFileUpload.take 3) = _)⟩

end Intake
end Sutradhara
