import Mathlib.Algebra.Group.Int.Defs
import Mathlib.Data.List.Sort
import Sutradhara.Foundation.Table

/-!
# Reconciliation conditions

A condition row summarises what was last observed of a target and how the latest
attempts on it ended.  Observations create rows, attempt outcomes only change
them, and an operator or a new tool version reopens a blocked row.  Times are
integers in microseconds.
-/

namespace Sutradhara
namespace Reconcile

open Foundation

/-- The attempt axis of a condition row. -/
inductive Condition
  | opened
  | backoff
  | blocked
  | suppressed
  | satisfied
  deriving DecidableEq

/-- `HELD_CONDITIONS`. -/
def Condition.held : Condition → Bool
  | .backoff | .blocked | .suppressed => true
  | .opened | .satisfied => false

/-- `WORKABLE_CONDITIONS`. -/
def Condition.workable : Condition → Bool
  | .opened | .backoff => true
  | .blocked | .suppressed | .satisfied => false

/-- `OBSERVED_PRESENT`. -/
def observedPresent : String := "present"

/-- `DEFAULT_BACKOFF_GIVE_UP_ATTEMPTS`. -/
def defaultBackoffGiveUpAttempts : Nat := 3

/-- A second. -/
def second : Int := 1000000

/-- The domain and the target of a condition. -/
structure Key where
  domain : String
  target : String
  deriving DecidableEq

/-- A row of the condition table with its component snapshot. -/
structure Row where
  key : Key
  observedState : String
  condition : Condition
  reason : Option String
  message : Option String
  attemptCount : Nat
  nextEligibleAt : Option Int
  blockedToolName : Option String
  blockedToolVersion : Option String
  lastAttemptId : Option Nat
  lastAttemptAt : Option Int
  lastSuccessAt : Option Int
  updatedAt : Int
  components : List String

/-- The condition table. -/
abbrev Store := Table Row.key

/-! ## Observations -/

/-- What a reconciler sees of a target. -/
structure Observation where
  key : Key
  desired : Bool
  observedState : String
  reason : Option String
  message : Option String

section

variable (observation : Observation) (now : Int) (row : Row)

/-- The target is present or no longer desired. -/
def Observation.settles : Bool :=
  !observation.desired || observation.observedState = observedPresent

/-- `_mark_satisfied`. -/
def markSatisfied (observedState : String) (now : Int) (row : Row) : Row :=
  { row with
    observedState := observedState
    condition := .satisfied
    reason := none
    message := none
    attemptCount := 0
    nextEligibleAt := none
    blockedToolName := none
    blockedToolVersion := none
    updatedAt := now }

/-- What `record_observation` makes of the row of its target. -/
def observeRow : Row :=
  if !observation.desired then markSatisfied observation.observedState now row
  else if observation.observedState = observedPresent then
    if row.condition = .suppressed then
      { row with observedState := observation.observedState, updatedAt := now }
    else markSatisfied observation.observedState now row
  else if row.condition.held then row
  else
    { row with
      observedState := observation.observedState
      condition := .opened
      reason := observation.reason
      message := observation.message
      nextEligibleAt := some (row.nextEligibleAt.getD now)
      updatedAt := now }

/-- An observation keeps the key of its row. -/
theorem key_observeRow : (observeRow observation now row).key = row.key := by
  unfold observeRow
  split_ifs <;> rfl

/-- The row that an observation creates. -/
def freshRow : Row where
  key := observation.key
  observedState := observation.observedState
  condition := .satisfied
  reason := none
  message := none
  attemptCount := 0
  nextEligibleAt := none
  blockedToolName := none
  blockedToolVersion := none
  lastAttemptId := none
  lastAttemptAt := none
  lastSuccessAt := none
  updatedAt := now
  components := []

end

/-- `record_observation`, the only writer that creates rows. -/
def recordObservation (store : Store) (observation : Observation) (now : Int) : Store :=
  match found : store.find? observation.key with
  | some _ => store.update observation.key
      ⟨observeRow observation now, key_observeRow observation now⟩
  | none => store.insert (observeRow observation now (freshRow observation now))
      (by rw [key_observeRow]; exact found)

/-! ## Attempt outcomes -/

/-- A recorded job attempt. -/
structure Attempt where
  id : Nat
  succeeded : Bool
  finishedAt : Option Int
  components : List String

/-- The arguments of `record_condition`. -/
structure Outcome where
  key : Key
  condition : Option Condition
  reason : Option String
  message : Option String
  attempt : Option Attempt
  nextEligibleAt : Option Int
  blockedTool : Option (String × String)
  autoBlock : Bool

/-- What `record_condition` raises. -/
inductive Failure
  | missingRow (key : Key)
  | notAttemptAxis (condition : Condition)

section

variable (wasBlocked : Bool) (attempt : Option Attempt) (version : String → String)
  (uniform : Int → Int → Int) (store : Store) (domain printed : String) (outcome : Outcome)
  (now : Int) (row : Row)

/-- `_link_attempt`. -/
def linkAttempt : Row :=
  match attempt with
  | none => row
  | some attempt =>
    { row with
      lastAttemptId := some attempt.id
      lastAttemptAt := some (attempt.finishedAt.getD now) }

/-- `_set_blocked_tool`. -/
def setBlockedTool (blockedTool : Option (String × String)) (row : Row) : Row :=
  { row with
    blockedToolName := blockedTool.map Prod.fst
    blockedToolVersion := blockedTool.map Prod.snd }

/-- `_snapshot_blocked_components`, made when a row becomes blocked. -/
def snapshotBlockedComponents : Row :=
  if wasBlocked then row
  else
    { row with
      components := match attempt with
        | none => []
        | some attempt => (attempt.components.filter (· ≠ "")).dedup.insertionSort (· ≤ ·) }

/-- `_default_backoff_due`: the delay doubles with every attempt, is drawn up to
a fifth around its mean, and stays below an hour. -/
def defaultBackoffDue (attemptCount : Nat) : Int :=
  let base := 60 * second * 2 ^ (attemptCount - 1)
  let lower := base * 8 / 10
  let upper := min (base * 12 / 10) (3600 * second)
  now + if upper < lower then 3600 * second else uniform lower upper

/-- The outcome `backoff`: the third attempt in a row gives up, if it may. -/
def recordBackoff : Row :=
  let counted := { row with attemptCount := row.attemptCount + 1 }
  let recorded :=
    if outcome.autoBlock && defaultBackoffGiveUpAttempts ≤ counted.attemptCount then
      snapshotBlockedComponents (row.condition = .blocked) outcome.attempt
        { counted with
          condition := .blocked
          reason := some ((outcome.reason.filter (· ≠ "")).getD "give-up")
          message := outcome.message
          nextEligibleAt := none }
    else
      { counted with
        condition := .backoff
        reason := outcome.reason
        message := outcome.message
        nextEligibleAt := some (outcome.nextEligibleAt.getD
          (defaultBackoffDue uniform now counted.attemptCount)) }
  { setBlockedTool outcome.blockedTool recorded with updatedAt := now }

/-- The outcome `blocked`. -/
def recordBlocked : Row :=
  { snapshotBlockedComponents (row.condition = .blocked) outcome.attempt
      (setBlockedTool outcome.blockedTool
        { row with
          condition := .blocked
          reason := outcome.reason
          message := outcome.message
          nextEligibleAt := none }) with
    updatedAt := now }

/-- The outcome of an attempt that says nothing about the condition. -/
def recordAttempt : Row :=
  { row with
    lastSuccessAt := match outcome.attempt with
      | some attempt => if attempt.succeeded then attempt.finishedAt else row.lastSuccessAt
      | none => row.lastSuccessAt
    updatedAt := now }

/-- What `record_condition` makes of the row of its target.  The condition is
`backoff`, `blocked` or none. -/
def outcomeRow : Row :=
  let linked := linkAttempt outcome.attempt now row
  match outcome.condition with
  | none => recordAttempt outcome now linked
  | some .backoff => recordBackoff uniform outcome now linked
  | some _ => recordBlocked outcome now linked

theorem key_linkAttempt : (linkAttempt attempt now row).key = row.key := by
  cases attempt <;> rfl

theorem key_snapshotBlockedComponents :
    (snapshotBlockedComponents wasBlocked attempt row).key = row.key := by
  cases wasBlocked <;> rfl

/-- The outcome `backoff` keeps the key of its row. -/
theorem key_recordBackoff : (recordBackoff uniform outcome now row).key = row.key := by
  simp only [recordBackoff]
  split_ifs
  · exact key_snapshotBlockedComponents _ _ _
  · rfl

/-- The outcome of an attempt keeps the key of its row. -/
theorem key_outcomeRow : (outcomeRow uniform outcome now row).key = row.key := by
  rw [← key_linkAttempt outcome.attempt now row]
  simp only [outcomeRow]
  split
  · rfl
  · exact key_recordBackoff _ _ _ _
  · exact key_snapshotBlockedComponents _ _ _

/-- `record_condition`, which never creates a row. -/
def recordCondition : Except Failure Store :=
  match store.find? outcome.key, outcome.condition with
  | none, _ => .error (.missingRow outcome.key)
  | some _, none | some _, some .backoff | some _, some .blocked =>
    .ok (store.update outcome.key
      ⟨outcomeRow uniform outcome now, key_outcomeRow uniform outcome now⟩)
  | some _, some condition => .error (.notAttemptAxis condition)

/-! ## Reopening -/

/-- `reopen_condition`.  The message text carries the time as it is printed. -/
def reopenRow (message : String) (now : Int) (row : Row) : Row :=
  { row with
    condition := .opened
    reason := none
    message := some message
    blockedToolName := none
    blockedToolVersion := none
    attemptCount := 0
    nextEligibleAt := some now
    updatedAt := now }

/-- The message of `reopen_condition`. -/
def reopenMessage (actor note printed : String) (row : Row) : String :=
  "reopened by " ++ actor ++ " at " ++ printed ++ " (was blocked: " ++
    (row.reason.filter (· ≠ "")).getD "unspecified" ++ "); " ++ note

/-- `reopen_condition` of one target. -/
def reopenCondition (key : Key) (actor note printed : String) (now : Int) : Store :=
  store.update key
    ⟨fun row => reopenRow (reopenMessage actor note printed row) now row, fun _ => rfl⟩

/-- The tool that blocked a row has a known version other than the recorded
one. -/
def toolChanged : Bool :=
  match row.blockedToolName with
  | none => false
  | some tool => version tool ≠ "unknown" && some (version tool) ≠ row.blockedToolVersion

/-- The rows that `reopen_version_bumped` reopens. -/
def bumped : Bool :=
  row.key.domain = domain && row.condition = .blocked && toolChanged version row

/-- The note of `reopen_version_bumped`. -/
def bumpNote : String :=
  let tool := row.blockedToolName.getD ""
  tool ++ " version changed from " ++
    (row.blockedToolVersion.filter (· ≠ "")).getD "unknown" ++ " to " ++
    version tool

/-- What `reopen_version_bumped` makes of a row. -/
def bumpRow : Row :=
  if bumped version domain row then
    reopenRow (reopenMessage "version-bump" (bumpNote version row) printed row) now row
  else row

/-- A changed tool keeps the key of the row it reopens. -/
theorem key_bumpRow : (bumpRow version domain printed now row).key = row.key := by
  unfold bumpRow
  split_ifs <;> rfl

/-- `reopen_version_bumped`. -/
def reopenVersionBumped : Store :=
  (store.rows.map Row.key).foldl
    (fun store key => store.update key
      ⟨bumpRow version domain printed now, key_bumpRow version domain printed now⟩)
    store

end

/-! ## The spine -/

/-- What `classify_condition` writes. -/
inductive Alarm
  /-- `_record_blocked_alarm` of a bundle. -/
  | blocks (reason message : String)
  /-- `_classify_from_result` of an unhealthy log pipeline. -/
  | opens (reason message : Option String)

/-- A registered reconciler: what it observes of a target, which alarm it raises,
and whether a job on the target is still live. -/
structure Reconciler where
  observe : String → Bool × String
  alarm : String → Option Alarm
  liveJob : String → Bool

variable (row : Row) (uniform : Int → Int → Int) (reconciler : Reconciler) (store : Store)
  (domain : String) (limit : Nat) (now : Int)

/-- An observation followed by the alarm of its reconciler. -/
def classify (observation : Observation) (now : Int) : Store :=
  let observed := recordObservation store observation now
  match reconciler.alarm observation.key.target with
  | none => observed
  | some (.opens reason message) =>
    observed.update observation.key ⟨fun row =>
      { row with condition := .opened, reason := reason, message := message }, fun _ => rfl⟩
  | some (.blocks reason message) =>
    ((recordCondition uniform observed
      ⟨observation.key, some .blocked, some reason, some message, none, none,
        none, true⟩ now).toOption).getD observed

/-- The observation of a reconciler. -/
def Reconciler.observation (key : Key) : Observation :=
  ⟨key, (reconciler.observe key.target).1, (reconciler.observe key.target).2, none, none⟩

/-- `discover` over the targets that a reconciler enumerates. -/
def discover (targets : List String) (now : Int) : Store :=
  targets.foldl
    (fun store target => classify uniform reconciler store
      (reconciler.observation ⟨domain, target⟩) now)
    store

/-- A row that `due_workable` returns. -/
def Row.due : Bool :=
  row.key.domain = domain && row.condition.workable && row.nextEligibleAt.any (· ≤ now)

/-- `due_workable`: the due rows by the time they became eligible. -/
def dueWorkable : List Key :=
  (((store.rows.filter fun row => row.due domain now).insertionSort
    fun first next => first.nextEligibleAt.getD now ≤
      next.nextEligibleAt.getD now).take limit).map Row.key

/-- `gate_open`. -/
def gateOpen (desired : Bool) (now : Int) (row : Row) : Bool :=
  desired && row.condition.workable && row.nextEligibleAt.any (· ≤ now) &&
    !reconciler.liveJob row.key.target

/-- One round of `process` on the table and the targets enqueued so far. -/
def processRound (state : Store × List Key) (key : Key) : Store × List Key :=
  let observation := reconciler.observation key
  let refreshed := classify uniform reconciler state.1 observation now
  (refreshed,
    if (refreshed.find? key).any (gateOpen reconciler observation.desired now)
    then state.2 ++ [key] else state.2)

/-- `process`: the table it leaves and the targets it enqueues. -/
def process : Store × List Key :=
  (dueWorkable store domain limit now).foldl (processRound uniform reconciler now) (store, [])

end Reconcile
end Sutradhara
