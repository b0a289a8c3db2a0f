import Sutradhara.Foundation.Transition
import Sutradhara.Reconcile.Conditions

/-!
# Blocked conditions

A blocked condition is meant to stay blocked until its target is seen present or
undesired, an operator reopens it, or the tool that blocked it has changed.  The
outcome `backoff` does not look at the condition it overwrites: below the give-up
count, or when it may not block, it moves a blocked row back to backoff.  Nor does
the reconciler of the log pipeline look at it when its probe fails: it opens the row.
Runs in which neither happens to a blocked row keep it blocked.
-/

namespace Sutradhara
namespace Reconcile

open Foundation Option Transition

/-! ## Blocked rows -/

/-- The condition of a target is blocked. -/
def Blocked (store : Store) (key : Key) : Prop :=
  (store.find? key).any (fun row => row.condition = .blocked) = true

instance (store : Store) (key : Key) : Decidable (Blocked store key) :=
  inferInstanceAs (Decidable (_ = true))

/-- A blocked target has a row, whose condition is blocked. -/
theorem blocked_iff : Blocked store key ↔
      ∃ row, store.find? key = some row ∧ row.condition = .blocked := by
  simp [Blocked, any_eq_true_iff_get, isSome_iff_exists]
  constructor
  · rintro ⟨⟨row, found⟩, blocked⟩
    exact ⟨row, found, by simpa [found] using blocked⟩
  · rintro ⟨row, found, blocked⟩
    exact ⟨⟨row, found⟩, by simpa [found] using blocked⟩

/-- A rewrite that keeps the row of a target blocked keeps the target blocked,
whichever row it is applied to. -/
theorem Blocked.update
    (blocked : Blocked store key)
    (changed : Key)
    (change : Rewrite Row.key)
    (kept : ∀ row, store.find? key = some row → row.condition = .blocked →
      key = changed → (change.apply row).condition = .blocked) :
    Blocked (store.update changed change) key := by
  obtain ⟨row, found, isBlocked⟩ := blocked_iff.mp blocked
  rw [blocked_iff]
  by_cases same : key = changed
  · refine ⟨change.apply row, ?_, kept row found isBlocked same⟩
    rw [← same, Table.find?_update_self, found, map_some]
  · exact ⟨row, by rw [Table.find?_update_of_ne _ _ same]; exact found, isBlocked⟩

/-- The row of a new target leaves a blocked one alone. -/
theorem Blocked.insert
    (blocked : Blocked store key)
    (row : Row)
    (absent : store.find? row.key = none) : Blocked (store.insert row absent) key := by
  obtain ⟨old, found, isBlocked⟩ := blocked_iff.mp blocked
  have different : key ≠ row.key := by
    rintro rfl
    rw [absent] at found
    cases found
  rw [blocked_iff]
  exact ⟨old, by rw [Table.find?_insert_of_ne _ _ _ different]; exact found, isBlocked⟩

/-! ## What each operation keeps -/

variable {now : Int}

/-- An observation that settles nothing keeps a blocked target. -/
theorem Blocked.recordObservation
    (blocked : Blocked store key)
    (observation : Observation)
    (now : Int)
    (unsettled : observation.key = key → observation.settles = false) :
    Blocked (recordObservation store observation now) key := by
  unfold Reconcile.recordObservation
  split
  · refine blocked.update _ _ ?_
    intro row _ isBlocked same
    have settled := unsettled same.symm
    simp only [Observation.settles, Bool.or_eq_false_iff, decide_eq_false_iff_not] at settled
    simp [observeRow, settled.1, settled.2, isBlocked, Condition.held]
  · exact blocked.insert _ _

/-- A backoff that gives up, or an outcome other than backoff. -/
def Outcome.keepsBlocked (outcome : Outcome) (row : Row) : Bool :=
  outcome.condition ≠ some .backoff ||
    (outcome.autoBlock && defaultBackoffGiveUpAttempts ≤ row.attemptCount + 1)

variable {attempt : Option Attempt} {row : Row}

theorem condition_linkAttempt : (linkAttempt attempt now row).condition = row.condition := by
  cases attempt <;> rfl

theorem attemptCount_linkAttempt :
    (linkAttempt attempt now row).attemptCount = row.attemptCount := by
  cases attempt <;> rfl

theorem condition_snapshotBlockedComponents :
    (snapshotBlockedComponents wasBlocked attempt row).condition = row.condition := by
  cases wasBlocked <;> rfl

/-- The outcome `backoff` keeps a blocked row if it gives up, any other one always. -/
theorem condition_outcomeRow
    (blocked : row.condition = .blocked)
    (keeps : outcome.keepsBlocked row = true) :
    (outcomeRow uniform outcome now row).condition = .blocked := by
  unfold outcomeRow
  split
  · exact (condition_linkAttempt).trans blocked
  next isBackoff =>
    simp only [Outcome.keepsBlocked, isBackoff, ne_eq, not_true_eq_false,
      decide_false, Bool.false_or] at keeps
    simp only [recordBackoff, setBlockedTool, attemptCount_linkAttempt,
      if_pos keeps, condition_snapshotBlockedComponents]
  · simp only [recordBlocked, setBlockedTool, condition_snapshotBlockedComponents]

theorem Blocked.recordCondition
    (blocked : Blocked store key)
    (keeps : ∀ row, store.find? key = some row → outcome.key = key →
      row.condition = .blocked → outcome.keepsBlocked row = true)
    (recorded : recordCondition uniform store outcome now = .ok next) : Blocked next key := by
  have updated : next = store.update outcome.key
      ⟨outcomeRow uniform outcome now, key_outcomeRow uniform outcome now⟩ := by
    unfold Reconcile.recordCondition at recorded
    split at recorded <;> cases recorded <;> rfl
  rw [updated]
  refine blocked.update _ _ ?_
  intro row found isBlocked same
  exact condition_outcomeRow isBlocked (keeps row found same.symm isBlocked)

theorem Blocked.reopenCondition
    (blocked : Blocked store key)
    (different : key ≠ reopened)
    (actor note printed : String)
    (now : Int) :
    Blocked (reopenCondition store reopened actor note printed now) key := by
  refine blocked.update _ _ ?_
  intro row _ _ same
  exact absurd same different

/-- The tool that blocked the target has changed. -/
def ToolChanged (version : String → String) (store : Store) (key : Key) : Prop :=
  (store.find? key).any (toolChanged version) = true

instance (version : String → String) (store : Store) (key : Key) :
    Decidable (ToolChanged version store key) :=
  inferInstanceAs (Decidable (_ = true))

/-- A target whose tool has not changed is not reopened. -/
theorem Blocked.reopenVersionBumped
    (blocked : Blocked store key)
    (unchanged : key.domain = domain → ¬ToolChanged version store key)
    (printed : String)
    (now : Int) : Blocked (reopenVersionBumped version store domain printed now) key := by
  obtain ⟨row, found, isBlocked⟩ := blocked_iff.mp blocked
  have rowKey : row.key = key := ((Table.find?_eq_some_iff store key row).mp found).2
  have kept : bumped version domain row = false := by
    by_contra changed
    simp only [bumped, Bool.not_eq_false, Bool.and_eq_true, decide_eq_true_eq, rowKey] at changed
    refine unchanged changed.1.1 ?_
    rw [ToolChanged, found]
    exact changed.2
  refine blocked_iff.mpr ⟨row, ?_, isBlocked⟩
  -- Passing over a row whose tool has not changed leaves it as it is.
  refine List.foldlRecOn (motive := fun store : Store => store.find? key = some row) _ _ found
    fun store found next _ => ?_
  by_cases same : key = next
  · rw [← same, Table.find?_update_self, found]
    simp [bumpRow, kept]
  · rwa [Table.find?_update_of_ne _ _ same]

/-- The reconciler opens the row of the target. -/
def Reconciler.opens (reconciler : Reconciler) (target : String) : Bool :=
  match reconciler.alarm target with
  | some (.opens _ _) => true
  | _ => false

/-- An observation that does not settle the target, and an alarm that does not open it. -/
theorem Blocked.classify
    (blocked : Blocked store key)
    (uniform : Int → Int → Int)
    (reconciler : Reconciler)
    (observation : Observation)
    (now : Int)
    (unsettled : observation.key = key →
      observation.settles = false ∧ reconciler.opens key.target = false) :
    Blocked (classify uniform reconciler store observation now) key := by
  have observed := blocked.recordObservation observation now fun same => (unsettled same).1
  simp only [Reconcile.classify]
  split
  · exact observed
  next reason message opens =>
    refine observed.update _ _ fun row _ _ same => ?_
    have closed := (unsettled same.symm).2
    rw [Reconciler.opens, same, opens] at closed
    cases closed
  next reason message _ =>
    cases recorded : Reconcile.recordCondition uniform
        (Reconcile.recordObservation store observation now)
        ⟨observation.key, some .blocked, some reason, some message, none, none,
          none, true⟩ now with
    | error _ => exact observed
    | ok next => exact observed.recordCondition (fun _ _ _ _ => rfl) recorded

/-- A pass that settles and opens nothing keeps a blocked target. -/
theorem Blocked.discover
    (blocked : Blocked store key)
    (uniform : Int → Int → Int)
    (reconciler : Reconciler)
    (domain : String)
    (targets : List String)
    (now : Int)
    (unsettled : ∀ target ∈ targets, ⟨domain, target⟩ = key →
      (reconciler.observation key).settles = false ∧ reconciler.opens key.target = false) :
    Blocked (discover uniform reconciler store domain targets now) key := by
  induction targets generalizing store with
  | nil => exact blocked
  | cons target rest ih =>
    refine ih (blocked.classify uniform reconciler _ now ?_) ?_
    · intro same
      have equal : (⟨domain, target⟩ : Key) = key := same
      rw [equal]
      exact unsettled target List.mem_cons_self equal
    · intro other member
      exact unsettled other (List.mem_cons_of_mem _ member)

/-- A blocked row is never due. -/
theorem not_mem_dueWorkable (blocked : Blocked store key) :
    key ∉ dueWorkable store domain limit now := by
  intro listed
  obtain ⟨row, taken, rowKey⟩ := List.mem_map.mp listed
  have sorted := List.mem_of_mem_take taken
  rw [List.mem_insertionSort, List.mem_filter] at sorted
  obtain ⟨other, found, isBlocked⟩ := blocked_iff.mp blocked
  obtain ⟨otherMember, otherKey⟩ := (Table.find?_eq_some_iff store key other).mp found
  have equal : row = other := store.eq_of_key_eq sorted.1 otherMember (rowKey.trans otherKey.symm)
  have due := sorted.2
  rw [equal, Row.due, isBlocked] at due
  simp [Condition.workable] at due

/-- Rounds on other targets keep a blocked one. -/
theorem Blocked.foldl_processRound
    {key : Key}
    {due : List Key}
    (notDue : key ∉ due)
    (blocked : Blocked state.1 key) :
    Blocked (due.foldl (processRound uniform reconciler now) state).1 key := by
  induction due generalizing state with
  | nil => exact blocked
  | cons target rest ih =>
    rw [List.mem_cons, not_or] at notDue
    refine ih notDue.2 (blocked.classify uniform reconciler _ now ?_)
    intro same
    exact absurd same.symm notDue.1

/-! ## Runs -/

/-- The operations on condition rows. -/
inductive Action
  | observe (observation : Observation) (now : Int)
  | record (uniform : Int → Int → Int) (outcome : Outcome) (now : Int)
  | reopen (key : Key) (actor note printed : String) (now : Int)
  | bump (version : String → String) (domain printed : String) (now : Int)
  | discover (uniform : Int → Int → Int) (reconciler : Reconciler)
      (domain : String) (targets : List String) (now : Int)
  | process (uniform : Int → Int → Int) (reconciler : Reconciler)
      (domain : String) (limit : Nat) (now : Int)

/-- One operation in its own transaction; one that raises leaves nothing. -/
def step (store : Store) : Action → Option Store
  | .observe observation now => some (recordObservation store observation now)
  | .record uniform outcome now =>
    some ((recordCondition uniform store outcome now).toOption.getD store)
  | .reopen key actor note printed now => some (reopenCondition store key actor note printed now)
  | .bump version domain printed now =>
    some (reopenVersionBumped version store domain printed now)
  | .discover uniform reconciler domain targets now =>
    some (discover uniform reconciler store domain targets now)
  | .process uniform reconciler domain limit now =>
    some (process uniform reconciler store domain limit now).1

/-- The operations that may end the blocking of a target: an observation of it as
present or undesired, a reopening, and a version of its tool that has changed. -/
def Frees (key : Key) (store : Store) : Action → Prop
  | .observe observation _ => observation.key = key ∧ observation.settles = true
  | .record _ _ _ => False
  | .reopen reopened _ _ _ _ => key = reopened
  | .bump version domain _ _ => key.domain = domain ∧ ToolChanged version store key
  | .discover _ reconciler domain targets _ =>
    (∃ target ∈ targets, ⟨domain, target⟩ = key) ∧ (reconciler.observation key).settles = true
  | .process _ _ _ _ _ => False

instance (key : Key) (store : Store) :
    (action : Action) → Decidable (Frees key store action)
  | .observe _ _ => inferInstanceAs (Decidable (_ ∧ _))
  | .record _ _ _ => inferInstanceAs (Decidable False)
  | .reopen _ _ _ _ _ => inferInstanceAs (Decidable (_ = _))
  | .bump _ _ _ _ => inferInstanceAs (Decidable (_ ∧ _))
  | .discover _ _ _ _ _ => inferInstanceAs (Decidable (_ ∧ _))
  | .process _ _ _ _ _ => inferInstanceAs (Decidable False)

/-- Blocked is sticky: from any state that a run reaches, a blocked target stays
blocked through every further run in which nothing frees it. -/
def StickyLaw : Prop :=
  ∀ (earlier later : List Action) (middle final : Store) (key : Key),
    run step Table.empty earlier = some middle →
    Blocked middle key →
    Transition.Admits step (fun store action => ¬Frees key store action) middle later →
    run step middle later = some final → Blocked final key

/-- A recorded backoff on the blocked row of a target gives up, and a pass over the
target does not open it. -/
def GivesUp (key : Key) (store : Store) : Action → Prop
  | .record _ outcome _ => outcome.key = key → (store.find? key).all outcome.keepsBlocked = true
  | .discover _ reconciler domain targets _ =>
    (∃ target ∈ targets, ⟨domain, target⟩ = key) → reconciler.opens key.target = false
  | _ => True

instance (key : Key) (store : Store) :
    (action : Action) → Decidable (GivesUp key store action)
  | .record _ _ _ | .discover _ _ _ _ _ => inferInstanceAs (Decidable (_ → _))
  | .observe _ _ | .reopen _ _ _ _ _ | .bump _ _ _ _
  | .process _ _ _ _ _ => inferInstanceAs (Decidable True)

/-- One operation keeps a blocked target blocked. -/
theorem blocked_step
    {key : Key}
    (blocked : Blocked store key)
    (bound : ¬Frees key store action)
    (givesUp : GivesUp key store action)
    (stepped : step store action = some next) :
    Blocked next key := by
  cases action with
  | observe observation now =>
    cases stepped
    refine blocked.recordObservation observation now ?_
    intro same
    exact Bool.eq_false_iff.mpr fun settles => bound ⟨same, settles⟩
  | record uniform outcome now =>
    cases stepped
    cases recorded : recordCondition uniform store outcome now with
    | error _ => exact blocked
    | ok updated =>
      refine blocked.recordCondition ?_ recorded
      intro row found same _
      have all := givesUp same
      rw [found] at all
      exact all
  | reopen reopened actor note printed now =>
    cases stepped
    exact blocked.reopenCondition bound actor note printed now
  | bump version domain printed now =>
    cases stepped
    exact blocked.reopenVersionBumped (fun same changed => bound ⟨same, changed⟩) printed now
  | discover uniform reconciler domain targets now =>
    cases stepped
    refine blocked.discover uniform reconciler domain targets now ?_
    intro target member same
    exact ⟨Bool.eq_false_iff.mpr fun settles => bound ⟨⟨target, member, same⟩, settles⟩,
      givesUp ⟨target, member, same⟩⟩
  | process uniform reconciler domain limit now =>
    cases stepped
    exact Blocked.foldl_processRound (not_mem_dueWorkable blocked) blocked

/-- A blocked target stays blocked as long as nothing frees it, every backoff
recorded on it gives up and no failed probe opens it. -/
theorem blocked_of_givesUp
    (later : List Action)
    (middle final : Store)
    (key : Key)
    (blocked : Blocked middle key)
    (bound : Transition.Admits step (fun store action =>
      ¬Frees key store action ∧ GivesUp key store action) middle later)
    (ended : run step middle later = some final) : Blocked final key := by
  refine invariant_of_admits step (Blocked · key) ?_ blocked bound ended
  intro store action next isBlocked allowed stepped
  exact blocked_step isBlocked allowed.1 allowed.2 stepped

/-- One derivation target. -/
def proxyKey : Key := ⟨"derivation", "7"⟩

/-- The target is observed as missing. -/
def observedMissing : Action := .observe ⟨proxyKey, true, "missing", none, none⟩ 10

/-- An outcome of the target, drawn at the lower end of its delay. -/
def proxyOutcome (condition : Condition) : Action :=
  .record (fun low _ => low) ⟨proxyKey, some condition, none, none, none, none, none, true⟩ 20

/-- A blocked target that backs off once is workable again. -/
theorem not_stickyLaw : ¬StickyLaw := by
  intro law
  have seen : (run step Table.empty [observedMissing, proxyOutcome .blocked]).any (fun middle =>
        decide (Blocked middle proxyKey) &&
        (run step middle [proxyOutcome .backoff]).any
          fun final => !decide (Blocked final proxyKey)) = true := by
    decide +kernel
  obtain ⟨middle, reached, facts⟩ := (any_eq_true _ _).mp seen
  rw [Bool.and_eq_true, decide_eq_true_eq] at facts
  obtain ⟨final, ended, free⟩ := (any_eq_true _ _).mp facts.2
  have stuck := law _ [proxyOutcome .backoff] middle final proxyKey reached
    facts.1 ⟨id, fun _ _ => trivial⟩ ended
  simp [stuck] at free

/-- Three backoffs in a row block a target. -/
def givenUp : List Action :=
  [observedMissing, proxyOutcome .backoff, proxyOutcome .backoff, proxyOutcome .backoff]

/-- A fourth backoff and another look at the missing target leave it blocked. -/
theorem blocked_of_givesUp_repeated :
    ∃ middle final, run step Table.empty givenUp = some middle ∧
      run step middle [proxyOutcome .backoff, observedMissing] = some final ∧
      Blocked final proxyKey := by
  have seen : (run step Table.empty givenUp).any (fun middle =>
      decide (Blocked middle proxyKey) &&
      decide (Transition.Admits step (fun store action =>
        ¬Frees proxyKey store action ∧ GivesUp proxyKey store action) middle
          [proxyOutcome .backoff, observedMissing])) = true := by
    decide +kernel
  obtain ⟨middle, reached, facts⟩ := (any_eq_true _ _).mp seen
  rw [Bool.and_eq_true, decide_eq_true_eq, decide_eq_true_eq] at facts
  exact ⟨middle, _, reached, rfl, blocked_of_givesUp _ middle _ proxyKey facts.1 facts.2 rfl⟩

end Reconcile
end Sutradhara
