import Mathlib.Data.List.Basic

/-!
# Deterministic transition functions and their runs

A system is a partial step function from a state and an action.  All
nondeterminism of a system, such as scheduling and the answers of its
environment, sits in the actions.  A run is a list of actions.  Statements about
every run quantify over such lists.
-/

namespace Foundation
namespace Transition

variable {State Action : Type*}

/-- Execute a list of actions from left to right. -/
def run (step : State → Action → Option State) : State → List Action → Option State
  | state, [] => some state
  | state, action :: rest => (step state action).bind fun next => run step next rest

variable (step : State → Action → Option State)

@[simp] theorem run_nil (state : State) : run step state [] = some state := rfl

@[simp] theorem run_cons (state : State) (action : Action) (rest : List Action) :
    run step state (action :: rest) = (step state action).bind fun next => run step next rest := rfl

theorem run_append (state : State) (first second : List Action) :
    run step state (first ++ second) =
      (run step state first).bind fun middle => run step middle second := by
  induction first generalizing state with
  | nil => rfl
  | cons action rest ih =>
    cases taken : step state action with
    | none => simp [taken]
    | some next => simp [taken, ih]

theorem run_of_step
    {state next final : State}
    {action : Action}
    {rest : List Action}
    (taken : step state action = some next)
    (later : run step next rest = some final) :
    run step state (action :: rest) = some final := by
  rw [run_cons, taken]
  exact later

/-- Every action of a list is permitted in the state in which it is taken. -/
def Admits (permitted : State → Action → Prop) : State → List Action → Prop
  | _, [] => True
  | state, action :: rest =>
    permitted state action ∧ ∀ next, step state action = some next → Admits permitted next rest

@[simp] theorem admits_nil : Admits step permitted state [] := trivial

theorem admits_of_step
    {permitted : State → Action → Prop}
    {state next : State}
    {action : Action}
    {rest : List Action}
    (allowed : permitted state action)
    (taken : step state action = some next)
    (later : Admits step permitted next rest) :
    Admits step permitted state (action :: rest) := by
  refine ⟨allowed, fun other stepped => ?_⟩
  rw [Option.some.inj (stepped.symm.trans taken)]
  exact later

/-- The permission of a concrete run can be evaluated. -/
instance decidableAdmits (permitted : State → Action → Prop)
    [∀ state action, Decidable (permitted state action)] :
    ∀ state actions, Decidable (Admits step permitted state actions)
  | _, [] => isTrue trivial
  | state, action :: rest =>
    match taken : step state action with
    | none =>
      decidable_of_iff (permitted state action) ⟨fun allowed => ⟨allowed, fun _ impossible => by
          rw [taken] at impossible
          cases impossible⟩, fun admitted => admitted.1⟩
    | some next =>
      have := decidableAdmits permitted next rest
      decidable_of_iff
        (permitted state action ∧ Admits step permitted next rest)
        ⟨fun both => ⟨both.1, fun other found => by
          rw [taken, Option.some.injEq] at found
          exact found ▸ both.2⟩,
          fun admitted => ⟨admitted.1, admitted.2 next taken⟩⟩

/-- The permission of a whole run passes to each of its two parts. -/
theorem Admits.append
    {permitted : State → Action → Prop}
    {start : State}
    {first second : List Action}
    (admitted : Admits step permitted start (first ++ second)) :
    Admits step permitted start first ∧ ∀ middle, run step start first = some middle →
        Admits step permitted middle second := by
  induction first generalizing start with
  | nil =>
    refine ⟨trivial, ?_⟩
    intro middle ended
    cases ended
    exact admitted
  | cons action rest ih =>
    obtain ⟨permittedHere, permittedLater⟩ := admitted
    refine ⟨⟨permittedHere, fun next taken => (ih (permittedLater next taken)).1⟩, ?_⟩
    intro middle ended
    rw [run_cons, Option.bind_eq_some_iff] at ended
    obtain ⟨next, taken, later⟩ := ended
    exact (ih (permittedLater next taken)).2 middle later

/-- Two permitted runs make a permitted run. -/
theorem admits_append
    {permitted : State → Action → Prop}
    {start : State}
    {first second : List Action}
    (admitted : Admits step permitted start first)
    (later : ∀ middle, run step start first = some middle → Admits step permitted middle second) :
    Admits step permitted start (first ++ second) := by
  induction first generalizing start with
  | nil => exact later start rfl
  | cons action rest ih =>
    refine ⟨admitted.1, fun next taken => ?_⟩
    refine ih (admitted.2 next taken) fun middle ended => ?_
    exact later middle (run_of_step step taken ended)

/-- A property kept by every permitted step holds at the end of every run whose
steps are all permitted. -/
theorem invariant_of_admits
    {permitted : State → Action → Prop}
    (Invariant : State → Prop)
    (preserved : ∀ state action next, Invariant state → permitted state action →
        step state action = some next → Invariant next)
    {start final : State}
    {actions : List Action}
    (holds : Invariant start)
    (admitted : Admits step permitted start actions)
    (ended : run step start actions = some final) : Invariant final := by
  induction actions generalizing start with
  | nil =>
    cases ended
    exact holds
  | cons action rest ih =>
    rw [run_cons, Option.bind_eq_some_iff] at ended
    obtain ⟨next, taken, later⟩ := ended
    exact ih (preserved start action next holds admitted.1 taken) (admitted.2 next taken) later

/-- A property kept by every step holds at the end of every run. -/
theorem invariant_of_run
    (Invariant : State → Prop)
    (preserved : ∀ state action next,
      Invariant state → step state action = some next → Invariant next)
    {start final : State}
    {actions : List Action}
    (holds : Invariant start)
    (ended : run step start actions = some final) : Invariant final := by
  induction actions generalizing start with
  | nil =>
    cases ended
    exact holds
  | cons action rest ih =>
    rw [run_cons, Option.bind_eq_some_iff] at ended
    obtain ⟨next, taken, later⟩ := ended
    exact ih (preserved start action next holds taken) later

end Transition
end Foundation
