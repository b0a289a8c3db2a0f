/-!
# Raising computations with effects that stay

A computation reads a state, leaves a list of effects on it, and returns or
raises.  An exception does not undo the effects before it.  The rules say which
effects a chain of computations may leave and what it may return.
-/

namespace Foundation
namespace Effects

variable {State Effect Error Value Result : Type}

/-- The effects of a computation in their order, and what it returns. -/
def Computation (State Effect Error Value : Type) : Type :=
  State → List Effect × Except Error Value

namespace Computation

/-- Return a value without an effect. -/
def done (value : Value) : Computation State Effect Error Value := fun _ => ([], .ok value)

/-- Raise without an effect. -/
def raise (error : Error) : Computation State Effect Error Value := fun _ => ([], .error error)

/-- Leave one effect. -/
def leave (effect : Effect) : Computation State Effect Error Unit := fun _ => ([effect], .ok ())

/-- Decide by the state how to go on. -/
def reading (next : State → Computation State Effect Error Value) :
    Computation State Effect Error Value :=
  fun state => next state state

/-- Go on with the state that the first computation has left. -/
def chain (apply : State → Effect → State) (first : Computation State Effect Error Value)
    (next : Value → Computation State Effect Error Result) :
    Computation State Effect Error Result :=
  fun state =>
    match first state with
    | (effects, .error error) => (effects, .error error)
    | (effects, .ok value) =>
      let rest := next value (effects.foldl apply state)
      (effects ++ rest.1, rest.2)

/-- Every effect of a computation is of one kind. -/
def Within (kind : Effect → Prop) (computation : Computation State Effect Error Value) : Prop :=
  ∀ state, ∀ effect ∈ (computation state).1, kind effect

/-- Every value that a computation returns has a property. -/
def Returns (property : Value → Prop)
    (computation : Computation State Effect Error Value) : Prop :=
  ∀ state value, (computation state).2 = .ok value → property value

/-- What a computation leaves, seen through a projection, is part of a list in its
order. -/
def Emits {Output : Type} (project : Effect → Option Output) (bound : List Output)
    (computation : Computation State Effect Error Value) : Prop :=
  ∀ state, ((computation state).1.filterMap project).Sublist bound

section Rules

variable {kind : Effect → Prop} {apply : State → Effect → State}
variable {passed : Value → Prop} {property : Result → Prop}
variable {first : Computation State Effect Error Value}
variable {next : Value → Computation State Effect Error Result}

theorem within_done (value : Value) :
    Within kind (done value : Computation State Effect Error Value) :=
  fun _ _ member => absurd member List.not_mem_nil

theorem within_raise (error : Error) :
    Within kind (raise error : Computation State Effect Error Value) :=
  fun _ _ member => absurd member List.not_mem_nil

theorem within_leave {effect : Effect} (allowed : kind effect) :
    Within kind (leave effect : Computation State Effect Error Unit) := by
  intro _ other member
  rw [List.mem_singleton.mp member]
  exact allowed

theorem within_reading
    {choose : State → Computation State Effect Error Value}
    (all : ∀ state, Within kind (choose state)) : Within kind (reading choose) :=
  fun state => all state state

theorem chain_done (value : Value) (next : Value → Computation State Effect Error Result) :
    chain apply (done value) next = next value := rfl

theorem returns_any : Returns (fun _ => True) first := fun _ _ _ => trivial

theorem returns_raise (error : Error) :
    Returns passed (raise error : Computation State Effect Error Value) :=
  nofun

theorem returns_done {value : Value} (holds : passed value) :
    Returns passed (done value : Computation State Effect Error Value) := by
  intro _ other returned
  cases returned
  exact holds

theorem returns_reading
    {choose : State → Computation State Effect Error Value}
    (all : ∀ state, Returns passed (choose state)) : Returns passed (reading choose) :=
  fun state => all state state

/-- A chain leaves what its parts leave, the second at a value that the first
may return. -/
theorem within_chain
    (early : Within kind first)
    (returns : Returns passed first)
    (late : ∀ value, passed value → Within kind (next value)) :
    Within kind (chain apply first next) := by
  intro state effect member
  have before := early state
  have value := returns state
  unfold chain at member
  split at member
  next effects error stopped =>
    rw [stopped] at before
    exact before effect member
  next effects found went =>
    rw [went] at before value
    rcases List.mem_append.mp member with first | second
    · exact before effect first
    · exact late found (value found rfl) _ effect second

theorem returns_chain
    (returns : Returns passed first)
    (late : ∀ value, passed value → Returns property (next value)) :
    Returns property (chain apply first next) := by
  intro state result returned
  have value := returns state
  unfold chain at returned
  split at returned
  · cases returned
  next effects found went =>
    rw [went] at value
    exact late found (value found rfl) _ result returned

variable {Output : Type} {project : Effect → Option Output} {bound early late : List Output}

theorem emits_done (value : Value) :
    Emits project bound (done value : Computation State Effect Error Value) :=
  fun _ => List.nil_sublist _

theorem emits_raise (error : Error) :
    Emits project bound (raise error : Computation State Effect Error Value) :=
  fun _ => List.nil_sublist _

theorem emits_leave {effect : Effect} (emitted : (project effect).toList.Sublist bound) :
    Emits project bound (leave effect : Computation State Effect Error Unit) := by
  intro state
  cases projected : project effect with
  | none => simp [leave, projected]
  | some output => simpa [leave, projected] using emitted

theorem emits_reading
    {choose : State → Computation State Effect Error Value}
    (all : ∀ state, Emits project bound (choose state)) : Emits project bound (reading choose) :=
  fun state => all state state

/-- A chain emits what its parts emit, one after the other. -/
theorem emits_chain
    (first_emits : Emits project early first)
    (returns : Returns passed first)
    (next_emits : ∀ value, passed value → Emits project late (next value)) :
    Emits project (early ++ late) (chain apply first next) := by
  intro state
  have before := first_emits state
  have value := returns state
  unfold chain
  split
  next effects error stopped =>
    rw [stopped] at before
    exact before.trans (List.sublist_append_left _ _)
  next effects found went =>
    rw [went] at before value
    rw [List.filterMap_append]
    exact before.append (next_emits found (value found rfl) _)

/-- A chain that emits in its first part only. -/
theorem emits_chain_of_first
    (first_emits : Emits project bound first)
    (next_silent : ∀ value, Emits project [] (next value)) :
    Emits project bound (chain apply first next) := by
  rw [← List.append_nil bound]
  exact emits_chain first_emits returns_any fun value _ => next_silent value

/-- A chain that emits in its second part only. -/
theorem emits_chain_of_next
    (first_silent : Emits project [] first)
    (returns : Returns passed first)
    (next_emits : ∀ value, passed value → Emits project bound (next value)) :
    Emits project bound (chain apply first next) :=
  emits_chain first_silent returns next_emits

end Rules

end Computation
end Effects
end Foundation
