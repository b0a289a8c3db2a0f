import Sutradhara.Foundation.Interleaving

/-!
# Processes of atomic operations

A process performs operations on a shared state one at a time, goes on as their
answers say, and returns or raises.  The same process may run alone, be cut after
any number of operations, or run interleaved with others.  For processes that run
alone there are rules for the states that a cut can leave.  For interleaved ones
there is a rely-guarantee rule: what a process knows of the state holds while the
others keep to what it relies on, and its own operations keep to its guarantee.
-/

namespace Foundation

/-- A finite process.  The type of an answer depends on the operation. -/
inductive Process (Op : Type) (Answer : Op → Type) (Fault Value : Type)
  | returned (value : Value)
  | raised (fault : Fault)
  | act (op : Op) (next : Answer op → Process Op Answer Fault Value)

namespace Process

variable {Op : Type} {Answer : Op → Type} {Fault Value Result State : Type}

/-- Go on with the value that a process returns. -/
def bind : Process Op Answer Fault Value → (Value → Process Op Answer Fault Result) →
      Process Op Answer Fault Result
  | .returned value, next => next value
  | .raised fault, _ => .raised fault
  | .act op rest, next => .act op fun answer => (rest answer).bind next

instance : Monad (Process Op Answer Fault) where
  pure := .returned
  bind := bind

/-- The process of one operation. -/
def perform (op : Op) : Process Op Answer Fault (Answer op) := .act op .returned

/-- Raise unless a condition holds. -/
def require (condition : Bool) (fault : Fault) : Process Op Answer Fault Unit :=
  if condition then .returned () else .raised fault

section Alone

variable (effect : State → (op : Op) → State × Answer op)

/-- Run a process alone for a number of operations. -/
def cut : Nat → Process Op Answer Fault Value → State → State
  | count + 1, .act op next, state => cut count (next (effect state op).2) (effect state op).1
  | _, _, state => state

/-- Every operation of the process leaves the state as it is. -/
def Reads : Process Op Answer Fault Value → Prop
  | .returned _ => True
  | .raised _ => True
  | .act op next => (∀ state, (effect state op).1 = state) ∧ ∀ answer, (next answer).Reads

variable {effect}

theorem reads_bind
    {process : Process Op Answer Fault Value}
    {next : Value → Process Op Answer Fault Result}
    (first : process.Reads effect)
    (second : ∀ value, (next value).Reads effect) : (process.bind next).Reads effect := by
  induction process with
  | returned value => exact second value
  | raised fault => trivial
  | act op rest ih => exact ⟨first.1, fun answer => ih answer (first.2 answer)⟩

theorem reads_require (condition : Bool) (fault : Fault) :
    (require condition fault : Process Op Answer Fault Unit).Reads effect := by
  cases condition with
  | true => trivial
  | false => trivial

end Alone

/-! ## Interleaved processes -/

section Interleaved

variable (effect : State → (op : Op) → State × Answer op)
variable (rely guarantee : State → State → Prop)

/-- From every state of the precondition, each operation keeps to the guarantee while
the others keep to what is relied on, and the values that are returned have the
postcondition. -/
def Sound : Process Op Answer Fault Value → (State → Prop) → (Value → State → Prop) → Prop
  | .returned value, before, after => ∀ state, before state → after value state
  | .raised _, _, _ => True
  | .act op next, before, after =>
    (∀ state, before state → guarantee state (effect state op).1) ∧
      ∀ answer, (next answer).Sound
        (fun later => ∃ state middle, before state ∧
          effect state op = (middle, answer) ∧ rely middle later) after

/-- Knowledge that survives what the others do. -/
def Stable (known : State → Prop) : Prop :=
  ∀ state later, known state → rely state later → known later

variable {effect rely guarantee}

variable {process : Process Op Answer Fault Value}

theorem Sound.mono
    {before stronger : State → Prop}
    {after weaker : Value → State → Prop}
    (sound : process.Sound effect rely guarantee before after)
    (strengthens : ∀ state, stronger state → before state)
    (weakens : ∀ value state, after value state → weaker value state) :
    process.Sound effect rely guarantee stronger weaker := by
  induction process generalizing before stronger with
  | returned value =>
    exact fun state holds => weakens value state (sound state (strengthens state holds))
  | raised fault => trivial
  | act op next ih =>
    refine ⟨fun state holds => sound.1 state (strengthens state holds), fun answer => ?_⟩
    refine ih answer (sound.2 answer) ?_
    rintro later ⟨state, middle, holds, performed, relied⟩
    exact ⟨state, middle, strengthens state holds, performed, relied⟩

/-- Nothing is to be shown from an impossible state. -/
theorem sound_of_impossible
    {before : State → Prop}
    {after : Value → State → Prop}
    (impossible : ∀ state, ¬ before state)
    (process : Process Op Answer Fault Value) :
    process.Sound effect rely guarantee before after := by
  induction process generalizing before with
  | returned value => exact fun state holds => absurd holds (impossible state)
  | raised fault => trivial
  | act op next ih =>
    refine ⟨fun state holds => absurd holds (impossible state), fun answer => ?_⟩
    refine ih answer ?_
    rintro later ⟨state, middle, holds, -⟩
    exact impossible state holds

/-- One operation: it keeps to the guarantee, and what it makes known is stable. -/
theorem sound_act
    {op : Op}
    {next : Answer op → Process Op Answer Fault Value}
    {before : State → Prop}
    {after : Value → State → Prop}
    (known : Answer op → State → Prop)
    (keeps : ∀ state, before state → guarantee state (effect state op).1)
    (learns : ∀ state, before state → known (effect state op).2 (effect state op).1)
    (stable : ∀ answer, Stable rely (known answer))
    (sound : ∀ answer, (next answer).Sound effect rely guarantee (known answer) after) :
    (act op next).Sound effect rely guarantee before after := by
  refine ⟨keeps, fun answer => (sound answer).mono ?_ fun _ _ holds => holds⟩
  rintro later ⟨state, middle, holds, performed, relied⟩
  refine stable answer middle later ?_ relied
  have learned := learns state holds
  rw [performed] at learned
  exact learned

theorem sound_bind
    {next : Value → Process Op Answer Fault Result}
    {before : State → Prop}
    {between : Value → State → Prop}
    {after : Result → State → Prop}
    (first : process.Sound effect rely guarantee before between)
    (second : ∀ value, (next value).Sound effect rely guarantee (between value) after) :
    (process.bind next).Sound effect rely guarantee before after := by
  induction process generalizing before with
  | returned value => exact (second value).mono first fun _ _ holds => holds
  | raised fault => trivial
  | act op rest ih => exact ⟨first.1, fun answer => ih answer (first.2 answer)⟩

/-- Reading keeps to every guarantee that allows to do nothing, and loses no stable
knowledge. -/
theorem Reads.sound
    (reads : process.Reads effect)
    (idle : ∀ state, guarantee state state)
    {known : State → Prop}
    (stable : Stable rely known) :
    process.Sound effect rely guarantee known fun _ => known := by
  induction process with
  | returned value => exact fun _ holds => holds
  | raised fault => trivial
  | act op next ih =>
    refine sound_act (fun _ => known) (fun state _ => ?_) (fun state holds => ?_)
      (fun _ => stable) fun answer => ih answer (reads.2 answer)
    · rw [reads.1 state]
      exact idle state
    · rw [reads.1 state]
      exact holds

/-- A process stands where it knows enough to go on. -/
def Stands (effect : State → (op : Op) → State × Answer op)
    (rely guarantee : State → State → Prop) (state : State)
    (process : Process Op Answer Fault Value) : Prop :=
  ∃ known, Stable rely known ∧ known state ∧
    process.Sound effect rely guarantee known fun _ _ => True

theorem Stands.relied
    {state later : State}
    (stands : Stands effect rely guarantee state process)
    (relied : rely state later) : Stands effect rely guarantee later process := by
  obtain ⟨known, stable, holds, sound⟩ := stands
  exact ⟨known, stable, stable state later holds relied, sound⟩

/-- A step of a process keeps to its guarantee, and the process stands where it knows
enough again. -/
theorem Stands.act
    (reflexive : ∀ state, rely state state)
    (transitive : ∀ first second third, rely first second → rely second third → rely first third)
    {state : State}
    {op : Op}
    {next : Answer op → Process Op Answer Fault Value}
    (stands : Stands effect rely guarantee state (.act op next)) :
    guarantee state (effect state op).1 ∧
      Stands effect rely guarantee (effect state op).1 (next (effect state op).2) := by
  obtain ⟨known, -, holds, sound⟩ := stands
  refine ⟨sound.1 state holds, _, ?_, ?_, sound.2 (effect state op).2⟩
  · rintro early later ⟨origin, middle, before, performed, relied⟩ further
    exact ⟨origin, middle, before, performed, transitive _ _ _ relied further⟩
  · exact ⟨state, (effect state op).1, holds, rfl, reflexive _⟩

end Interleaved

/-! ## Calls -/

section Calls

variable {Call : Type}

/-- A call that has been made, and what is left of it once it has begun. -/
structure Thread (Op : Type) (Answer : Op → Type) (Fault Value Call : Type) where
  call : Call
  rest : Option (Process Op Answer Fault Value)

variable (body : Call → Process Op Answer Fault Value)

/-- What a call has still to do. -/
def Thread.process (thread : Thread Op Answer Fault Value Call) : Process Op Answer Fault Value :=
  thread.rest.getD (body thread.call)

/-- The call has begun and has not ended. -/
def Thread.busy (thread : Thread Op Answer Fault Value Call) : Bool :=
  match thread.rest with
  | some (.act _ _) => true
  | _ => false

variable (effect : Nat → State → (op : Op) → State × Answer op)

/-- Any number of calls, one operation at a time.  A crashed call is never continued. -/
def calls : Interleaving.Program State (Thread Op Answer Fault Value Call) Unit where
  initial thread := thread.rest.isNone
  step index state thread _ :=
    match thread.process body with
    | .act op next =>
      some ((effect index state op).1,
        { thread with rest := some (next (effect index state op).2) })
    | _ => none

theorem calls_step_eq_some
    {index : Nat}
    {state after : State}
    {thread next : Thread Op Answer Fault Value Call}
    {choice : Unit}
    (stepped : (calls body effect).step index state thread choice = some (after, next)) :
    ∃ op rest, thread.process body = .act op rest ∧ after = (effect index state op).1 ∧
      next = ⟨thread.call, some (rest (effect index state op).2)⟩ := by
  simp only [calls] at stepped
  split at stepped
  next op rest process =>
    cases stepped
    exact ⟨op, rest, process, rfl, rfl⟩
  · cases stepped

end Calls

end Process
end Foundation
