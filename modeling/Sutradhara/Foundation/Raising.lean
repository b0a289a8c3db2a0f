/-!
# Computations that may raise

Rules that take a chain of raising calls apart when the whole chain has
succeeded, and that run a chain forward through a call that succeeds.
-/

namespace Foundation
namespace Raising

universe u

variable {Error : Type u} {Value Image : Type u}

@[simp] theorem ok_bind (value : Value) (next : Value → Except Error Image) :
    ((Except.ok value : Except Error Value) >>= next) = next value := rfl

@[simp] theorem error_bind :
    ((Except.error error : Except Error Value) >>= next) = .error error := rfl

variable {attempt : Except Error Value}

/-- Both calls of a chain that succeeded have succeeded. -/
theorem exists_of_bind_eq_ok
    {next : Value → Except Error Image}
    {image : Image}
    (chained : (attempt >>= next) = .ok image) :
    ∃ value, attempt = .ok value ∧ next value = .ok image := by
  cases attempt with
  | error error => cases chained
  | ok value => exact ⟨value, rfl, chained⟩

/-- Raise unless a condition holds. -/
def require (condition : Bool) (error : Error) : Except Error PUnit :=
  if condition then .ok ⟨⟩ else .error error

@[simp] theorem require_true : require true error = .ok ⟨⟩ := rfl

theorem eq_true_of_require
    {condition : Bool}
    {error : Error}
    {done : PUnit}
    (passed : require condition error = .ok done) : condition = true := by
  cases condition with
  | false => cases passed
  | true => rfl

theorem exists_of_map_eq_ok
    {view : Value → Image}
    {image : Image}
    (mapped : attempt.map view = .ok image) :
    ∃ value, attempt = .ok value ∧ view value = image := by
  cases attempt with
  | error error => cases mapped
  | ok value =>
    cases mapped
    exact ⟨value, rfl, rfl⟩

theorem eq_ok_of_toOption_eq_some {value : Value} (succeeded : attempt.toOption = some value) :
    attempt = .ok value := by
  cases attempt with
  | error error => cases succeeded
  | ok found =>
    cases succeeded
    rfl

end Raising
end Foundation
