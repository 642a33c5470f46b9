import Mathlib

/-!
# Sequences of checks

A validation is a sequence of checks in `Except`; the first that fails gives the
error.  Its success is the conjunction of what the checks ask for.
-/

namespace Checks

variable {ε δ α β : Type}

/-- Fail with a message on a forbidden condition. -/
def refuseIf (forbidden : Bool) (error : ε) : Except ε Unit :=
  if forbidden then .error error else .ok ()

theorem refuseIf_eq_ok {forbidden : Bool} {error : ε} {result : Unit} :
    refuseIf forbidden error = .ok result ↔ forbidden = false := by
  cases forbidden <;> simp [refuseIf]

theorem bind_eq_ok {first : Except ε α} {next : α → Except ε β} {result : β} :
    (first >>= next) = .ok result ↔ ∃ value, first = .ok value ∧ next value = .ok result := by
  cases first with
  | error error => simp [bind, Except.bind]
  | ok value => simp [bind, Except.bind]

/-- The form of `bind_eq_ok` for a check, which has no result of its own. -/
theorem check_bind_eq_ok {check : Except ε Unit} {next : Unit → Except ε β} {result : β} :
    (check >>= next) = .ok result ↔ check = .ok () ∧ next () = .ok result := by
  cases check with
  | error error => simp [bind, Except.bind]
  | ok value => simp [bind, Except.bind]

theorem mapError_eq_ok {change : ε → δ} {first : Except ε α} {result : α} :
    first.mapError change = .ok result ↔ first = .ok result := by
  cases first <;> simp [Except.mapError]

end Checks
