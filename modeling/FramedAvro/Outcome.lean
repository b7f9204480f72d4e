import FramedAvro.Avro.Checked
import FramedAvro.Failure

/-!
# Outcomes

An operation gives a result or a failure, and there is a third end: the codec below it breaks on
what it was given, and the operation never returns. That is no failure. It has no kind and no
message, no boundary wraps it and no caller sees it, and a loop that passes by the failures of its
steps does not pass by it. So `Stop` keeps the two ends without a result apart.

## Main definitions

* `Stop`: how an operation ends without a result.
* `Outcome`: a result, or how there came to be none.
-/

namespace FramedAvro

/-- How an operation ends that has no result. -/
inductive Stop where
  /-- The caller is told what went wrong. -/
  | failed (failure : Failure)
  /-- The operation does not return. -/
  | crashed
deriving DecidableEq, Repr

/-- The end with its failure, if it is one, as seen from elsewhere. -/
def Stop.mapFailure (view : Failure → Failure) : Stop → Stop
  | failed failure => failed (view failure)
  | crashed => crashed

/-- A result, or how there came to be none. -/
abbrev Outcome (α : Type) := Except Stop α

namespace Outcome

variable {α : Type}

/-- The outcome of a step that always returns. -/
def ofExcept : Except Failure α → Outcome α
  | .ok a => .ok a
  | .error failure => .error (.failed failure)

/-- The outcome of a step of the codec, which fails in the given way where the step refuses. -/
def ofChecked (failure : Failure) : Avro.Checked α → Outcome α
  | .ok a => .ok a
  | .error .refused => .error (.failed failure)
  | .error .crash => .error .crashed

/-- A result, or the failure instead of one, unless the operation does not return. -/
def caught : Outcome α → Outcome (Except Failure α)
  | .ok a => .ok (.ok a)
  | .error (.failed failure) => .ok (.error failure)
  | .error .crashed => .error .crashed

/-- An answer stays an answer. -/
@[simp] theorem ofExcept_ok (a : α) : ofExcept (.ok a) = .ok a := rfl

/-- A failure stays a failure. -/
@[simp] theorem ofExcept_error (failure : Failure) :
    ofExcept (.error failure : Except Failure α) = .error (.failed failure) := rfl

/-- An outcome is an answer if the result was one. -/
theorem ofExcept_eq_ok_iff {result : Except Failure α} {a : α} :
    ofExcept result = .ok a ↔ result = .ok a := by
  cases result <;> simp [ofExcept]

/-- An outcome is an answer if nothing stood in the way of it. -/
theorem ofChecked_eq_ok_iff {failure : Failure} {step : Avro.Checked α} {a : α} :
    ofChecked failure step = .ok a ↔ step = .ok a := by
  rcases step with (_ | _) | a <;> simp [ofChecked]

end Outcome

end FramedAvro
