/-!
# Checked steps

A step of the codec has a result, refuses what it was given, or breaks on it. Refusing is an answer:
the caller is told, and may go on without the result. Breaking is none: the step never returns, and
whatever was waiting for it does not either. So a step that tries several things goes on after one
of them is refused, but not after one of them crashes.

## Main definitions

* `Obstacle`: why there is no result.
* `Checked`: a result, or why there is none.
-/

namespace FramedAvro.Avro

/-- Why a step of the codec has no result. -/
inductive Obstacle where
  /-- What the step was given is refused. -/
  | refused
  /-- The step does not return. -/
  | crash
deriving DecidableEq, Repr

/-- A result, or why there is none. -/
abbrev Checked (α : Type) := Except Obstacle α

namespace Checked

variable {ε α β : Type}

/-- A result that is refused where it is missing. -/
def ofOption : Option α → Checked α
  | some a => .ok a
  | none => .error .refused

/-- A result without which the step does not return. -/
def orCrash : Option α → Checked α
  | some a => .ok a
  | none => .error .crash

/-- The first result, unless it is refused: then the second. -/
def orElse : Checked α → Checked α → Checked α
  | .error .refused, other => other
  | own, _ => own

/-- A value is a result without an obstacle. -/
@[simp] theorem pure_eq_ok (a : α) : (pure a : Except ε α) = .ok a := rfl

/-- After a result, the next step goes on with it. -/
@[simp] theorem ok_bind (a : α) (next : α → Except ε β) :
    (Except.ok a : Except ε α) >>= next = next a := rfl

/-- After an obstacle, there is no next step. -/
@[simp] theorem error_bind (e : ε) (next : α → Except ε β) :
    (Except.error e : Except ε α) >>= next = .error e := rfl

/-- A result is changed, an obstacle would not be. -/
@[simp] theorem map_ok (f : α → β) (a : α) : f <$> (Except.ok a : Except ε α) = .ok (f a) := rfl

/-- A sequence has a result when both of its steps do. -/
theorem bind_eq_ok_iff {step : Except ε α} {next : α → Except ε β} {b : β} :
    step >>= next = .ok b ↔ ∃ a, step = .ok a ∧ next a = .ok b := by
  cases step <;> simp

/-- A value that may be missing is a result if it is there. -/
theorem ofOption_eq_ok_iff {result : Option α} {a : α} :
    ofOption result = .ok a ↔ result = some a := by
  cases result <;> simp [ofOption]

/-- A changed result comes from a result. -/
theorem map_eq_ok_iff {f : α → β} {result : Checked α} {b : β} :
    result.map f = .ok b ↔ ∃ a, result = .ok a ∧ f a = b := by
  cases result <;> simp [Except.map]

end Checked

end FramedAvro.Avro
