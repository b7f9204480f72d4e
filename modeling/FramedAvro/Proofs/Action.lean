import FramedAvro.Registry.Basic

/-!
# Performing actions

What an action answers and leaves behind, read off how it is put together: an action that answers
leaves the state alone, one that updates changes it only when it does not fail, and a sequence
stops at the first action without a result, with the state that this one left.

A state may carry more than an action needs, such as a record of what happened. An action forgets to
a plain one when both answer alike and leave the same behind once the rest of the state is dropped.

## Main definitions

* `Action.Forgets`: an action that only does more to what is forgotten.
* `Logged`, `Action.log`: a state with a log beside it, and an action that is written down in it.
-/

namespace FramedAvro.Action

variable {σ τ α β : Type}

/-- An action that only gives a value leaves the state as it is. -/
@[simp] theorem perform_pure (a : α) (state : σ) :
    (pure a : Action σ α).perform state = (.ok a, state) := rfl

/-- Looking at the state gives it and leaves it as it is. -/
@[simp] theorem perform_get (state : σ) : (get : Action σ σ).perform state = (.ok state, state) :=
  rfl

/-- Setting the state forgets the one before. -/
@[simp] theorem perform_set (state next : σ) :
    (set next : Action σ PUnit).perform state = (.ok ⟨⟩, next) := rfl

/-- An outcome that is there already does not depend on the state. -/
@[simp] theorem perform_ofOutcome (outcome : Outcome α) (state : σ) :
    (ofOutcome outcome : Action σ α).perform state = (outcome, state) := rfl

/-- A result that is there already does not depend on the state. -/
@[simp] theorem perform_ofExcept (result : Except Failure α) (state : σ) :
    (ofExcept result : Action σ α).perform state = (.ofExcept result, state) := rfl

/-- A failure leaves the state as it is. -/
@[simp] theorem perform_fail (failure : Failure) (state : σ) :
    (fail failure : Action σ α).perform state = (.error (.failed failure), state) := rfl

/-- An answer is read from the state, which stays as it is. -/
@[simp] theorem perform_answer (read : σ → Outcome α) (state : σ) :
    (answer read).perform state = (read state, state) := rfl

/-- A failure that is taken for an answer keeps the state that the action left. -/
@[simp] theorem perform_caught (action : Action σ α) (state : σ) :
    action.caught.perform state = ((action.perform state).1.caught, (action.perform state).2) := rfl

/-- A step that fails leaves the state as it was before. -/
theorem perform_update (step : σ → Except Failure (α × σ)) (state : σ) :
    (update step).perform state =
      match step state with
      | .ok (a, next) => (.ok a, next)
      | .error failure => (.error (.failed failure), state) := rfl

/-- An action on a part of the state leaves everything else as it is. -/
theorem perform_onPart (get : τ → σ) (set : σ → τ → τ) (action : Action σ α) (state : τ) :
    (onPart get set action).perform state =
      ((action.perform (get state)).1, set (action.perform (get state)).2 state) := rfl

/-- A sequence goes on with what the first action answered and left behind, or stops there. -/
theorem perform_bind (first : Action σ α) (next : α → Action σ β) (state : σ) :
    (first >>= next).perform state =
      match first.perform state with
      | (.ok a, after) => (next a).perform after
      | (.error stop, after) => (.error stop, after) := by
  simp only [perform, ExceptT.run_bind, StateT.run_bind]
  rcases first.run.run state with ⟨outcome, after⟩
  cases outcome <;> rfl

/-! ### Forgetting a part of the state -/

/-- What an action answers and leaves behind is what another one does, on the part of the state that
is not forgotten. -/
def Forgets (forget : τ → σ) (action : Action τ α) (plain : Action σ α) : Prop :=
  ∀ state, plain.perform (forget state) =
    ((action.perform state).1, forget (action.perform state).2)

namespace Forgets

variable {forget : τ → σ}

/-- An outcome that is there already has nothing to forget. -/
theorem ofOutcome (outcome : Outcome α) :
    Forgets forget (Action.ofOutcome outcome) (Action.ofOutcome outcome) :=
  fun _ => rfl

/-- A result that is there already has nothing to forget. -/
theorem ofExcept (result : Except Failure α) :
    Forgets forget (Action.ofExcept result) (Action.ofExcept result) :=
  ofOutcome (.ofExcept result)

/-- A value has nothing to forget. -/
theorem pure (a : α) : Forgets forget (Pure.pure a) (Pure.pure a) :=
  ofOutcome (.ok a)

/-- Of two actions one after the other, what each of them does in addition is forgotten. -/
theorem bind {first : Action τ α} {first' : Action σ α} {next : α → Action τ β}
    {next' : α → Action σ β} (h : Forgets forget first first')
    (h' : ∀ a, Forgets forget (next a) (next' a)) :
    Forgets forget (first >>= next) (first' >>= next') := by
  intro state
  rw [perform_bind, perform_bind, h state]
  rcases hfirst : first.perform state with ⟨outcome, after⟩
  cases outcome with
  | error stop => rfl
  | ok a => exact h' a after

end Forgets

end FramedAvro.Action

/-! ### Logs -/

namespace FramedAvro

/-- A state, and what was written down beside it so far. -/
structure Logged (ρ σ : Type) where
  inner : σ
  log : List ρ

variable {ρ σ α : Type}

/-- An action, whose outcome is written down. -/
def Action.log (entries : Outcome α → List ρ) (action : Action σ α) :
    Action (Logged ρ σ) α :=
  ExceptT.mk fun state =>
    let (outcome, inner) := action.perform state.inner
    (outcome, ⟨inner, state.log ++ entries outcome⟩)

/-- Writing down forgets to the action that is written down. -/
theorem Action.log_forgets (entries : Outcome α → List ρ) (action : Action σ α) :
    Action.Forgets Logged.inner (action.log entries) action :=
  fun _ => rfl

end FramedAvro
