import FramedAvro.Coordinate
import FramedAvro.Outcome
import FramedAvro.Registry.ArtifactType
import FramedAvro.Registry.Document

/-!
# Registries

What a serializer needs of a schema registry. A registry has a state of some type `σ`, and each of
its operations is an `Action`: it may fail or not return at all, and it may change the state
whichever way it ends. So a registry may answer the same question differently each time.
-/

namespace FramedAvro

/-- A step that may end without a result and may change a state of type `σ`, also when it does. -/
abbrev Action (σ α : Type) := ExceptT Stop (StateM σ) α

namespace Action

/-- The outcome of an action, and the state after it. -/
def perform {σ α : Type} (action : Action σ α) (state : σ) : Outcome α × σ :=
  action.run.run state

/-- An action with an outcome that does not depend on the state. -/
def ofOutcome {σ α : Type} (outcome : Outcome α) : Action σ α :=
  ExceptT.mk fun state => (outcome, state)

/-- An action that always returns, with a result that does not depend on the state. -/
def ofExcept {σ α : Type} (result : Except Failure α) : Action σ α :=
  ofOutcome (.ofExcept result)

/-- An action that fails. -/
def fail {σ α : Type} (failure : Failure) : Action σ α :=
  throw (.failed failure)

/-- An action that answers and leaves the state as it is. -/
def answer {σ α : Type} (read : σ → Outcome α) : Action σ α :=
  ExceptT.mk fun state => (read state, state)

/-- An action that changes the state only when it does not fail. -/
def update {σ α : Type} (step : σ → Except Failure (α × σ)) : Action σ α :=
  ExceptT.mk fun state =>
    match step state with
    | .ok (a, next) => (.ok a, next)
    | .error failure => (.error (.failed failure), state)

/-- The action with its failures as results. It still does not return where the action does not. -/
def caught {σ α : Type} (action : Action σ α) : Action σ (Except Failure α) :=
  ExceptT.mk fun state =>
    let (outcome, after) := action.perform state
    (outcome.caught, after)

/-- An action on a part of a state. -/
def onPart {σ τ α : Type} (get : τ → σ) (set : σ → τ → τ) (action : Action σ α) : Action τ α :=
  ExceptT.mk fun state =>
    let (outcome, part) := action.perform (get state)
    (outcome, set part state)

end Action

/-- The operations of a registry with a state of type `σ`. -/
structure Registry (σ : Type) where
  /-- The document of an id. -/
  fetchById : UInt32 → Action σ Document
  /-- The id and the document of the latest version of an artifact. -/
  fetchLatest : Coordinate → Action σ (UInt32 × Document)
  /-- An artifact, in a group if one is given, with the same canonical content as a schema. -/
  findByContent : String → Option String → Action σ (Option Coordinate)
  /-- An artifact, in a group if one is given, whose latest document has the fingerprint of a
  schema. -/
  findByFingerprint : String → Option String → Action σ (Option Coordinate)
  /-- Registers a schema under a coordinate, which gives its id. -/
  register : Coordinate → String → ArtifactType → Action σ UInt32
  /-- Whether an artifact exists. -/
  checkExists : Coordinate → Action σ Bool

end FramedAvro
