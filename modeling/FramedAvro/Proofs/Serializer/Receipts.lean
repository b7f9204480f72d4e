import FramedAvro.Proofs.Serializer.Ghost

/-!
# Receipts

Which documents a registry answered with cannot be told from its state, since a registry may answer
anything. So the answers are noted beside the state: `Registry.noted` is the registry that answers
in the same way and lists the documents it answered with, each with the id it answered it for.

Noting changes nothing: a registry that notes forgets to the plain one, and so do the operations of
a serializer and every run.

## Main definitions

* `Receipt`: a document that was answered for an id.
* `Registry.noted`: a registry with receipts.
* `Serializing.Step`: what may happen in a run.

## Main results

* `Operation.forgets`, `Serializing.forget_performAll`: noting changes nothing.
-/

namespace FramedAvro

variable {σ τ α β : Type}

/-! ### Noting -/

/-- A document that a registry answered with. -/
inductive Receipt where
  /-- The document of an id that was asked for. -/
  | byId (id : UInt32) (document : Document)
  /-- The id and the document of the latest version of an artifact. -/
  | latest (coordinate : Coordinate) (id : UInt32) (document : Document)

namespace Receipt

/-- The id that the document was answered for. -/
def id : Receipt → UInt32
  | byId id _ => id
  | latest _ id _ => id

/-- The document that was answered. -/
def document : Receipt → Document
  | byId _ document => document
  | latest _ _ document => document

end Receipt

/-- The state of a registry, and the documents it answered with so far. -/
structure Noted (σ : Type) where
  inner : σ
  receipts : List Receipt

/-- The receipts of an answer. Without an answer there are none. -/
def receiptsOf (receipts : α → List Receipt) : Outcome α → List Receipt
  | .ok a => receipts a
  | .error _ => []

/-- An action of a registry, whose answer is noted. -/
def Action.note (receipts : α → List Receipt) (action : Action σ α) : Action (Noted σ) α :=
  ExceptT.mk fun noted =>
    let (outcome, inner) := action.perform noted.inner
    (outcome, ⟨inner, noted.receipts ++ receiptsOf receipts outcome⟩)

/-- The registry that notes the documents it answers with. -/
def Registry.noted (registry : Registry σ) : Registry (Noted σ) where
  fetchById id := (registry.fetchById id).note fun document => [.byId id document]
  fetchLatest coordinate :=
    (registry.fetchLatest coordinate).note fun answer => [.latest coordinate answer.1 answer.2]
  findByContent schema group := (registry.findByContent schema group).note fun _ => []
  findByFingerprint schema group := (registry.findByFingerprint schema group).note fun _ => []
  register coordinate schema type := (registry.register coordinate schema type).note fun _ => []
  checkExists coordinate := (registry.checkExists coordinate).note fun _ => []

/-! ### Forgetting -/

/-- Noting forgets to the action that is noted. -/
theorem Action.note_forgets (receipts : α → List Receipt) (action : Action σ α) :
    Action.Forgets Noted.inner (action.note receipts) action :=
  fun _ => rfl

/-- A registry that notes answers as the registry itself. -/
theorem Registry.noted_forgets (registry : Registry σ) :
    registry.noted.Forgets Noted.inner registry where
  fetchById _ := Action.note_forgets _ _
  fetchLatest _ := Action.note_forgets _ _
  findByContent _ _ := Action.note_forgets _ _
  findByFingerprint _ _ := Action.note_forgets _ _
  register _ _ _ := Action.note_forgets _ _
  checkExists _ := Action.note_forgets _ _

namespace Serializing

/-- A serializer on a registry, without the receipts. -/
def forget (state : Serializing (Noted σ)) : Serializing σ :=
  ⟨state.serializer, state.registry.inner⟩

/-- A serializer on a registry, with no receipts yet. -/
def noted (state : Serializing σ) : Serializing (Noted σ) :=
  ⟨state.serializer, ⟨state.registry, []⟩⟩

end Serializing

/-- Noting changes nothing of an operation. -/
theorem Operation.forgets (registry : Registry σ) (operation : Operation β) :
    Action.Forgets Serializing.forget (operation.action registry.noted)
      (operation.action registry) :=
  operation.forgets_onRegistry registry.noted_forgets

/-! ### Runs -/

namespace Serializing

/-- A step of a run with one serializer. -/
inductive Step (σ : Type) : Type 1
  /-- The serializer does an operation. -/
  | operate {β : Type} (operation : Operation β)
  /-- The serializer is asked to register a schema. -/
  | registerSchema (coordinate : Coordinate)
  /-- Others change the registry, in any way. -/
  | change (become : σ → σ)

namespace Step

/-- What a step leaves behind. -/
def next (registry : Registry σ) : Step σ → Serializing σ → Serializing σ
  | operate operation, state => ((operation.action registry).perform state).2
  | registerSchema coordinate, state => ((Serializing.registerSchema coordinate).perform state).2
  | change become, state => { state with registry := become state.registry }

/-- The step with a registry that notes. -/
def noted : Step σ → Step (Noted σ)
  | operate operation => operate operation
  | registerSchema coordinate => registerSchema coordinate
  | change become => change fun noted => { noted with inner := become noted.inner }

/-- A step with receipts is the step without them, once they are forgotten. -/
theorem forget_next (registry : Registry σ) (step : Step σ) (state : Serializing (Noted σ)) :
    (step.noted.next registry.noted state).forget = step.next registry state.forget := by
  cases step with
  | operate operation => exact (congrArg Prod.snd (operation.forgets registry state)).symm
  | registerSchema coordinate => rfl
  | change become => rfl

end Step

/-- What steps leave behind, one after the other. -/
def performAll (registry : Registry σ) (steps : List (Step σ)) (state : Serializing σ) :
    Serializing σ :=
  steps.foldl (fun state step => step.next registry state) state

/-- Noting changes nothing of a run. -/
theorem forget_performAll (registry : Registry σ) (steps : List (Step σ))
    (state : Serializing (Noted σ)) :
    (performAll registry.noted (steps.map Step.noted) state).forget =
      performAll registry steps state.forget := by
  induction steps generalizing state with
  | nil => rfl
  | cons step rest ih =>
      have hrest := ih (step.noted.next registry.noted state)
      rw [step.forget_next registry state] at hrest
      exact hrest

/-- The documents that the registry answers with in a run. -/
def receipts (registry : Registry σ) (steps : List (Step σ)) (state : Serializing σ) :
    List Receipt :=
  (performAll registry.noted (steps.map Step.noted) state.noted).registry.receipts

end Serializing

end FramedAvro
