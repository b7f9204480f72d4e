import FramedAvro.Proofs.Action
import FramedAvro.Proofs.Serializer.Cache

/-!
# Registries with more state

What a registry answered cannot be told from its state, since a registry may answer anything. To
speak about its answers they are recorded beside the state, by a registry that does nothing else in
addition. A serializer cannot notice: when every operation of one registry forgets to that of
another, so does every operation of a serializer on them.

## Main definitions

* `Registry.Forgets`: a registry that only does more to what is forgotten.

## Main results

* `Operation.forgets_onRegistry`: what is forgotten changes no operation of a serializer.
-/

namespace FramedAvro

variable {σ τ α β : Type}

/-- Every operation of a registry forgets to that of another one. -/
structure Registry.Forgets (view : τ → σ) (registry : Registry τ) (plain : Registry σ) : Prop where
  fetchById : ∀ id, Action.Forgets view (registry.fetchById id) (plain.fetchById id)
  fetchLatest : ∀ coordinate,
    Action.Forgets view (registry.fetchLatest coordinate) (plain.fetchLatest coordinate)
  findByContent : ∀ schema group,
    Action.Forgets view (registry.findByContent schema group) (plain.findByContent schema group)
  findByFingerprint : ∀ schema group,
    Action.Forgets view (registry.findByFingerprint schema group)
      (plain.findByFingerprint schema group)
  register : ∀ coordinate schema type,
    Action.Forgets view (registry.register coordinate schema type)
      (plain.register coordinate schema type)
  checkExists : ∀ coordinate,
    Action.Forgets view (registry.checkExists coordinate) (plain.checkExists coordinate)

variable {view : τ → σ} {registry : Registry τ} {plain : Registry σ}

/-- A lookup forgets to the lookup in the plain registry. -/
theorem Registry.Forgets.findSchema (h : registry.Forgets view plain) (schema : String)
    (group : Option String) :
    Action.Forgets view (registry.findSchema schema group) (plain.findSchema schema group) := by
  have hartifact : Action.Forgets view (registry.findArtifact schema group)
      (plain.findArtifact schema group) := by
    refine (h.findByContent _ _).bind fun found => ?_
    cases found with
    | some coordinate => exact Action.Forgets.pure (some coordinate)
    | none => exact h.findByFingerprint _ _
  refine hartifact.bind fun found => ?_
  cases found with
  | some coordinate => exact h.fetchLatest coordinate
  | none => exact Action.Forgets.ofOutcome (.error (.failed noMatchingSchema))

namespace Serializing

/-- A serializer on a registry of which only a part is seen. -/
def onRegistry (view : τ → σ) (state : Serializing τ) : Serializing σ :=
  ⟨state.serializer, view state.registry⟩

/-- What a registry does in addition is forgotten when it is asked through a serializer. -/
theorem ask_forgets {action : Action τ α} {own : Action σ α} (h : Action.Forgets view action own) :
    Action.Forgets (onRegistry view) (ask action) (ask own) := by
  intro state
  rw [ask, ask, Action.perform_onPart, Action.perform_onPart]
  have hpart := h state.registry
  rw [onRegistry, hpart]
  rfl

/-- Parsing a document does nothing with the registry. -/
theorem parse_forgets (view : τ → σ) (id : UInt32) (document : Document) :
    Action.Forgets (onRegistry view) (parse id document) (parse id document) := by
  intro state
  rw [perform_parse, perform_parse, onRegistry]
  cases hkept : state.serializer.kept? id with
  | some schema => rfl
  | none => cases hparse : ParsedSchema.parse id document <;> rfl

/-- Getting the schema of an id does no more with what is forgotten. -/
theorem schemaOf_forgets (h : registry.Forgets view plain) (id : UInt32) :
    Action.Forgets (onRegistry view) (schemaOf registry id) (schemaOf plain id) := by
  intro state
  have hfetched := (ask_forgets (h.fetchById id)).bind (parse_forgets view id) state
  rw [perform_schemaOf, perform_schemaOf]
  have hkept : (onRegistry view state).serializer.kept? id = state.serializer.kept? id := rfl
  rw [hkept]
  cases state.serializer.kept? id with
  | some schema => rfl
  | none => exact hfetched

/-- A boundary does nothing with the registry. -/
theorem wrapping_forgets {action : Action (Serializing τ) α} {own : Action (Serializing σ) α}
    (h : Action.Forgets (onRegistry view) action own) (kind : FailureKind)
    (pass : List FailureKind) (message : String) :
    Action.Forgets (onRegistry view) (wrapping kind pass message action)
      (wrapping kind pass message own) := by
  intro state
  rw [perform_wrapping, perform_wrapping, h state]

/-- The group for lookups does not depend on what is forgotten. -/
theorem lookupGroup_forgets {next : Option String → Action (Serializing τ) α}
    {next' : Option String → Action (Serializing σ) α}
    (h : ∀ group, Action.Forgets (onRegistry view) (next group) (next' group)) :
    Action.Forgets (onRegistry view) (get >>= fun state => next state.serializer.lookupGroup)
      (get >>= fun state => next' state.serializer.lookupGroup) :=
  fun state => h state.serializer.lookupGroup state

/-- Writing an item with a schema that is looked up does no more with what is forgotten. -/
theorem serializeByLookup_forgets (h : registry.Forgets view plain) (model : Model α) (item : α) :
    Action.Forgets (onRegistry view) (serializeByLookup registry model item)
      (serializeByLookup plain model item) := by
  have hwrite (group : Option String) : Action.Forgets (onRegistry view)
      (ask (registry.findSchema model.schema group) >>= fun found =>
        parse found.1 found.2 >>= fun schema => Action.ofOutcome (schema.frameItem model item))
      (ask (plain.findSchema model.schema group) >>= fun found =>
        parse found.1 found.2 >>= fun schema => Action.ofOutcome (schema.frameItem model item)) :=
    (ask_forgets (h.findSchema _ _)).bind fun found =>
      (parse_forgets view found.1 found.2).bind fun _ => Action.Forgets.ofOutcome _
  exact wrapping_forgets (lookupGroup_forgets hwrite) _ _ _

/-- Opening a message does no more with what is forgotten. -/
theorem openMessage_forgets (h : registry.Forgets view plain) (message : Bytes) :
    Action.Forgets (onRegistry view) (openMessage registry message) (openMessage plain message) :=
  (Action.Forgets.ofExcept _).bind fun frame =>
    (schemaOf_forgets h frame.1).bind fun _ => Action.Forgets.pure _

end Serializing

/-- What is forgotten of a registry changes nothing of an operation. -/
theorem Operation.forgets_onRegistry (operation : Operation β) (h : registry.Forgets view plain) :
    Action.Forgets (Serializing.onRegistry view) (operation.action registry)
      (operation.action plain) := by
  cases operation with
  | serialize model item id =>
      cases id with
      | some id =>
          exact Serializing.wrapping_forgets ((Serializing.schemaOf_forgets h id).bind
            fun _ => Action.Forgets.ofOutcome _) _ _ _
      | none => exact Serializing.serializeByLookup_forgets h model item
  | serializeValue v id =>
      exact Serializing.wrapping_forgets ((Serializing.schemaOf_forgets h id).bind
        fun _ => Action.Forgets.ofOutcome _) _ _ _
  | deserialize model message =>
      exact Serializing.wrapping_forgets ((Serializing.openMessage_forgets h message).bind
        fun _ => (Action.Forgets.ofOutcome _).bind fun _ => (Action.Forgets.ofOutcome _).bind
          fun _ => Action.Forgets.ofExcept _) _ _ _
  | deserializeWithSchema model message =>
      exact Serializing.wrapping_forgets ((Serializing.openMessage_forgets h message).bind
        fun _ => (Action.Forgets.ofOutcome _).bind fun _ => (Action.Forgets.ofExcept _).bind
          fun _ => Action.Forgets.pure _) _ _ _
  | deserializeValue message =>
      exact Serializing.wrapping_forgets ((Serializing.openMessage_forgets h message).bind
        fun _ => (Action.Forgets.ofOutcome _).bind fun _ => Action.Forgets.pure _) _ _ _

end FramedAvro
