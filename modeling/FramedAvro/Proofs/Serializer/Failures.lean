import FramedAvro.Proofs.Failure
import FramedAvro.Proofs.Serializer.Source

/-!
# How operations fail

An operation of a serializer fails in one of two ways: the registry did not answer a question, or
something is wrong with what is written or read. In both ways the caller sees a failure of a few
kinds only, and can tell by it whether trying again may help. Where something breaks instead, the
caller sees nothing at all.

The failures of the registry cannot be told from what an operation answers, so they are written down
beside the state (`Registry.watched`). Inside its boundary an operation stops at the first of them,
and what it fails with by itself will not pass (`Action.Accounted`); the boundary does the rest.

## Main definitions

* `Registry.watched`: a registry whose failures are written down.
* `Operation.Surfaces`: what the caller sees of the failures of the registry.
* `ParsedSchema.Refuses`: a value that cannot be written with a schema.

## Main results

* `Operation.answer_surfaces`: how an operation fails, on any registry and with anything kept.
-/

namespace FramedAvro

open Avro

variable {σ τ α β : Type}

/-! ### Failures of the registry -/

/-- The failure that an outcome is, if it is one. -/
def failureOf : Outcome α → List Failure
  | .ok _ => []
  | .error (.failed failure) => [failure]
  | .error .crashed => []

/-- The registry whose failures are written down. -/
def Registry.watched (registry : Registry σ) : Registry (Logged Failure σ) where
  fetchById id := (registry.fetchById id).log failureOf
  fetchLatest coordinate := (registry.fetchLatest coordinate).log failureOf
  findByContent schema group := (registry.findByContent schema group).log failureOf
  findByFingerprint schema group := (registry.findByFingerprint schema group).log failureOf
  register coordinate schema type := (registry.register coordinate schema type).log failureOf
  checkExists coordinate := (registry.checkExists coordinate).log failureOf

/-- A registry answers the same when its failures are written down. -/
theorem Registry.watched_forgets (registry : Registry σ) :
    registry.watched.Forgets Logged.inner registry where
  fetchById _ := Action.log_forgets _ _
  fetchLatest _ := Action.log_forgets _ _
  findByContent _ _ := Action.log_forgets _ _
  findByFingerprint _ _ := Action.log_forgets _ _
  register _ _ _ := Action.log_forgets _ _
  checkExists _ := Action.log_forgets _ _

/-- A serializer on a registry, with no failures yet. -/
def Serializing.watched (state : Serializing σ) : Serializing (Logged Failure σ) :=
  ⟨state.serializer, ⟨state.registry, []⟩⟩

/-! ### Failures that will not pass -/

/-- If this is a failure, it will not pass. -/
def Lasting (outcome : Outcome α) : Prop :=
  ∀ failure, outcome = .error (.failed failure) → failure.retriable = false

namespace Lasting

/-- An answer is no failure. -/
theorem ok (a : α) : Lasting (.ok a) :=
  fun _ h => by contradiction

/-- A failure that says it will not pass does not. -/
theorem failed {failure : Failure} (h : failure.retriable = false) :
    Lasting (.error (.failed failure) : Outcome α) := by
  rintro _ ⟨⟩
  exact h

/-- What is refused fails in the given way and in no other. -/
theorem ofChecked {failure : Failure} (h : failure.retriable = false) (step : Checked α) :
    Lasting (Outcome.ofChecked failure step) := by
  rcases step with (_ | _) | a
  · exact failed h
  · rintro _ ⟨⟩
  · exact ok a

/-- In a sequence the failure is that of one of its steps. -/
theorem bind {first : Outcome α} {next : α → Outcome β} (h : Lasting first)
    (h' : ∀ a, Lasting (next a)) : Lasting (first >>= next) := by
  cases first with
  | ok a => exact h' a
  | error stop =>
      rintro failure hfailure
      exact h failure (congrArg Except.error (Except.error.inj hfailure))

end Lasting

/-- A message that is no frame is none later on. -/
theorem Frame.lasting_decode (message : Bytes) : Lasting (.ofExcept (Frame.decode message)) := by
  unfold Frame.decode
  split
  · split
    · exact .ok _
    · exact .failed rfl
  · exact .failed rfl

namespace ParsedSchema

/-- A document that has no schema has none later on. -/
theorem lasting_parse (id : UInt32) (document : Document) :
    Lasting (ParsedSchema.parse id document) :=
  (Lasting.ofChecked rfl _).bind fun _ => .ok _

/-- A value cannot be written with a schema: it does not resolve, or what it resolves to does not
fit. -/
def Refuses (schema : ParsedSchema) (v : Value) : Prop :=
  schema.schema.resolve? v = .error .refused ∨
    ∃ resolved, schema.schema.resolve? v = .ok resolved ∧
      schema.schema.encode? resolved = .error .refused

/-- A value is framed, unless the schema refuses it, which is a mismatch, or something breaks. -/
theorem frameValue_eq_failed_iff (schema : ParsedSchema) (v : Value) :
    (∃ failure, schema.frameValue v = .error (.failed failure)) ↔ schema.Refuses v := by
  rw [frameValue]
  rcases hresolved : schema.schema.resolve? v with (_ | _) | resolved
  · simp [Refuses, hresolved, Outcome.ofChecked]
  · simp [Refuses, hresolved, Outcome.ofChecked]
  · rcases hpayload : schema.schema.encode? resolved with (_ | _) | payload <;>
      simp [Refuses, hresolved, hpayload, Outcome.ofChecked]

/-- Whatever is wrong with a value is a mismatch that will not pass. -/
theorem frameValue_failed {schema : ParsedSchema} {v : Value} {failure : Failure}
    (h : schema.frameValue v = .error (.failed failure)) :
    ∃ message cause, failure = ⟨.schemaMismatch, message, some cause, false⟩ := by
  rw [frameValue] at h
  rcases hresolved : schema.schema.resolve? v with (_ | _) | resolved
  · rw [hresolved] at h
    exact ⟨_, _, (Stop.failed.inj (Except.error.inj h)).symm⟩
  · rw [hresolved] at h
    cases h
  · rw [hresolved, Outcome.ofChecked, Checked.ok_bind] at h
    rcases hpayload : schema.schema.encode? resolved with (_ | _) | payload <;> rw [hpayload] at h
    · exact ⟨_, _, (Stop.failed.inj (Except.error.inj h)).symm⟩
    · cases h
    · cases h

/-- A value that cannot be written as a schema cannot be later on. -/
theorem lasting_frameValue (schema : ParsedSchema) (v : Value) :
    Lasting (schema.frameValue v) := by
  intro failure h
  obtain ⟨message, cause, rfl⟩ := frameValue_failed h
  rfl

/-- An item that cannot be written as a schema cannot be later on. -/
theorem lasting_frameItem (schema : ParsedSchema) (model : Model α) (item : α) :
    Lasting (schema.frameItem model item) := by
  rw [frameItem]
  split
  · exact lasting_frameValue schema _
  · exact .failed rfl

end ParsedSchema

/-- A payload that cannot be read cannot be later on. -/
theorem lasting_readPayload (writer : Schema) (reader : Option Schema) (payload : Bytes) :
    Lasting (readPayload writer reader payload) := by
  rw [readPayload]
  split
  · exact .failed rfl
  · split
    · exact .ok _
    · exact .ofChecked rfl _

/-- A value that is no item of a model is none later on. -/
theorem Model.lasting_readItem (model : Model α) (v : Value) :
    Lasting (.ofExcept (model.readItem v)) := by
  rw [readItem]
  split
  · exact .ok _
  · exact .failed rfl

/-- A model without a schema has none later on. -/
theorem Model.lasting_readerSchema (model : Model α) : Lasting model.readerSchema :=
  .ofChecked rfl _

/-! ### Inside a boundary -/

/-- How an outcome came about, with the failures of the registry on the way: there were none and it
is an answer, a failure that will not pass, or no end; or it is the only one there was. -/
inductive Accounts : List Failure → Outcome α → Prop
  | answered (a : α) : Accounts [] (.ok a)
  | own {failure : Failure} (h : failure.retriable = false) :
      Accounts [] (.error (.failed failure))
  | asked (failure : Failure) : Accounts [failure] (.error (.failed failure))
  | crashed : Accounts [] (.error .crashed)

/-- What does not come from the registry accounts for itself: it is an answer, no end, or will not
pass. -/
theorem Lasting.accounts {outcome : Outcome α} (h : Lasting outcome) : Accounts [] outcome := by
  rcases outcome with (failure | _) | a
  · exact .own (h failure rfl)
  · exact .crashed
  · exact .answered a

/-- An outcome of the registry is accounted for by the failure that it is. -/
theorem accounts_failureOf (outcome : Outcome α) : Accounts (failureOf outcome) outcome := by
  rcases outcome with (failure | _) | a
  · exact .asked failure
  · exact .crashed
  · exact .answered a

/-- The failures that an action writes down account for its result. -/
def Action.Accounted (log : τ → List Failure) (action : Action τ α) : Prop :=
  ∀ state, ∃ added, log (action.perform state).2 = log state ++ added ∧
    Accounts added (action.perform state).1

namespace Action.Accounted

variable {log : τ → List Failure}

/-- An outcome that does not come from the registry needs no failure of it. -/
theorem ofOutcome {outcome : Outcome α} (h : Lasting outcome) :
    Accounted log (Action.ofOutcome outcome) :=
  fun state => ⟨[], (List.append_nil (log state)).symm, h.accounts⟩

/-- A value needs no failure of the registry. -/
theorem pure (a : α) : Accounted log (Pure.pure a : Action τ α) :=
  ofOutcome (.ok a)

/-- What a registry is asked, it answers, or it fails and that is written down. -/
theorem logged (action : Action σ α) : Accounted Logged.log (action.log failureOf) :=
  fun _ => ⟨failureOf _, rfl, accounts_failureOf _⟩

/-- A sequence stops at the first failure, of the registry or not, so there is at most one. -/
theorem bind {first : Action τ α} {next : α → Action τ β} (h : Accounted log first)
    (h' : ∀ a, Accounted log (next a)) : Accounted log (first >>= next) := by
  intro state
  obtain ⟨added, hadded, haccounts⟩ := h state
  rw [Action.perform_bind]
  rcases hfirst : first.perform state with ⟨result, after⟩
  rw [hfirst] at hadded haccounts
  cases haccounts with
  | own hlasting => exact ⟨[], hadded, .own hlasting⟩
  | asked failure => exact ⟨[failure], hadded, .asked failure⟩
  | crashed => exact ⟨[], hadded, .crashed⟩
  | answered a =>
      rw [List.append_nil] at hadded
      obtain ⟨later, hlater, haccounts'⟩ := h' a after
      exact ⟨later, hadded ▸ hlater, haccounts'⟩

/-- A lookup fails as one of its questions does, or because nothing was found. -/
theorem findSchema (registry : Registry σ) (schema : String) (group : Option String) :
    Accounted Logged.log (registry.watched.findSchema schema group) := by
  have hartifact : Accounted Logged.log (registry.watched.findArtifact schema group) := by
    refine (logged (registry.findByContent _ _)).bind fun found => ?_
    cases found with
    | some coordinate => exact pure (some coordinate)
    | none => exact logged (registry.findByFingerprint _ _)
  have hlasting : Lasting (.error (.failed noMatchingSchema) : Outcome (UInt32 × Document)) :=
    .failed rfl
  refine hartifact.bind fun found => ?_
  cases found with
  | some coordinate => exact logged (registry.fetchLatest coordinate)
  | none => exact ofOutcome hlasting

/-! #### Of a serializer -/

/-- What is asked of the registry through a serializer is accounted for as it is without one. -/
theorem ask {action : Action (Logged Failure σ) α} (h : Accounted Logged.log action) :
    Accounted (fun state => state.registry.log) (Serializing.ask action) :=
  fun state => h state.registry

/-- Parsing a document asks the registry for nothing, and fails for good. -/
theorem parse (id : UInt32) (document : Document) :
    Accounted (fun state : Serializing (Logged Failure σ) => state.registry.log)
      (Serializing.parse id document) := by
  intro state
  rw [Serializing.perform_parse]
  cases state.serializer.kept? id with
  | some schema => exact ⟨[], (List.append_nil _).symm, .answered schema⟩
  | none =>
      have haccounts := (ParsedSchema.lasting_parse id document).accounts
      cases hparse : ParsedSchema.parse id document with
      | ok schema => exact ⟨[], (List.append_nil _).symm, .answered schema⟩
      | error stop =>
          rw [hparse] at haccounts
          exact ⟨[], (List.append_nil _).symm, haccounts⟩

/-- The failure to get the schema of an id is that of the registry, or that of parsing its document.
-/
theorem schemaOf (registry : Registry σ) (id : UInt32) :
    Accounted (fun state => state.registry.log) (Serializing.schemaOf registry.watched id) := by
  intro state
  rw [Serializing.perform_schemaOf]
  cases state.serializer.kept? id with
  | some schema => exact ⟨[], (List.append_nil _).symm, .answered schema⟩
  | none => exact (ask (logged (registry.fetchById id))).bind (fun _ => parse id _) state

/-- The failure to open a message is that of its frame, of the registry, or of parsing the document.
-/
theorem openMessage (registry : Registry σ) (message : Bytes) :
    Accounted (fun state => state.registry.log)
      (Serializing.openMessage registry.watched message) :=
  (ofOutcome (Frame.lasting_decode message)).bind fun frame =>
    (schemaOf registry frame.1).bind fun _ => pure _

end Action.Accounted

/-! ### Boundaries -/

namespace Operation

/-- The kind of failure that an operation makes of all others. -/
def kind : Operation β → FailureKind
  | serialize _ _ _ => .serialization
  | serializeValue _ _ => .serialization
  | deserialize _ _ => .deserialization
  | deserializeWithSchema _ _ => .deserialization
  | deserializeValue _ => .deserialization

/-- The kinds of failure that an operation lets through as they are. -/
def passThrough : Operation β → List FailureKind
  | serialize _ _ _ => [.schemaMismatch, .schemaMatch]
  | serializeValue _ _ => [.schemaMismatch, .schemaMatch]
  | deserialize _ _ => []
  | deserializeWithSchema _ _ => []
  | deserializeValue _ => []

/-- The kinds of failure that the caller of an operation sees. -/
def failureKinds (operation : Operation β) : List FailureKind :=
  operation.kind :: operation.passThrough

/-- The message of the failures that an operation makes of others. -/
def message : Operation β → String
  | serialize _ _ (some id) => "Failed to serialize object with schema ID " ++ toString id
  | serialize _ _ none => "Failed to serialize object with automatic schema lookup"
  | serializeValue _ id => "Failed to serialize object with schema ID " ++ toString id
  | deserialize _ _ => "Failed to deserialize message"
  | deserializeWithSchema _ _ => "Failed to deserialize message"
  | deserializeValue _ => "Failed to deserialize message"

/-- What the caller of an operation sees, with the failures of the registry on the way. -/
inductive Surfaces (operation : Operation β) : List Failure → Outcome β → Prop
  /-- There is an answer, and there was no failure. -/
  | answered (b : β) : Surfaces operation [] (.ok b)
  /-- A failure of the registry is of a kind that the caller sees as it is. -/
  | passed {failure : Failure} (h : failure.kind ∈ operation.failureKinds) :
      Surfaces operation [failure] (.error (.failed failure))
  /-- A failure of the registry is of another kind, and becomes the cause. -/
  | wrapped {failure : Failure} (h : failure.kind ∉ operation.failureKinds) :
      Surfaces operation [failure] (.error (.failed
        ⟨operation.kind, operation.message, some failure.describe, failure.retriable⟩))
  /-- The registry did not fail, but the operation did, and it will again. -/
  | own {failure : Failure} (hkind : failure.kind ∈ operation.failureKinds)
      (hlasting : failure.retriable = false) : Surfaces operation [] (.error (.failed failure))
  /-- Nothing failed, but something broke, and the operation does not return. -/
  | crashed : Surfaces operation [] (.error .crashed)

/-- An operation fails with one of the kinds of its own or with one that it lets through. -/
theorem Surfaces.kind_mem {operation : Operation β} {failures : List Failure} {failure : Failure}
    (h : operation.Surfaces failures (.error (.failed failure))) :
    failure.kind ∈ operation.failureKinds := by
  cases h with
  | passed hkind => exact hkind
  | wrapped _ => exact List.mem_cons_self
  | own hkind _ => exact hkind

/-- A boundary shows the caller what accounts for the outcome inside. -/
theorem surfaces_of_accounts (operation : Operation β) {failures : List Failure}
    {outcome : Outcome β} (h : Accounts failures outcome) :
    operation.Surfaces failures (outcome.mapError (Stop.mapFailure fun failure =>
      failure.wrapUnless operation.kind operation.passThrough operation.message)) := by
  cases h with
  | answered b => exact .answered b
  | own hlasting =>
      exact .own (Failure.kind_wrapUnless _ _ _ _) ((Failure.retriable_wrapUnless _ _ _ _).trans
        hlasting)
  | crashed => exact .crashed
  | asked failure =>
      rw [Except.mapError, Stop.mapFailure]
      by_cases hkind : failure.kind ∈ operation.failureKinds
      · rw [Failure.wrapUnless_of_mem hkind]
        exact .passed hkind
      · rw [Failure.wrapUnless_of_not_mem hkind]
        exact .wrapped hkind

/-- Every operation has a boundary, and is accounted for inside. -/
theorem exists_eq_wrapping (registry : Registry σ) (operation : Operation β) :
    ∃ inside, operation.action registry.watched =
        Serializing.wrapping operation.kind operation.passThrough operation.message inside ∧
      inside.Accounted fun state => state.registry.log := by
  cases operation with
  | serialize model item id =>
      cases id with
      | some id =>
          exact ⟨_, rfl, (Action.Accounted.schemaOf registry id).bind fun schema =>
            .ofOutcome (schema.lasting_frameItem model item)⟩
      | none =>
          refine ⟨_, rfl, fun state => ?_⟩
          exact ((Action.Accounted.findSchema registry model.schema
            state.serializer.lookupGroup).ask.bind fun found =>
              (Action.Accounted.parse found.1 found.2).bind fun schema =>
                .ofOutcome (schema.lasting_frameItem model item)) state
  | serializeValue v id =>
      exact ⟨_, rfl, (Action.Accounted.schemaOf registry id).bind fun schema =>
        .ofOutcome (schema.lasting_frameValue v)⟩
  | deserialize model message =>
      exact ⟨_, rfl, (Action.Accounted.openMessage registry message).bind fun _ =>
        (Action.Accounted.ofOutcome model.lasting_readerSchema).bind fun _ =>
          (Action.Accounted.ofOutcome (lasting_readPayload _ _ _)).bind fun v =>
            .ofOutcome (model.lasting_readItem v)⟩
  | deserializeWithSchema model message =>
      exact ⟨_, rfl, (Action.Accounted.openMessage registry message).bind fun _ =>
        (Action.Accounted.ofOutcome (lasting_readPayload _ _ _)).bind fun v =>
          (Action.Accounted.ofOutcome (model.lasting_readItem v)).bind fun _ => .pure _⟩
  | deserializeValue message =>
      exact ⟨_, rfl, (Action.Accounted.openMessage registry message).bind fun _ =>
        (Action.Accounted.ofOutcome (lasting_readPayload _ _ _)).bind fun _ => .pure _⟩

/-- The failures that a registry answers with while an operation is done. -/
def failures (registry : Registry σ) (operation : Operation β) (state : Serializing σ) :
    List Failure :=
  ((operation.action registry.watched).perform state.watched).2.registry.log

/-- The caller sees what surfaces of the failures of the registry. -/
theorem surfaces (registry : Registry σ) (operation : Operation β) (state : Serializing σ) :
    operation.Surfaces (operation.failures registry state)
      ((operation.action registry).perform state).1 := by
  have hforgets := operation.forgets_onRegistry registry.watched_forgets state.watched
  have hplain : Serializing.onRegistry Logged.inner state.watched = state := rfl
  rw [hplain] at hforgets
  obtain ⟨inside, hwrapping, haccounted⟩ := operation.exists_eq_wrapping registry
  obtain ⟨added, hadded, haccounts⟩ := haccounted state.watched
  have hfailures : operation.failures registry state = added := by
    rw [failures, hwrapping, Serializing.perform_wrapping]
    exact hadded
  rw [hforgets, hfailures, hwrapping, Serializing.perform_wrapping]
  exact operation.surfaces_of_accounts haccounts

end Operation

/-! ### Mismatches -/

namespace Writing

/-- The schema that is written with: the one of the id that was given, or else the one that is found
for the schema of the model. -/
def schema (registry : Registry σ) : Writing → Action (Serializing σ) ParsedSchema
  | item _ _ (some id) => Serializing.schemaOf registry id
  | item model _ none => do
    let group := (← get).serializer.lookupGroup
    let (id, document) ← Serializing.ask (registry.findSchema model.schema group)
    Serializing.parse id document
  | value _ id => Serializing.schemaOf registry id

/-- The message, written with a schema. -/
def frame : Writing → ParsedSchema → Outcome Bytes
  | item model i _, schema => schema.frameItem model i
  | value v _, schema => schema.frameValue v

/-- To write a message is to get a schema and to frame the value with it. -/
theorem action_eq (registry : Registry σ) (writing : Writing) :
    writing.operation.action registry =
      Serializing.wrapping .serialization [.schemaMismatch, .schemaMatch] writing.operation.message
        (writing.schema registry >>= fun schema => Action.ofOutcome (writing.frame schema)) := by
  cases writing with
  | value v id => rfl
  | item model i id =>
      cases id with
      | some id => rfl
      | none =>
          simp only [schema, bind_assoc]
          rfl

/-- What has a value is framed as this value. -/
theorem frame_eq {writing : Writing} {v : Value} (h : writing.value? = some v)
    (schema : ParsedSchema) : writing.frame schema = schema.frameValue v := by
  cases writing with
  | value own id =>
      obtain rfl := Option.some.inj h
      rfl
  | item model i id =>
      have hvalue : model.toValue i = some v := h
      rw [frame, ParsedSchema.frameItem, hvalue]

/-- A value that the schema refuses is a mismatch for the caller. -/
theorem mismatch {registry : Registry σ} {writing : Writing} {state : Serializing σ}
    {schema : ParsedSchema} {v : Value}
    (hschema : ((writing.schema registry).perform state).1 = .ok schema)
    (hv : writing.value? = some v) (hrefuses : schema.Refuses v) :
    ∃ message cause, ((writing.operation.action registry).perform state).1 =
      .error (.failed ⟨.schemaMismatch, message, some cause, false⟩) := by
  obtain ⟨failure, hframe⟩ := (schema.frameValue_eq_failed_iff v).2 hrefuses
  obtain ⟨message, cause, rfl⟩ := ParsedSchema.frameValue_failed hframe
  refine ⟨message, cause, ?_⟩
  rw [action_eq, Serializing.perform_wrapping, Action.perform_bind]
  rcases hperform : (writing.schema registry).perform state with ⟨result, after⟩
  rw [hperform] at hschema
  obtain rfl : result = .ok schema := hschema
  simp only [Action.perform_ofOutcome, frame_eq hv, hframe, Except.mapError, Stop.mapFailure]
  rw [Failure.wrapUnless_of_mem (by simp)]

end Writing

/-! ### Any registry -/

/-- What a registry fails with that cannot be reached. -/
def unreachable : Failure :=
  .retriableRegistry "no answer" "the registry cannot be reached"

/-- A registry that has one document, and cannot be reached for anything else. -/
def lonely : Registry Unit where
  fetchById id := .answer fun _ =>
    if id = 1 then .ok (.bare (.string "long")) else .error (.failed unreachable)
  fetchLatest _ := .answer fun _ => .error (.failed unreachable)
  findByContent _ _ := .answer fun _ => .error (.failed unreachable)
  findByFingerprint _ _ := .answer fun _ => .error (.failed unreachable)
  register _ _ _ := .answer fun _ => .error (.failed unreachable)
  checkExists _ := .answer fun _ => .error (.failed unreachable)

end FramedAvro
