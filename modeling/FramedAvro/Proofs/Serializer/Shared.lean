import FramedAvro.Proofs.Model.Small
import FramedAvro.Proofs.Registry.Fetch
import FramedAvro.Proofs.Serializer.RoundTrip

/-!
# Serializers that share a registry

Any number of serializers work on one registry in memory, each with schemas of its own that it
keeps, while schemas are registered. Whatever they do, each of them keeps right schemas only, and no
document changes; so it does not matter which serializer wrote a message and which one reads it.

## Main definitions

* `Shared`: the registry with its serializers, and `Shared.Step` what may happen to them.
* `Shared.Sound`: what every step keeps.

## Main results

* `Shared.Sound.after`: steps keep everything right, and every document.
* `Shared.Sound.exists_message`: items of flat records are read back by every serializer.
* `Shared.deserialize_serialize`: small items are, once the schema of their model was registered.
-/

namespace FramedAvro

open Avro Sample

/-- A registry in memory with the serializers that work on it, each under a number. -/
structure Shared where
  memory : Memory
  serializers : Nat → Serializer

namespace Shared

/-- A new registry, on which no serializer did anything yet. -/
def start : Shared :=
  ⟨.empty, fun _ => .standard⟩

variable {β : Type}

/-- What a serializer answers to an operation and leaves behind. -/
def perform (shared : Shared) (number : Nat) (operation : Operation β) :
    Outcome β × Serializing Memory :=
  (operation.action Memory.registry).perform ⟨shared.serializers number, shared.memory⟩

/-- A step: a schema is registered, a serializer is made under a number, or the serializer of a
number does an operation. -/
inductive Step : Type 1
  | register (call : Registration)
  | make (number : Nat) (keepsSchemas : Bool) (group : Option String)
  | operate {β : Type} (number : Nat) (operation : Operation β)

/-- What is there after a step. -/
def next (shared : Shared) : Step → Shared
  | .register call => { shared with memory := (call.action.perform shared.memory).2 }
  | .make number keepsSchemas group =>
    { shared with
      serializers := Function.update shared.serializers number (.make keepsSchemas group) }
  | .operate number operation =>
    let after := (shared.perform number operation).2
    ⟨after.registry, Function.update shared.serializers number after.serializer⟩

/-- What is there after steps, one after the other. -/
def after (shared : Shared) (steps : List Step) : Shared :=
  steps.foldl next shared

/-- Steps one after the other are done one after the other. -/
theorem after_append (shared : Shared) (first last : List Step) :
    shared.after (first ++ last) = (shared.after first).after last :=
  List.foldl_append

/-- Documents are faithful to what was registered, and every serializer keeps right schemas. -/
structure Sound (shared : Shared) : Prop where
  faithful : shared.memory.Faithful
  filled : ∀ number, (shared.serializers number).FilledFrom shared.memory

/-- Nothing is shared in the beginning, so nothing wrong. -/
theorem sound_start : Sound start :=
  ⟨Memory.faithful_empty, fun _ => Serializer.filledFrom_make true none _⟩

/-- An operation leaves the registry alone, and right schemas behind. -/
theorem Sound.perform {shared : Shared} (h : shared.Sound) (number : Nat)
    (operation : Operation β) :
    ∃ serializer, (shared.perform number operation).2 = ⟨serializer, shared.memory⟩ ∧
      serializer.FilledFrom shared.memory := by
  obtain ⟨result, hanswers⟩ :=
    operation.answers shared.memory (shared.serializers number).lookupGroup
  obtain ⟨serializer, hperform, -, hfilled⟩ := hanswers _ rfl (h.filled number)
  exact ⟨serializer, congrArg Prod.snd hperform, hfilled⟩

/-- Putting a serializer with right schemas under a number keeps everything right. -/
theorem Sound.update {shared : Shared} (h : shared.Sound) (number : Nat) {serializer : Serializer}
    (hfilled : serializer.FilledFrom shared.memory) :
    Sound { shared with
      serializers := Function.update shared.serializers number serializer } where
  faithful := h.faithful
  filled := (Function.forall_update_iff shared.serializers
    fun _ serializer => serializer.FilledFrom shared.memory).2
    ⟨hfilled, fun other _ => h.filled other⟩

/-- A step keeps everything right, and every document. -/
theorem Sound.next {shared : Shared} (h : shared.Sound) (step : Step) :
    (shared.next step).Sound ∧ Memory.Grows shared.memory (shared.next step).memory := by
  cases step with
  | register call =>
      have hgrows := call.grows shared.memory
      have hfaithful : (call.action.perform shared.memory).2.Faithful :=
        call.preserves (fun hcontent stores => stores.faithful hcontent) h.faithful
      exact ⟨⟨hfaithful, fun number => (h.filled number).grows hgrows⟩, hgrows⟩
  | make number keepsSchemas group =>
      have hmade := Serializer.filledFrom_make keepsSchemas group shared.memory
      exact ⟨h.update number hmade, Memory.Grows.refl _⟩
  | operate number operation =>
      obtain ⟨serializer, hperform, hfilled⟩ := h.perform number operation
      rw [Shared.next, hperform]
      exact ⟨h.update number hfilled, Memory.Grows.refl _⟩

/-- Steps keep everything right, and every document. -/
theorem Sound.after {shared : Shared} (h : shared.Sound) (steps : List Step) :
    (shared.after steps).Sound ∧ Memory.Grows shared.memory (shared.after steps).memory := by
  induction steps generalizing shared with
  | nil => exact ⟨h, Memory.Grows.refl _⟩
  | cons step rest ih =>
      obtain ⟨hnext, hgrows⟩ := h.next step
      obtain ⟨hafter, hmore⟩ := ih hnext
      exact ⟨hafter, hgrows.trans hmore⟩

/-! ### Messages of flat records -/

variable {α : Type} {model : Model α}

/-- A schema of flat records that was registered is the one its id is parsed to. -/
theorem schemaOf_of_perform (flat : model.Flat) {memory : Memory} (hmemory : memory.Faithful)
    {call : Registration} (hcall : call.schema = model.schema) {id : UInt32}
    (hid : (call.action.perform memory).1 = .ok id) :
    (call.action.perform memory).2.schemaOf id =
      .ok ⟨id, .bare flat.document, flat.schema⟩ := by
  have hfetched : (call.action.perform memory).2.fetchById id = .ok (.bare flat.document) := by
    rw [← flat.ofBody_schema, ← hcall]
    exact Registration.fetchById_eq_ofBody hmemory hid []
  rw [Memory.schemaOf_eq_parse hfetched]
  exact ParsedSchema.parse_eq_ok_iff.2 ⟨rfl, rfl, flat.parse?_text⟩

/-- Every serializer writes an item that the schema of the id frames. -/
theorem Sound.serialize {shared : Shared} (h : shared.Sound) {id : UInt32} {schema : ParsedSchema}
    (hschema : shared.memory.schemaOf id = .ok schema) {item : α} {message : Bytes}
    (hframe : schema.frameItem model item = .ok message) (number : Nat) :
    (shared.perform number (.serialize model item (some id))).1 = .ok message := by
  obtain ⟨wrap, hanswers⟩ := Answers.serializeById model item id
  obtain ⟨after, hperform, -⟩ := hanswers _ rfl (h.filled number)
  rw [Shared.perform, Operation.action, Serializing.serialize, hperform, hschema, Except.bind,
    hframe]
  rfl

/-- Every serializer reads the item of a payload with the schema that it was written with. -/
theorem Sound.deserialize {shared : Shared} (h : shared.Sound) {id : UInt32}
    {writer : ParsedSchema} (hschema : shared.memory.schemaOf id = .ok writer) {reader : Schema}
    (hreader : model.readerSchema = .ok reader) {payload : Bytes} {v : Value}
    (hread : readPayload writer.schema (some reader) payload = .ok v) {item : α}
    (hitem : model.readItem v = .ok item) (number : Nat) :
    (shared.perform number (.deserialize model (Frame.encode id payload))).1 = .ok item := by
  obtain ⟨wrap, hanswers⟩ := Answers.deserialize model (Frame.encode id payload)
  obtain ⟨after, hperform, -⟩ := hanswers _ rfl (h.filled number)
  rw [Shared.perform, Operation.action, hperform, Frame.decode_encode, Outcome.ofExcept_ok,
    Except.bind, hschema, Except.bind, Except.bind, hreader, Except.bind, hread, Except.bind, hitem]
  rfl

/-- Every serializer writes an item of flat records with the schema of an id that has the columns,
and every serializer reads it back, then and after any more steps. -/
theorem Sound.exists_message {shared : Shared} (h : shared.Sound) (flat : model.Flat) {item : α}
    (hlegible : (Value.record (flat.contents item)).Legible) {id : UInt32}
    (hschema : shared.memory.schemaOf id = .ok ⟨id, .bare flat.document, flat.schema⟩)
    (writer : Nat) :
    let writing : Operation Bytes := .serialize model item (some id)
    ∃ message, (shared.perform writer writing).1 = .ok message ∧
      ∀ (later : List Step) (reader : Nat),
        (((shared.next (.operate writer writing)).after later).perform reader
          (.deserialize model message)).1 = .ok item := by
  intro writing
  obtain ⟨payload, hframe, hread⟩ := flat.exists_frameItem id (.bare flat.document) item hlegible
  refine ⟨Frame.encode id payload, h.serialize hschema hframe writer, ?_⟩
  intro later reader
  -- The document of the id is still there when the message is read.
  obtain ⟨hwritten, hgrows⟩ := h.next (.operate writer writing)
  obtain ⟨hlater, hmore⟩ := hwritten.after later
  exact hlater.deserialize ((hgrows.trans hmore).schemaOf hschema) flat.readerSchema_eq hread
    (flat.readItem_contents item) reader

/-- Every serializer writes a small item whose texts are not too long with the schema that was
registered for its model, and every serializer reads it back, then and after any more steps. -/
theorem deserialize_serialize (small : Small) (item : small.Item)
    (htexts : ∀ text ∈ small.texts item, (Utf8.encode text).length ≤ Varint.maxSize)
    (before between : List Step) {call : Registration} (hcall : call.schema = small.model.schema)
    {id : UInt32} (hid : (call.action.perform (start.after before).memory).1 = .ok id)
    (writer : Nat) :
    let shared := start.after (before ++ .register call :: between)
    let writing : Operation Bytes := .serialize small.model item (some id)
    ∃ message, (shared.perform writer writing).1 = .ok message ∧
      ∀ (later : List Step) (reader : Nat),
        (((shared.next (.operate writer writing)).after later).perform reader
          (.deserialize small.model message)).1 = .ok item := by
  intro shared writing
  obtain ⟨hbefore, -⟩ := sound_start.after before
  have hregistered := schemaOf_of_perform small.flat hbefore.faithful hcall hid
  obtain ⟨hnext, -⟩ := hbefore.next (.register call)
  obtain ⟨hshared, hgrows⟩ := hnext.after between
  have hsplit : shared = ((start.after before).next (.register call)).after between :=
    after_append start before _
  rw [← hsplit] at hshared hgrows
  exact hshared.exists_message small.flat (Small.legible htexts) (hgrows.schemaOf hregistered)
    writer

/-- A registry with another schema, and a serializer that keeps none. -/
def longFirst : List Step :=
  [.register (.register ⟨"shop", "order"⟩ "\"long\"" .avro), .make 1 false none]

/-- The schema of orders with a quantity is registered. -/
def orderCall : Registration :=
  .register ⟨"shop", "order"⟩ Small.orderV2.model.schema .avro

/-- An order with the least numbers there are. -/
def tea : Small.orderV2.Item :=
  (⟨Int64.minValue, "thé", Int32.minValue⟩ : OrderV2)

/-- An order that is written and read back, with registrations of other schemas before it and after
it. -/
theorem deserialize_serialize_tea :
    (∀ text ∈ Small.orderV2.texts tea, (Utf8.encode text).length ≤ Varint.maxSize) ∧
      orderCall.schema = Small.orderV2.model.schema ∧
      (orderCall.action.perform (start.after longFirst).memory).1 = .ok 2 ∧
      let shared := start.after (longFirst ++ [.register orderCall])
      let writing : Operation Bytes := .serialize Small.orderV2.model tea (some 2)
      ∃ message, (shared.perform 0 writing).1 = .ok message ∧
        ∀ reader, (((shared.next (.operate 0 writing)).after [.register orderCall]).perform reader
          (.deserialize Small.orderV2.model message)).1 = .ok tea := by
  have htexts : ∀ text ∈ Small.orderV2.texts tea, (Utf8.encode text).length ≤ Varint.maxSize := by
    simp only [Small.texts, tea, List.mem_singleton, forall_eq]
    decide
  have hcall : orderCall.schema = Small.orderV2.model.schema := rfl
  have hcontent : schemaJson Small.orderV2.model.schema = .ok Small.orderV2.flat.document := by
    rw [schemaJson, Small.orderV2.flat.schema_eq]
    rfl
  have hid : (orderCall.action.perform (start.after longFirst).memory).1 = .ok 2 := by
    rw [orderCall, Registration.perform_register hcontent]
    cbv
  obtain ⟨message, hwritten, hread⟩ :=
    deserialize_serialize .orderV2 tea htexts longFirst [] hcall hid 0
  exact ⟨htexts, hcall, hid, message, hwritten, fun reader => hread _ reader⟩

end Shared

end FramedAvro
