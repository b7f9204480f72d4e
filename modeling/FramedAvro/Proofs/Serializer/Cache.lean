import Mathlib
import FramedAvro.Proofs.Registry.Lookup
import FramedAvro.Serializer.Basic

/-!
# The kept schemas

A serializer on a registry in memory keeps a schema only when the document of its id parses to it,
and documents stay as they are while the registry grows. So what a serializer answers is a function
of the registry and of the group it looks schemas up in, whatever it keeps: `Answers` says so of one
action, and holds of sequences and boundaries when it holds of their parts.

## Main results

* `Operation.answers`: every operation has one answer for all serializers with right schemas.
* `Twins.same_answer`: a serializer that keeps schemas and one that does not, side by side on one
  registry, answer alike in every run.
-/

namespace FramedAvro

open Avro

variable {σ α β : Type}

/-! ### Operations -/

/-- An operation of a serializer, with the type of its answers. -/
inductive Operation : Type → Type 1
  | serialize {α : Type} (model : Model α) (item : α) (id : Option UInt32) : Operation Bytes
  | serializeValue (v : Value) (id : UInt32) : Operation Bytes
  | deserialize {α : Type} (model : Model α) (message : Bytes) : Operation α
  | deserializeWithSchema {α : Type} (model : Model α) (message : Bytes) : Operation (α × Document)
  | deserializeValue (message : Bytes) : Operation (Option Name × Value)

/-- What an operation does on a registry. -/
def Operation.action (registry : Registry σ) : Operation β → Action (Serializing σ) β
  | serialize model item id => Serializing.serialize registry model item id
  | serializeValue v id => Serializing.serializeValue registry v id
  | deserialize model message => Serializing.deserialize registry model message
  | deserializeWithSchema model message => Serializing.deserializeWithSchema registry model message
  | deserializeValue message => Serializing.deserializeValue registry message

/-! ### Parsing -/

namespace Serializing

/-- What parsing answers and leaves behind. -/
theorem perform_parse (id : UInt32) (document : Document) (state : Serializing σ) :
    (parse id document).perform state =
      match state.serializer.kept? id with
      | some schema => (.ok schema, state)
      | none =>
        match ParsedSchema.parse id document with
        | .ok schema => (.ok schema, { state with serializer := state.serializer.keep schema })
        | .error stop => (.error stop, state) := by
  rw [parse, Action.perform_bind, Action.perform_get]
  cases hkept : state.serializer.kept? id with
  | some schema => simp [hkept]
  | none =>
      simp only [hkept, Action.perform_bind, Action.perform_ofOutcome]
      cases ParsedSchema.parse id document <;> rfl

/-- The schema of an id is the one that is kept, or else its document is fetched and parsed. -/
theorem perform_schemaOf (registry : Registry σ) (id : UInt32) (state : Serializing σ) :
    (schemaOf registry id).perform state =
      match state.serializer.kept? id with
      | some schema => (.ok schema, state)
      | none => (ask (registry.fetchById id) >>= parse id).perform state := by
  rw [schemaOf, Action.perform_bind, Action.perform_get]
  cases hkept : state.serializer.kept? id with
  | some schema => simp [hkept]
  | none => simp [hkept]

/-- A boundary changes nothing but how a failure is seen. -/
theorem perform_wrapping (kind : FailureKind) (pass : List FailureKind) (message : String)
    (action : Action (Serializing σ) α) (state : Serializing σ) :
    (wrapping kind pass message action).perform state =
      ((action.perform state).1.mapError
          (.mapFailure fun failure => failure.wrapUnless kind pass message),
        (action.perform state).2) := rfl

end Serializing

/-! ### Right schemas -/

/-- The schema that the document of an id parses to. -/
def Memory.schemaOf (memory : Memory) (id : UInt32) : Outcome ParsedSchema := do
  ParsedSchema.parse id (← Outcome.ofExcept (memory.fetchById id))

/-- The schema of an id is parsed from the document of the id. -/
theorem Memory.schemaOf_eq_parse {memory : Memory} {id : UInt32} {document : Document}
    (h : memory.fetchById id = .ok document) :
    memory.schemaOf id = ParsedSchema.parse id document := by
  rw [schemaOf, h]
  rfl

/-- An id that has a schema has the same one when nothing is lost. -/
theorem Memory.Grows.schemaOf {memory after : Memory} (h : Grows memory after) {id : UInt32}
    {schema : ParsedSchema} (hid : memory.schemaOf id = .ok schema) :
    after.schemaOf id = .ok schema := by
  cases hdocument : memory.fetchById id with
  | error failure =>
      rw [Memory.schemaOf, hdocument] at hid
      contradiction
  | ok document =>
      rw [schemaOf_eq_parse hdocument] at hid
      rw [schemaOf_eq_parse (h.fetchById hdocument)]
      exact hid

/-- A parsed schema has the id it was parsed for. -/
theorem ParsedSchema.id_of_parse {id : UInt32} {document : Document} {schema : ParsedSchema}
    (h : ParsedSchema.parse id document = .ok schema) : schema.id = id :=
  (parse_eq_ok_iff.1 h).1

/-- A parsed schema has the document it was parsed from. -/
theorem ParsedSchema.document_of_parse {id : UInt32} {document : Document} {schema : ParsedSchema}
    (h : ParsedSchema.parse id document = .ok schema) : schema.document = document :=
  (parse_eq_ok_iff.1 h).2.1

/-- A parsed schema is the one that the text of its document describes. -/
theorem ParsedSchema.parse?_of_parse {id : UInt32} {document : Document} {schema : ParsedSchema}
    (h : ParsedSchema.parse id document = .ok schema) :
    Schema.parse? document.text = .ok schema.schema :=
  (parse_eq_ok_iff.1 h).2.2

namespace Serializer

/-- Every schema that is kept is the one that the document of its id in the registry parses to. -/
def FilledFrom (serializer : Serializer) (memory : Memory) : Prop :=
  ∀ id schema, serializer.kept? id = some schema → memory.schemaOf id = .ok schema

/-- A new serializer keeps nothing, so nothing wrong. -/
theorem filledFrom_make (keepsSchemas : Bool) (group : Option String) (memory : Memory) :
    (make keepsSchemas group).FilledFrom memory := by
  intro id schema h
  cases keepsSchemas <;> simp [kept?, make] at h

/-- What is kept stays right when nothing in the registry is lost. -/
theorem FilledFrom.grows {serializer : Serializer} {memory after : Memory}
    (h : serializer.FilledFrom memory) (hgrows : Memory.Grows memory after) :
    serializer.FilledFrom after :=
  fun id schema hid => hgrows.schemaOf (h id schema hid)

/-- A schema that is kept is found under its id, if schemas are kept at all. -/
theorem kept?_keep (serializer : Serializer) (schema : ParsedSchema) (id : UInt32) :
    (serializer.keep schema).kept? id =
      if serializer.keepsSchemas = true ∧ id = schema.id then some schema
      else serializer.kept? id := by
  cases hkeeps : serializer.keepsSchemas
  · simp [keep, hkeeps]
  · simp [keep, kept?, hkeeps, Table.get?_insert]

/-- Keeping one more schema is right when it is that of its id. -/
theorem FilledFrom.keep {serializer : Serializer} {memory : Memory}
    (h : serializer.FilledFrom memory) {schema : ParsedSchema}
    (hschema : memory.schemaOf schema.id = .ok schema) :
    (serializer.keep schema).FilledFrom memory := by
  intro id own hown
  rw [kept?_keep] at hown
  split at hown
  · next hboth =>
      obtain rfl := Option.some.inj hown
      rw [hboth.2]
      exact hschema
  · exact h id own hown

/-- The settings of a serializer besides what it keeps. -/
def SameSettings (serializer other : Serializer) : Prop :=
  serializer.keepsSchemas = other.keepsSchemas ∧ serializer.lookupGroup = other.lookupGroup

/-- Keeping a schema changes no settings. -/
theorem sameSettings_keep (serializer : Serializer) (schema : ParsedSchema) :
    SameSettings serializer (serializer.keep schema) := by
  rw [keep]
  split <;> exact ⟨rfl, rfl⟩

end Serializer

/-! ### Answers that do not depend on what is kept -/

/-- Every serializer for the group that keeps right schemas gets the result, and leaves the registry
as it is and right schemas behind. -/
def Answers (memory : Memory) (group : Option String) (action : Action (Serializing Memory) α)
    (result : Outcome α) : Prop :=
  ∀ serializer : Serializer, serializer.lookupGroup = group → serializer.FilledFrom memory →
    ∃ after : Serializer, action.perform ⟨serializer, memory⟩ = (result, ⟨after, memory⟩) ∧
      serializer.SameSettings after ∧ after.FilledFrom memory

namespace Answers

open Serializing

variable {memory : Memory} {group : Option String}

/-- An outcome that is there already does not depend on what is kept. -/
theorem ofOutcome (result : Outcome α) :
    Answers memory group (Action.ofOutcome result) result :=
  fun serializer _ hfilled => ⟨serializer, rfl, ⟨rfl, rfl⟩, hfilled⟩

/-- A result that is there already does not depend on what is kept. -/
theorem ofExcept (result : Except Failure α) :
    Answers memory group (Action.ofExcept result) (.ofExcept result) :=
  ofOutcome (.ofExcept result)

/-- A value does not depend on what is kept. -/
theorem pure (a : α) : Answers memory group (Pure.pure a) (.ok a) :=
  ofOutcome (.ok a)

/-- A sequence answers what its second action answers, or fails as the first. -/
theorem bind {first : Action (Serializing Memory) α} {next : α → Action (Serializing Memory) β}
    {result : Outcome α} {last : α → Outcome β}
    (h : Answers memory group first result)
    (h' : ∀ a, result = .ok a → Answers memory group (next a) (last a)) :
    Answers memory group (first >>= next) (result.bind last) := by
  intro serializer hgroup hfilled
  obtain ⟨middle, hfirst, hsame, hmiddle⟩ := h serializer hgroup hfilled
  rw [Action.perform_bind, hfirst]
  cases result with
  | error stop => exact ⟨middle, rfl, hsame, hmiddle⟩
  | ok a =>
      obtain ⟨after, hnext, hsame', hafter⟩ :=
        h' a rfl middle (hsame.2.symm.trans hgroup) hmiddle
      exact ⟨after, hnext, ⟨hsame.1.trans hsame'.1, hsame.2.trans hsame'.2⟩, hafter⟩

/-- A boundary wraps a failure in the same way whatever is kept. -/
theorem wrapping {action : Action (Serializing Memory) α} {result : Outcome α}
    (h : Answers memory group action result) (kind : FailureKind) (pass : List FailureKind)
    (message : String) :
    Answers memory group (Serializing.wrapping kind pass message action)
      (result.mapError (.mapFailure fun failure => failure.wrapUnless kind pass message)) := by
  intro serializer hgroup hfilled
  obtain ⟨after, haction, hsame, hafter⟩ := h serializer hgroup hfilled
  refine ⟨after, ?_, hsame, hafter⟩
  rw [perform_wrapping, haction]

/-- A question to the registry that leaves it alone. -/
theorem ask {action : Action Memory α} {result : Outcome α}
    (h : action.perform memory = (result, memory)) :
    Answers memory group (Serializing.ask action) result := by
  intro serializer _ hfilled
  refine ⟨serializer, ?_, ⟨rfl, rfl⟩, hfilled⟩
  rw [Serializing.ask, Action.perform_onPart, h]

/-- The document of an id is parsed, or the schema that is kept for it is the same. -/
theorem parse {id : UInt32} {document : Document} (h : memory.fetchById id = .ok document) :
    Answers memory group (Serializing.parse id document) (memory.schemaOf id) := by
  intro serializer _ hfilled
  rw [perform_parse]
  cases hkept : serializer.kept? id with
  | some schema => exact ⟨serializer, by rw [hfilled id schema hkept], ⟨rfl, rfl⟩, hfilled⟩
  | none =>
      rw [Memory.schemaOf_eq_parse h]
      cases hparse : ParsedSchema.parse id document with
      | error stop => exact ⟨serializer, rfl, ⟨rfl, rfl⟩, hfilled⟩
      | ok schema =>
          have hschema : memory.schemaOf id = .ok schema :=
            (Memory.schemaOf_eq_parse h).trans hparse
          exact ⟨serializer.keep schema, rfl, serializer.sameSettings_keep schema,
            hfilled.keep (ParsedSchema.id_of_parse hparse ▸ hschema)⟩

/-- The schema of an id is the one that its document parses to. -/
theorem schemaOf (id : UInt32) :
    Answers memory group (Serializing.schemaOf Memory.registry id) (memory.schemaOf id) := by
  intro serializer hgroup hfilled
  rw [perform_schemaOf]
  cases hkept : serializer.kept? id with
  | some schema => exact ⟨serializer, by rw [hfilled id schema hkept], ⟨rfl, rfl⟩, hfilled⟩
  | none =>
      have hfetch : Answers memory group (Serializing.ask (Memory.registry.fetchById id))
          (.ofExcept (memory.fetchById id)) := ask rfl
      obtain ⟨after, haction, hsame, hafter⟩ :=
        hfetch.bind (fun document hdocument => parse (Outcome.ofExcept_eq_ok_iff.1 hdocument))
          serializer hgroup hfilled
      refine ⟨after, haction.trans (congrArg (·, _) ?_), hsame, hafter⟩
      cases hdocument : memory.fetchById id with
      | ok document => rfl
      | error failure =>
          rw [Memory.schemaOf, hdocument]
          rfl

/-- Every serializer for the group looks schemas up in it. -/
theorem lookupGroup (next : Option String → Action (Serializing Memory) α)
    {result : Outcome α} (h : Answers memory group (next group) result) :
    Answers memory group (get >>= fun state => next state.serializer.lookupGroup) result := by
  intro serializer hgroup hfilled
  rw [Action.perform_bind, Action.perform_get]
  simp only [hgroup]
  exact h serializer hgroup hfilled

/-- An item is written with the schema that is found for its model, and that is parsed at once. -/
theorem serializeByLookup (model : Model α) (item : α) :
    ∃ wrap, Answers memory group (Serializing.serializeByLookup Memory.registry model item)
      (((memory.findSchema model.schema group).bind fun found =>
        (memory.schemaOf found.1).bind fun schema =>
          schema.frameItem model item).mapError wrap) := by
  have hfind : Answers memory group
      (Serializing.ask (Memory.registry.findSchema model.schema group))
      (memory.findSchema model.schema group) :=
    ask (memory.perform_findSchema model.schema group)
  have hwrite : Answers memory group
      (Serializing.ask (Memory.registry.findSchema model.schema group) >>= fun found =>
        Serializing.parse found.1 found.2 >>= fun schema =>
          Action.ofOutcome (schema.frameItem model item))
      ((memory.findSchema model.schema group).bind fun found =>
        (memory.schemaOf found.1).bind fun schema => schema.frameItem model item) :=
    hfind.bind fun found hfound =>
      (parse (Memory.fetchById_of_findSchema hfound)).bind fun schema _ => ofOutcome _
  exact ⟨_, (lookupGroup (fun group =>
    Serializing.ask (Memory.registry.findSchema model.schema group) >>= fun found =>
      Serializing.parse found.1 found.2 >>= fun schema =>
        Action.ofOutcome (schema.frameItem model item)) hwrite).wrapping _ _ _⟩

/-- An item is written with the schema of the id. -/
theorem serializeById (model : Model α) (item : α) (id : UInt32) :
    ∃ wrap, Answers memory group (Serializing.serializeById Memory.registry model item id)
      (((memory.schemaOf id).bind fun schema => schema.frameItem model item).mapError wrap) :=
  ⟨_, ((schemaOf id).bind fun _ _ => ofOutcome _).wrapping _ _ _⟩

/-- A value is written with the schema of the id. -/
theorem serializeValue (v : Value) (id : UInt32) :
    ∃ wrap, Answers memory group (Serializing.serializeValue Memory.registry v id)
      (((memory.schemaOf id).bind fun schema => schema.frameValue v).mapError wrap) :=
  ⟨_, ((schemaOf id).bind fun _ _ => ofOutcome _).wrapping _ _ _⟩

/-- The schema and the payload of a message. -/
theorem openMessage (message : Bytes) :
    Answers memory group (Serializing.openMessage Memory.registry message)
      ((Outcome.ofExcept (Frame.decode message)).bind fun frame =>
        (memory.schemaOf frame.1).bind fun writer => .ok (writer, frame.2)) :=
  (ofExcept _).bind fun frame _ => (schemaOf frame.1).bind fun writer _ => pure (writer, frame.2)

/-- An item is read with the schema of the id in its message, resolved against that of its model. -/
theorem deserialize (model : Model α) (message : Bytes) :
    ∃ wrap, Answers memory group (Serializing.deserialize Memory.registry model message)
      ((((Outcome.ofExcept (Frame.decode message)).bind fun frame =>
        (memory.schemaOf frame.1).bind fun writer => .ok (writer, frame.2)).bind fun opened =>
          model.readerSchema.bind fun reader =>
            (readPayload opened.1.schema (some reader) opened.2).bind fun v =>
              Outcome.ofExcept (model.readItem v)).mapError wrap) :=
  ⟨_, ((openMessage message).bind fun _ _ => (ofOutcome _).bind fun _ _ => (ofOutcome _).bind
    fun _ _ => ofExcept _).wrapping _ _ _⟩

/-- A value is read with the schema of the id in its message. -/
theorem deserializeValue (message : Bytes) :
    ∃ wrap, Answers memory group (Serializing.deserializeValue Memory.registry message)
      ((((Outcome.ofExcept (Frame.decode message)).bind fun frame =>
        (memory.schemaOf frame.1).bind fun writer => .ok (writer, frame.2)).bind fun opened =>
          (readPayload opened.1.schema none opened.2).bind fun v =>
            .ok (recordName? opened.1.schema, v)).mapError wrap) :=
  ⟨_, ((openMessage message).bind fun _ _ => (ofOutcome _).bind fun _ _ => pure _).wrapping _ _ _⟩

end Answers

/-- Every operation has one answer for all serializers with right schemas. -/
theorem Operation.answers (operation : Operation β) (memory : Memory) (group : Option String) :
    ∃ result, Answers memory group (operation.action Memory.registry) result := by
  cases operation with
  | serialize model item id =>
      cases id with
      | some id =>
          obtain ⟨wrap, h⟩ := Answers.serializeById model item id
          exact ⟨_, h⟩
      | none =>
          obtain ⟨wrap, h⟩ := Answers.serializeByLookup model item
          exact ⟨_, h⟩
  | serializeValue v id =>
      obtain ⟨wrap, h⟩ := Answers.serializeValue v id
      exact ⟨_, h⟩
  | deserialize model message =>
      obtain ⟨wrap, h⟩ := Answers.deserialize model message
      exact ⟨_, h⟩
  | deserializeWithSchema model message =>
      exact ⟨_, ((Answers.openMessage message).bind fun _ _ => (Answers.ofOutcome _).bind fun _ _ =>
        (Answers.ofExcept _).bind fun _ _ => Answers.pure _).wrapping _ _ _⟩
  | deserializeValue message =>
      obtain ⟨wrap, h⟩ := Answers.deserializeValue message
      exact ⟨_, h⟩

/-! ### Two serializers side by side -/

/-- A registry in memory with a serializer that keeps schemas and one that does not. -/
structure Twins where
  memory : Memory
  keeping : Serializer
  fetching : Serializer

namespace Twins

/-- A registry with two new serializers that look schemas up in the same group. -/
def start (memory : Memory) (group : Option String) : Twins :=
  ⟨memory, .make true group, .make false group⟩

/-- What the serializer that keeps schemas answers and leaves behind. -/
def performKeeping (twins : Twins) (operation : Operation β) :
    Outcome β × Serializing Memory :=
  (operation.action Memory.registry).perform ⟨twins.keeping, twins.memory⟩

/-- What the serializer that keeps none answers and leaves behind, after the other one. -/
def performFetching (twins : Twins) (operation : Operation β) :
    Outcome β × Serializing Memory :=
  (operation.action Memory.registry).perform
    ⟨twins.fetching, (twins.performKeeping operation).2.registry⟩

/-- What is there after both serializers did an operation. -/
def operate (twins : Twins) (operation : Operation β) : Twins :=
  ⟨(twins.performFetching operation).2.registry, (twins.performKeeping operation).2.serializer,
    (twins.performFetching operation).2.serializer⟩

/-- What a run from the start leads to. In a run schemas are registered, documents are put under ids
that have none, and both serializers do operations. -/
inductive Reaches (memory : Memory) (group : Option String) : Twins → Prop
  | start : Reaches memory group (start memory group)
  | register {twins : Twins} (h : Reaches memory group twins) (call : Registration) :
      Reaches memory group { twins with memory := (call.action.perform twins.memory).2 }
  | addSchema {twins : Twins} (h : Reaches memory group twins) (id : UInt32) (content : Json)
      (coordinate : Coordinate) (unused : twins.memory.documents.get? id = none) :
      Reaches memory group { twins with memory := twins.memory.addSchema id content coordinate }
  | operate {twins : Twins} (h : Reaches memory group twins) {β : Type} (operation : Operation β) :
      Reaches memory group (twins.operate operation)

/-- Both serializers have right schemas and look schemas up in the group. -/
structure Agree (group : Option String) (twins : Twins) : Prop where
  keeping_group : twins.keeping.lookupGroup = group
  fetching_group : twins.fetching.lookupGroup = group
  keeping_filled : twins.keeping.FilledFrom twins.memory
  fetching_filled : twins.fetching.FilledFrom twins.memory

/-- Two serializers that keep nothing yet agree. -/
theorem agree_start (memory : Memory) (group : Option String) : Agree group (start memory group) :=
  ⟨rfl, rfl, Serializer.filledFrom_make true group memory,
    Serializer.filledFrom_make false group memory⟩

/-- A registry that grows makes no schema wrong. -/
theorem Agree.grows {group : Option String} {twins : Twins} (h : Agree group twins)
    {after : Memory} (hgrows : Memory.Grows twins.memory after) :
    Agree group { twins with memory := after } :=
  ⟨h.keeping_group, h.fetching_group, h.keeping_filled.grows hgrows,
    h.fetching_filled.grows hgrows⟩

/-- Both serializers answer an operation alike, and still agree after it. -/
theorem Agree.operate {group : Option String} {twins : Twins} (h : Agree group twins)
    (operation : Operation β) :
    (twins.performKeeping operation).1 = (twins.performFetching operation).1 ∧
      Agree group (twins.operate operation) := by
  obtain ⟨result, hanswers⟩ := operation.answers twins.memory group
  obtain ⟨keeping, hkeeping, hsame, hfilled⟩ :=
    hanswers twins.keeping h.keeping_group h.keeping_filled
  obtain ⟨fetching, hfetching, hsame', hfilled'⟩ :=
    hanswers twins.fetching h.fetching_group h.fetching_filled
  have hfirst : twins.performKeeping operation = (result, ⟨keeping, twins.memory⟩) := hkeeping
  have hsecond : twins.performFetching operation = (result, ⟨fetching, twins.memory⟩) := by
    rw [performFetching, hfirst]
    exact hfetching
  rw [Twins.operate, hfirst, hsecond]
  exact ⟨rfl, hsame.2.symm.trans h.keeping_group, hsame'.2.symm.trans h.fetching_group, hfilled,
    hfilled'⟩

/-- The two serializers agree after every run. -/
theorem Reaches.agree {memory : Memory} {group : Option String} {twins : Twins}
    (h : Reaches memory group twins) : Agree group twins := by
  induction h with
  | start => exact agree_start memory group
  | register _ call ih => exact ih.grows (call.grows _)
  | addSchema _ id content coordinate unused ih =>
      exact ih.grows (Memory.grows_addSchema content coordinate unused)
  | operate _ operation ih => exact (ih.operate operation).2

/-- In every run, whatever is done in between, a serializer that keeps schemas answers every
operation as one that fetches and parses them each time. -/
theorem same_answer {memory : Memory} {group : Option String} {twins : Twins}
    (h : Reaches memory group twins) (operation : Operation β) :
    (twins.performKeeping operation).1 = (twins.performFetching operation).1 :=
  (h.agree.operate operation).1

/-- Both serializers wrote a long with a schema that was registered before, and a second schema was
registered after that. -/
def afterLong : Twins :=
  let registered (twins : Twins) (text : String) : Twins :=
    let call := Registration.register ⟨"shop", "order"⟩ text .avro
    { twins with memory := (call.action.perform twins.memory).2 }
  let written := (registered (start .empty none) "\"long\"").operate (.serializeValue (.long 7) 1)
  registered written "\"int\""

/-- After a message was written, one serializer keeps a schema and the other one does not. Both read
the message alike. -/
theorem same_answer_afterLong :
    Reaches .empty none afterLong ∧ afterLong.keeping.schemaCount = 1 ∧
      afterLong.fetching.schemaCount = 0 ∧
      (afterLong.performKeeping (.deserializeValue [0, 0, 0, 0, 1, 14])).1 =
        (afterLong.performFetching (.deserializeValue [0, 0, 0, 0, 1, 14])).1 := by
  have hreaches : Reaches .empty none afterLong :=
    .register (.operate (.register .start _) _) _
  exact ⟨hreaches, by cbv, by cbv, same_answer hreaches _⟩

end Twins

end FramedAvro
