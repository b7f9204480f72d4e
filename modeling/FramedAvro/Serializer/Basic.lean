import FramedAvro.Registry.Lookup
import FramedAvro.Serializer.Payload
import FramedAvro.Table
import FramedAvro.Text.Quoted

/-!
# Serializers

A serializer writes items and values as messages and reads them back, with the schemas of a
registry. It keeps the schemas it parsed under their ids, since an id stands for one schema for
good; what failed is not kept.

Whatever fails reaches the caller as a failure of the operation, wrapped at most once. Only values
that do not match their schema, and schemas that are not found, keep a kind of their own. Where
something breaks instead, the operation does not return.

## Main definitions

* `Serializer`: the settings, and the schemas that were parsed.
* `Serializing.serialize`, `Serializing.serializeValue`: writing.
* `Serializing.deserialize`, `Serializing.deserializeWithSchema`, `Serializing.deserializeValue`:
  reading.
-/

namespace FramedAvro

open Avro

/-- A serializer: whether it keeps the schemas it parses, in which group it looks schemas up, and
the schemas it keeps. -/
structure Serializer where
  keepsSchemas : Bool
  lookupGroup : Option String
  schemas : Table UInt32 ParsedSchema

namespace Serializer

/-- A serializer that has parsed nothing yet. -/
def make (keepsSchemas : Bool) (lookupGroup : Option String) : Serializer :=
  ⟨keepsSchemas, lookupGroup, .empty⟩

/-- A serializer that keeps schemas and looks them up in all groups. -/
def standard : Serializer :=
  make true none

/-- How many schemas are kept. -/
def schemaCount (serializer : Serializer) : Nat :=
  serializer.schemas.size

/-- The text of a serializer. -/
def describe (serializer : Serializer) : String :=
  let group :=
    match serializer.lookupGroup with
    | some group => "Some(" ++ Quoted.text group ++ ")"
    | none => "None"
  "AvroSerializer \x7b cache_schemas: " ++ Failure.spellBool serializer.keepsSchemas ++
    ", lookup_group: " ++ group ++ ", cached_schemas: " ++
    toString serializer.schemaCount ++ " \x7d"

/-- The schema that is kept for an id. -/
def kept? (serializer : Serializer) (id : UInt32) : Option ParsedSchema :=
  if serializer.keepsSchemas then serializer.schemas.get? id else none

/-- The serializer after parsing a schema. -/
def keep (serializer : Serializer) (schema : ParsedSchema) : Serializer :=
  if serializer.keepsSchemas then
    { serializer with schemas := serializer.schemas.insert schema.id schema }
  else serializer

end Serializer

/-- A serializer together with the state of the registry it works with. -/
structure Serializing (σ : Type) where
  serializer : Serializer
  registry : σ

namespace Serializing

variable {σ α : Type}

/-- A step of the registry. -/
def ask (action : Action σ α) : Action (Serializing σ) α :=
  action.onPart registry fun part state => { state with registry := part }

/-- The schema of a document. The one that is kept for the id counts before the document. -/
def parse (id : UInt32) (document : Document) : Action (Serializing σ) ParsedSchema := do
  let state ← get
  match state.serializer.kept? id with
  | some schema => return schema
  | none =>
    let schema ← Action.ofOutcome (ParsedSchema.parse id document)
    set { state with serializer := state.serializer.keep schema }
    return schema

/-- The schema of an id. -/
def schemaOf (registry : Registry σ) (id : UInt32) : Action (Serializing σ) ParsedSchema := do
  match (← get).serializer.kept? id with
  | some schema => return schema
  | none =>
    let document ← ask (registry.fetchById id)
    parse id document

/-! ### Boundaries -/

/-- The kinds that reach the caller of a writing operation as they are. -/
def passThrough : List FailureKind :=
  [.schemaMismatch, .schemaMatch]

/-- The action with its failures as seen from outside. -/
def wrapping (kind : FailureKind) (pass : List FailureKind) (message : String)
    (action : Action (Serializing σ) α) : Action (Serializing σ) α :=
  ExceptT.mk fun state =>
    let (outcome, after) := action.perform state
    (outcome.mapError (.mapFailure fun failure => failure.wrapUnless kind pass message), after)

/-- The boundary of writing with the schema of an id. -/
def writingWith (id : UInt32) (action : Action (Serializing σ) α) : Action (Serializing σ) α :=
  wrapping .serialization passThrough
    ("Failed to serialize object with schema ID " ++ toString id) action

/-- The boundary of writing with a schema that is looked up. -/
def writingWithLookup (action : Action (Serializing σ) α) : Action (Serializing σ) α :=
  wrapping .serialization passThrough "Failed to serialize object with automatic schema lookup"
    action

/-- The boundary of reading. -/
def reading (action : Action (Serializing σ) α) : Action (Serializing σ) α :=
  wrapping .deserialization [] "Failed to deserialize message" action

/-! ### Writing -/

/-- The message of an item, written with the schema that is found for the schema of its model. -/
def serializeByLookup (registry : Registry σ) (model : Model α) (item : α) :
    Action (Serializing σ) Bytes :=
  writingWithLookup do
    let group := (← get).serializer.lookupGroup
    let (id, document) ← ask (registry.findSchema model.schema group)
    let schema ← parse id document
    Action.ofOutcome (schema.frameItem model item)

/-- The message of an item, written with the schema of an id. -/
def serializeById (registry : Registry σ) (model : Model α) (item : α) (id : UInt32) :
    Action (Serializing σ) Bytes :=
  writingWith id do
    let schema ← schemaOf registry id
    Action.ofOutcome (schema.frameItem model item)

/-- The message of an item, written with the schema of an id if one is given, and otherwise with the
one found for the schema of its model. -/
def serialize (registry : Registry σ) (model : Model α) (item : α) (id : Option UInt32) :
    Action (Serializing σ) Bytes :=
  match id with
  | some id => serializeById registry model item id
  | none => serializeByLookup registry model item

/-- The message of a value, written with the schema of an id. -/
def serializeValue (registry : Registry σ) (v : Value) (id : UInt32) :
    Action (Serializing σ) Bytes :=
  writingWith id do
    let schema ← schemaOf registry id
    Action.ofOutcome (schema.frameValue v)

/-! ### Reading -/

/-- The schema a message was written with, and its payload. -/
def openMessage (registry : Registry σ) (message : Bytes) :
    Action (Serializing σ) (ParsedSchema × Bytes) := do
  let (id, payload) ← Action.ofExcept (Frame.decode message)
  let writer ← schemaOf registry id
  return (writer, payload)

/-- The item of a message, read with the schema of its model. -/
def deserialize (registry : Registry σ) (model : Model α) (message : Bytes) :
    Action (Serializing σ) α :=
  reading do
    let (writer, payload) ← openMessage registry message
    let reader ← Action.ofOutcome model.readerSchema
    let v ← Action.ofOutcome (readPayload writer.schema (some reader) payload)
    Action.ofExcept (model.readItem v)

/-- The item of a message, read with the schema it was written with, and the document of that
schema. -/
def deserializeWithSchema (registry : Registry σ) (model : Model α) (message : Bytes) :
    Action (Serializing σ) (α × Document) :=
  reading do
    let (writer, payload) ← openMessage registry message
    let v ← Action.ofOutcome (readPayload writer.schema none payload)
    let item ← Action.ofExcept (model.readItem v)
    return (item, writer.document)

/-- The value of a message, and the name of the record it is. -/
def deserializeValue (registry : Registry σ) (message : Bytes) :
    Action (Serializing σ) (Option Name × Value) :=
  reading do
    let (writer, payload) ← openMessage registry message
    let v ← Action.ofOutcome (readPayload writer.schema none payload)
    return (recordName? writer.schema, v)

/-! ### Registering -/

/-- A serializer only reads from its registry. -/
def registerSchema (coordinate : Coordinate) : Action (Serializing σ) UInt32 :=
  Action.fail (.plain .notImplemented
    ("Registering a schema for " ++ coordinate.describe ++
      " is not supported by the serializer, use the registry instead"))

end Serializing

end FramedAvro
