import FramedAvro.Avro.Decode
import FramedAvro.Avro.Encode
import FramedAvro.Frame
import FramedAvro.Model.Basic
import FramedAvro.Registry.ParsedSchema

/-!
# Payloads

How items and values become messages and are read from them, once the schemas are known. Writing
checks a value by resolving it against the schema, so whatever is refused then is a mismatch.

## Main definitions

* `ParsedSchema.frameValue`, `ParsedSchema.frameItem`: the message of a value and of an item.
* `readPayload`: the value of a payload.
* `Model.readItem`: the item of a value.
-/

namespace FramedAvro

open Avro

namespace ParsedSchema

/-- The message of a value, written with the schema. -/
def frameValue (schema : ParsedSchema) (v : Value) : Outcome Bytes := do
  let resolved ← Outcome.ofChecked
    (.because .schemaMismatch ("the value does not resolve: " ++ v.describe)
      "Data does not match schema")
    (schema.schema.resolve? v)
  let payload ← Outcome.ofChecked
    (.because .schemaMismatch ("the value does not fit: " ++ resolved.describe)
      "Could not get Avro bytes")
    (schema.schema.encode? resolved)
  return Frame.encode schema.id payload

/-- The message of an item, written with the schema. -/
def frameItem {α : Type} (schema : ParsedSchema) (model : Model α) (item : α) :
    Outcome Bytes :=
  match model.toValue item with
  | some v => schema.frameValue v
  | none =>
    .error (.failed (.because .serialization (model.unwritable item)
      "Could not transform to apache_avro value"))

end ParsedSchema

/-- The payload does not hold what was asked for. -/
def badPayload (payload : Bytes) : Failure :=
  .because .deserialization ("the bytes hold no such value: " ++ Hex.encode payload)
    "Could not transform bytes using schema"

/-- The value of a payload that was written with one schema, resolved against another if one is
given. -/
def readPayload (writer : Schema) (reader : Option Schema) (payload : Bytes) :
    Outcome Value :=
  match writer.decode? payload with
  | none => .error (.failed (badPayload payload))
  | some v =>
    match reader with
    | none => .ok v
    | some reader => .ofChecked (badPayload payload) (reader.resolve? v)

namespace Model

variable {α : Type} (model : Model α)

/-- The item of a value. -/
def readItem (v : Value) : Except Failure α :=
  match model.ofValue v with
  | some item => .ok item
  | none =>
    .error (.because .deserialization (model.unreadable v)
      "Could not transform apache_avro value to target type")

/-- The schema that messages are resolved against. -/
def readerSchema : Outcome Schema :=
  .ofChecked
    (.invalidSchema ("no Avro schema: " ++ model.schema) "Could not parse reader schema")
    (Schema.parse? model.schema)

end Model

/-- The name of the record that a schema defines. -/
def recordName? : Schema → Option Name
  | .named (.record label _) => some label.name
  | _ => none

end FramedAvro
