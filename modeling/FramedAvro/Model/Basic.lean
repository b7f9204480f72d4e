import FramedAvro.Avro.Value

/-!
# Models

A model binds a type of items to the schema that describes them, and says how an item becomes an
Avro value and how one is read from a value. The schema is what an item is looked up by, and what
messages are resolved against when an item is read from them.
-/

namespace FramedAvro

/-- How items of a type are described, written and read. -/
structure Model (α : Type) where
  /-- The text of the schema. -/
  schema : String
  /-- The value of an item, unless there is none for it. -/
  toValue : α → Option Avro.Value
  /-- The item of a value, unless the value is none of an item. -/
  ofValue : Avro.Value → Option α
  /-- What is said of an item without a value. -/
  unwritable : α → String := fun _ => "the item has no value"
  /-- What is said of a value that is none of an item. -/
  unreadable : Avro.Value → String := fun v => "no value of an item: " ++ v.describe

/-- The model with another schema. -/
def Model.withSchema {α : Type} (model : Model α) (schema : String) : Model α :=
  { model with schema := schema }

end FramedAvro
