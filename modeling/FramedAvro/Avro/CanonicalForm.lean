import FramedAvro.Avro.Schema
import FramedAvro.Json.Printer

/-!
# Canonical form

The parsing canonical form of a schema is a text in which everything is left out that does not
matter for reading data: documentation, aliases, defaults, logical types and members without a
meaning. Names are full names, a name is defined where it stands first and only mentioned after
that, and members stand in a fixed order.

The form is made of the JSON document of the schema, which `Schema.toJson` writes. That document
repeats members that have no meaning in Avro, also those with a key that the form keeps, and such a
member can be what the form has no place for: a number where only schemas, texts and lists of them
may stand, or a size that is no integer of 64 bits. A schema with such a member can be parsed, but
it has no form, and whoever asks for it gets no answer.

## Main definitions

* `Schema.toJson`: the JSON document of a schema.
* `Schema.canonicalForm?`: the form of a schema, if it has one.
-/

namespace FramedAvro.Avro

/-! ### Schemas as JSON -/

/-- The name of a type without parts. -/
def Primitive.name : Primitive → String
  | .null => "null"
  | .boolean => "boolean"
  | .int => "int"
  | .long => "long"
  | .float => "float"
  | .double => "double"
  | .bytes => "bytes"
  | .string => "string"

/-- The name of a time in 32 bits. -/
def IntTime.name : IntTime → String
  | .date => "date"
  | .timeMillis => "time-millis"

/-- The name of a time in 64 bits. -/
def LongTime.name : LongTime → String
  | .timeMicros => "time-micros"
  | .timestampMillis => "timestamp-millis"
  | .timestampMicros => "timestamp-micros"
  | .timestampNanos => "timestamp-nanos"
  | .localTimestampMillis => "local-timestamp-millis"
  | .localTimestampMicros => "local-timestamp-micros"
  | .localTimestampNanos => "local-timestamp-nanos"

namespace Schema

/-- An object with the members, of which the last of equal keys counts. -/
def jsonObject (members : List (String × Json)) : Json :=
  .object (Entries.ofList members)

/-- A logical type on top of a type without parts. -/
def logicalJson (base : Primitive) (name : String) : Json :=
  jsonObject [("type", .string base.name), ("logicalType", .string name)]

/-- The members that say the type and the name of a definition. -/
def headJson (type : String) (name : Name) : List (String × Json) :=
  [("type", .string type), ("name", .string name.base)] ++
    match name.space with
    | some space => [("namespace", .string space)]
    | none => []

/-- The members of a fixed type. -/
def fixedMembers (type : FixedSize) : List (String × Json) :=
  headJson "fixed" type.label.name ++ [("size", .ofNat type.size)] ++ type.label.attributes

/-- The members of what carries a decimal. -/
def carrierMembers : DecimalCarrier → List (String × Json)
  | .bytes => [("type", .string "bytes")]
  | .fixed type => fixedMembers type

/-- The fixed type that stands for the one a duration was defined with. -/
def durationCarrier : FixedSize :=
  ⟨⟨⟨none, "duration"⟩, []⟩, 12⟩

mutual

/-- The JSON document of a schema, without documentation, aliases and defaults. -/
def toJson : Schema → Json
  | primitive type => .string type.name
  | intTime time => logicalJson .int time.name
  | longTime time => logicalJson .long time.name
  | decimal precision scale carrier =>
    jsonObject (carrierMembers carrier ++ [("logicalType", .string "decimal"),
      ("precision", .ofNat precision), ("scale", .ofNat scale)])
  | bigDecimal => logicalJson .bytes "big-decimal"
  | uuid => logicalJson .string "uuid"
  | duration =>
    jsonObject [("type", jsonObject (fixedMembers durationCarrier)),
      ("logicalType", .string "duration")]
  | array items attributes =>
    jsonObject ([("type", .string "array"), ("items", items.toJson)] ++ attributes)
  | map values attributes =>
    jsonObject ([("type", .string "map"), ("values", values.toJson)] ++ attributes)
  | union variants => .array (variantsJson variants)
  | named definition => definitionJson definition
  | reference name => .string name.text

/-- The JSON document of a definition. -/
def definitionJson : Definition → Json
  | .record label fields =>
    jsonObject (headJson "record" label.name ++ [("fields", .array (fieldsJson fields))] ++
      label.attributes)
  | .enum label symbols _ =>
    jsonObject (headJson "enum" label.name ++ [("symbols", .array (symbols.map .string))] ++
      label.attributes)
  | .fixed type => jsonObject (fixedMembers type)

/-- The JSON documents of variants. -/
def variantsJson : List Schema → List Json
  | [] => []
  | variant :: rest => variant.toJson :: variantsJson rest

/-- The JSON documents of fields. -/
def fieldsJson : List Field → List Json
  | [] => []
  | .mk label type :: rest =>
    jsonObject ([("name", .string label.name), ("type", type.toJson)] ++ label.attributes) ::
      fieldsJson rest

end

end Schema

/-! ### The form -/

namespace CanonicalForm

/-- The keys of the members that are kept, in the order in which they are written. -/
def keptKeys : List String :=
  ["name", "type", "fields", "symbols", "items", "values", "size", "order", "precision", "scale"]

/-- The types that are defined under a name. -/
def namedTypes : List String :=
  ["record", "enum", "fixed", "ref"]

/-- A text between quotes. -/
def quoted (text : String) : String :=
  "\"" ++ text ++ "\""

/-- The text of a member that is a string. -/
def textOf (key : String) (members : List (String × Json)) : Option String :=
  (Entries.get? key members).bind Json.string?

/-- The full name that an object defines. -/
def definedName? (members : List (String × Json)) : Option String :=
  match textOf "type" members with
  | some type =>
    if namedTypes.contains type then
      let base := (textOf "name" members).getD ""
      match textOf "namespace" members with
      | some space => some (space ++ "." ++ base)
      | none => some base
    else none
  | none => none

/-- The integer that digits with or without a sign spell. -/
def spelledInt? (text : String) : Option Int :=
  let digits? (s : List Char) : Option Nat :=
    if s.isEmpty then none else (s.mapM Digit.ofChar?).map Digit.toNat
  match text.toList with
  | '-' :: rest => (digits? rest).map fun n => -(n : Int)
  | '+' :: rest => (digits? rest).map fun n => (n : Int)
  | s => (digits? s).map fun n => (n : Int)

/-- The text of a member that is an integer of 64 bits or spells one. -/
def integerText? (j : Json) : Option String :=
  let spelled :=
    match j with
    | .string text => spelledInt? text
    | _ => j.int?
  (spelled.filter fun i =>
    decide (Int64.minValue.toInt ≤ i ∧ i ≤ Int64.maxValue.toInt)).map toString

/-- The texts of the members that are kept, in their order. -/
def inOrder (texts : List (String × String)) : String :=
  "\x7b" ++ ",".intercalate (keptKeys.filterMap fun key => texts.lookup key) ++ "\x7d"

mutual

/-- The form of a schema document, and the names that are defined after it when `defined` are those
before it. Of an object that is nothing but a type, only the type is written. -/
def ofJson? (defined : List String) : Json → Option (String × List String)
  | .object members =>
    let name := definedName? members
    if name.any defined.contains then some (quoted (name.getD ""), defined)
    else
      let defined := name.toList ++ defined
      match members with
      | [("type", .string type)] => some (quoted type, defined)
      | _ => (ofMembers? name defined members).map fun (texts, defined) => (inOrder texts, defined)
  | .string text => some (quoted text, defined)
  | .array items =>
    (ofItems? defined items).map fun (texts, defined) =>
      ("[" ++ ",".intercalate texts ++ "]", defined)
  | _ => none

/-- The forms of items, and the names that are defined after them. -/
def ofItems? (defined : List String) : List Json → Option (List String × List String)
  | [] => some ([], defined)
  | item :: rest => do
    let (text, defined) ← ofJson? defined item
    let (texts, defined) ← ofItems? defined rest
    return (text :: texts, defined)

/-- The texts of the members that are kept, by key, and the names that are defined after them. -/
def ofMembers? (name : Option String) (defined : List String) :
    List (String × Json) → Option (List (String × String) × List String)
  | [] => some ([], defined)
  | (key, value) :: rest =>
    if !keptKeys.contains key then ofMembers? name defined rest
    else if key = "name" ∧ name.isSome then do
      let (texts, defined) ← ofMembers? name defined rest
      return ((key, quoted key ++ ":" ++ quoted (name.getD "")) :: texts, defined)
    else if ["size", "precision", "scale"].contains key then do
      let text ← integerText? value
      let (texts, defined) ← ofMembers? name defined rest
      return ((key, quoted key ++ ":" ++ text) :: texts, defined)
    else do
      let (text, defined) ← ofJson? defined value
      let (texts, defined) ← ofMembers? name defined rest
      return ((key, quoted key ++ ":" ++ text) :: texts, defined)

end

end CanonicalForm

/-- The parsing canonical form of a schema, if it has one. -/
def Schema.canonicalForm? (schema : Schema) : Option String :=
  (CanonicalForm.ofJson? [] schema.toJson).map (·.1)

end FramedAvro.Avro
