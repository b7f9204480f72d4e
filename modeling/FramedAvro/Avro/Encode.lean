import FramedAvro.Avro.Resolve
import FramedAvro.Avro.Varint

/-!
# Encoding

The bytes of a value. Only a value that fits its schema is written, and `Value.fits?` says which
do: it looks at what resolving leaves open, such as the size of a fixed value that was made from a
text. It looks at all parts of a value, also when one of them does not fit already, and breaks
where resolving breaks when a value is looked for among the variants of a union.

## Main definitions

* `Value.fits?`: whether a value may be written as a schema.
* `Value.encode`: the bytes of a value.
* `Schema.encode?`: the bytes of a value that fits.
-/

namespace FramedAvro.Avro

namespace Value

/-! ### Fitting values -/

/-- Whether a value fits a type without parts. -/
def fitsPrimitive (v : Value) : Primitive → Bool
  | .null => match v with | null => true | _ => false
  | .boolean => match v with | boolean _ => true | _ => false
  | .int => match v with | int _ => true | _ => false
  | .long => match v with | int _ => true | long _ => true | _ => false
  | .float => match v with | float _ => true | _ => false
  | .double => match v with | float _ => true | double _ => true | _ => false
  | .bytes => match v with | bytes _ => true | _ => false
  | .string => match v with | string _ => true | _ => false

/-- Whether a long may stand for a time. -/
def longFits : LongTime → Bool
  | .timeMicros => true
  | .timestampMillis => true
  | .timestampMicros => true
  | .timestampNanos => false
  | .localTimestampMillis => true
  | .localTimestampMicros => true
  | .localTimestampNanos => false

/-- Whether a value fits a time in 32 bits. -/
def fitsIntTime (v : Value) (time : IntTime) : Bool :=
  match v with
  | intTime own _ => decide (own = time)
  | int _ => true
  | _ => false

/-- Whether a value fits a time in 64 bits. -/
def fitsLongTime (v : Value) (time : LongTime) : Bool :=
  match v with
  | longTime own _ => decide (own = time)
  | long _ => longFits time
  | _ => false

/-- Whether a value fits a decimal. -/
def fitsDecimal : Value → Bool
  | decimal _ => true
  | bytes _ => true
  | fixed _ _ => true
  | _ => false

/-- Whether a value fits a UUID. -/
def fitsUuid : Value → Bool
  | uuid _ => true
  | bytes content => decide (content.length = Uuid.size)
  | fixed size _ => decide (size = Uuid.size)
  | string _ => true
  | _ => false

/-- Whether a value fits a duration. -/
def fitsDuration : Value → Bool
  | duration _ _ _ => true
  | fixed size _ => decide (size = 12)
  | _ => false

/-- Whether a value fits an enum. -/
def fitsEnum (symbols : List String) (fallback : Option String) : Value → Bool
  | enum index symbol =>
    match symbols[index]? with
    | some own => decide (own = symbol)
    | none => fallback.isSome
  | string text => symbols.contains text
  | _ => false

/-- Whether a value fits a fixed type. -/
def fitsFixed (size : Nat) : Value → Bool
  | fixed own _ => decide (own = size)
  | bytes content => decide (content.length = size)
  | _ => false

/-- The type of the last field that has a name as its own or as an alias. -/
def typeOfField (name : String) : List Field → Option Schema
  | [] => none
  | .mk label type :: rest =>
    (typeOfField name rest).or
      (if label.name = name ∨ name ∈ label.aliases then some type else none)

/-- Whether a field may be missing. -/
def isNullable : Schema → Bool
  | .union variants => variants.any fun variant => variant.kind? = some (.primitive .null)
  | _ => false

/-- How many fields may not be missing. -/
def requiredCount (fields : List Field) : Nat :=
  (fields.filter fun field => !isNullable field.type).length

mutual

/-- Whether a value may be written as a schema that a namespace surrounds. Nothing where looking for
its variant breaks. -/
def fits? (definitions : Definitions) (enclosing : Option String) (v : Value) (schema : Schema) :
    Option Bool :=
  match schema with
  | .primitive type => some (v.fitsPrimitive type)
  | .intTime time => some (v.fitsIntTime time)
  | .longTime time => some (v.fitsLongTime time)
  | .decimal _ _ _ => some v.fitsDecimal
  | .bigDecimal => some false
  | .uuid => some v.fitsUuid
  | .duration => some v.fitsDuration
  | .array items _ =>
    match v with
    | .array contents => allFit? definitions enclosing contents items
    | _ => some false
  | .map values _ =>
    match v with
    | .map entries => entriesFit? definitions enclosing entries values
    | _ => some false
  | .union variants =>
    match v with
    | .union index content =>
      match variants[index]? with
      | some variant => fits? definitions enclosing content variant
      | none => some false
    | other =>
      match other.variantOf definitions definitions.fieldCount enclosing variants with
      | .ok _ => some true
      | .error .refused => some false
      | .error .crash => none
  | .named definition => fitsDefinition? definitions enclosing v definition
  | .reference name =>
    let name := name.within enclosing
    match definitions.get? name with
    | some definition => fitsDefinition? definitions name.space v definition
    | none => some false
termination_by (sizeOf v, 1)

/-- Whether a value may be written as a definition. The fields of a record are surrounded by the
namespace of its name. -/
def fitsDefinition? (definitions : Definitions) (enclosing : Option String) (v : Value)
    (definition : Definition) : Option Bool :=
  match definition with
  | .record label fields =>
    match v with
    | .record contents =>
      if requiredCount fields ≤ contents.length ∧ contents.length ≤ fields.length then
        fieldsFit? definitions (label.name.within enclosing).space contents fields
      else some false
    | _ => some false
  | .enum _ symbols fallback => some (v.fitsEnum symbols fallback)
  | .fixed type => some (v.fitsFixed type.size)
termination_by (sizeOf v, 0)

/-- Whether every item may be written as the schema. -/
def allFit? (definitions : Definitions) (enclosing : Option String) (contents : List Value)
    (items : Schema) : Option Bool :=
  match contents with
  | [] => some true
  | v :: rest => do
    let first ← fits? definitions enclosing v items
    let others ← allFit? definitions enclosing rest items
    return first && others
termination_by (sizeOf contents, 0)

/-- Whether every entry may be written as the schema. -/
def entriesFit? (definitions : Definitions) (enclosing : Option String)
    (entries : List (String × Value)) (values : Schema) : Option Bool :=
  match entries with
  | [] => some true
  | (_, v) :: rest => do
    let first ← fits? definitions enclosing v values
    let others ← entriesFit? definitions enclosing rest values
    return first && others
termination_by (sizeOf entries, 0)

/-- Whether the value of every field may be written as the type of the field that is found under its
name. -/
def fieldsFit? (definitions : Definitions) (enclosing : Option String)
    (contents : List (String × Value)) (fields : List Field) : Option Bool :=
  match contents with
  | [] => some true
  | (name, v) :: rest =>
    match typeOfField name fields with
    | some type => do
      let first ← fits? definitions enclosing v type
      let others ← fieldsFit? definitions enclosing rest fields
      return first && others
    | none => (fieldsFit? definitions enclosing rest fields).map fun _ => false
termination_by (sizeOf contents, 0)

end

/-! ### Bytes -/

/-- Bytes after their length. -/
def encodeSized (content : Bytes) : Bytes :=
  Varint.encode content.length ++ content

/-- The bytes of a two's complement number without those that only repeat the sign. -/
def withoutPadding : Bytes → Bytes
  | [] => [0]
  | [b] => [b]
  | a :: b :: rest =>
    if (a = 0 ∧ b < 128) ∨ (a = 255 ∧ 128 ≤ b) then withoutPadding (b :: rest) else a :: b :: rest

/-- A two's complement number in as many bytes as asked for, if it has room in them. -/
def inBytes? (size : Nat) (content : Bytes) : Option Bytes :=
  let shortest := withoutPadding content
  if shortest.length ≤ size then
    let padding : UInt8 := if shortest.head?.any (128 ≤ ·) then 255 else 0
    some (List.replicate (size - shortest.length) padding ++ shortest)
  else none

/-- The items of a list, if there are any as one block, and the end of it. -/
def encodeBlock (count : Nat) (items : Bytes) : Bytes :=
  if count = 0 then [0] else Varint.encode count ++ items ++ [0]

/-- The bytes of a value that has the same bytes wherever it fits. -/
def plainBytes? : Value → Option Bytes
  | boolean b => some [if b then 1 else 0]
  | int i => some (Varint.encode i.toInt)
  | long i => some (Varint.encode i.toInt)
  | intTime _ i => some (Varint.encode i.toInt)
  | longTime _ i => some (Varint.encode i.toInt)
  | float bits => some (Bytes.ofNatLittle 4 bits.toNat)
  | double bits => some (Bytes.ofNatLittle 8 bits.toNat)
  | fixed _ content => some content
  | enum index _ => some (Varint.encode index)
  | duration months days millis =>
    some ([months, days, millis].flatMap fun w => Bytes.ofNatLittle 4 w.toNat)
  | _ => none

/-- The bytes of a value as a schema without parts. -/
def encodePartless (v : Value) (schema : Schema) : Option Bytes :=
  match schema, v with
  | .primitive .null, null => some []
  | .primitive .bytes, bytes content => some (encodeSized content)
  | .primitive .string, string text => some (encodeSized (Utf8.encode text))
  | .uuid, string text => some (encodeSized (Utf8.encode text))
  | .uuid, uuid content => some (encodeSized (Utf8.encode (Uuid.text content)))
  | .decimal _ _ .bytes, decimal content => some (encodeSized content)
  | .decimal _ _ (.fixed type), decimal content => inBytes? type.size content
  | _, v => v.plainBytes?

/-- The value of a field, under its name or else under its first alias that has one. -/
def valueOf (label : FieldLabel) (contents : List (String × Value)) : Option Value :=
  (label.name :: label.aliases).findSome? fun name => lastOf name contents

/-- The value that is found for a field is smaller than all contents. -/
theorem sizeOf_valueOf_lt {label : FieldLabel} {contents : List (String × Value)} {v : Value}
    (h : valueOf label contents = some v) : sizeOf v < sizeOf contents := by
  obtain ⟨name, _, h⟩ := List.exists_of_findSome?_eq_some h
  exact sizeOf_lastOf_lt h

mutual

/-- The bytes of a value as a schema that a namespace surrounds. In a union a value that is none
stands without an index, other than null and a record. -/
def encode (definitions : Definitions) (enclosing : Option String) (v : Value) (schema : Schema) :
    Option Bytes :=
  match schema with
  | .array items _ =>
    match v with
    | .array contents =>
      (encodeItems definitions enclosing contents items).map (encodeBlock contents.length)
    | _ => none
  | .map values _ =>
    match v with
    | .map entries =>
      (encodeEntries definitions enclosing entries values).map (encodeBlock entries.length)
    | _ => none
  | .union variants =>
    match v with
    | .union index content =>
      match variants[index]? with
      | some variant =>
        (encode definitions enclosing content variant).map (Varint.encode index ++ ·)
      | none => none
    | .null =>
      (variants.findIdx? fun variant => variant.kind? = some (.primitive .null)).map fun index =>
        Varint.encode index
    | .record contents => encodeVariant definitions enclosing (.record contents) 0 variants
    | other => other.plainBytes?
  | .named definition => encodeDefinition definitions enclosing v definition
  | .reference name =>
    match definitions.get? (name.within enclosing) with
    | some definition => encodeDefinition definitions enclosing v definition
    | none => none
  | partless => v.encodePartless partless
termination_by (sizeOf v, 2 * sizeOf schema + 1)
decreasing_by
  · exact Prod.Lex.left _ _ (by simp)
  · exact Prod.Lex.left _ _ (by simp)
  · exact Prod.Lex.left _ _ (by simp only [Value.union.sizeOf_spec]; omega)
  · exact Prod.Lex.right _ (by simp only [Schema.union.sizeOf_spec]; omega)
  · exact Prod.Lex.right _ (by simp)
  · exact Prod.Lex.right _ (by simp)

/-- The bytes of a value as the first variant that has some, behind the index of it. The first of
the variants has the given index. -/
def encodeVariant (definitions : Definitions) (enclosing : Option String) (v : Value) (index : Nat)
    (variants : List Schema) : Option Bytes :=
  match variants with
  | [] => none
  | variant :: rest =>
    match encode definitions enclosing v variant with
    | some content => some (Varint.encode index ++ content)
    | none => encodeVariant definitions enclosing v (index + 1) rest
termination_by (sizeOf v, 2 * sizeOf variants)
decreasing_by
  all_goals exact Prod.Lex.right _ (by simp only [List.cons.sizeOf_spec]; omega)

/-- The bytes of a value as a definition. The fields of a record are surrounded by the namespace of
its name. -/
def encodeDefinition (definitions : Definitions) (enclosing : Option String) (v : Value)
    (definition : Definition) : Option Bytes :=
  match definition with
  | .record label fields =>
    match v with
    | .record contents =>
      encodeFields definitions (label.name.within enclosing).space contents fields
    | _ => none
  | .enum _ symbols _ =>
    match v with
    | .string text => (symbols.findIdx? (· = text)).map fun index => Varint.encode index
    | other => other.plainBytes?
  | .fixed _ =>
    match v with
    | .bytes content => some content
    | other => other.plainBytes?
termination_by (sizeOf v, 0)

/-- The bytes of items. -/
def encodeItems (definitions : Definitions) (enclosing : Option String) (contents : List Value)
    (items : Schema) : Option Bytes :=
  match contents with
  | [] => some []
  | v :: rest =>
    match encode definitions enclosing v items with
    | some first => (encodeItems definitions enclosing rest items).map (first ++ ·)
    | none => none
termination_by (sizeOf contents, 0)

/-- The bytes of entries, each the key and then the value. -/
def encodeEntries (definitions : Definitions) (enclosing : Option String)
    (entries : List (String × Value)) (values : Schema) : Option Bytes :=
  match entries with
  | [] => some []
  | (key, v) :: rest =>
    match encode definitions enclosing v values with
    | some first =>
      (encodeEntries definitions enclosing rest values).map fun more =>
        encodeSized (Utf8.encode key) ++ first ++ more
    | none => none
termination_by (sizeOf entries, 0)

/-- The bytes of the fields of a record, in the order of the schema. -/
def encodeFields (definitions : Definitions) (enclosing : Option String)
    (contents : List (String × Value)) (fields : List Field) : Option Bytes :=
  match fields with
  | [] => some []
  | .mk label type :: rest =>
    match _h : valueOf label contents with
    | some v =>
      match encode definitions enclosing v type with
      | some first => (encodeFields definitions enclosing contents rest).map (first ++ ·)
      | none => none
    | none => none
termination_by (sizeOf contents, sizeOf fields)
decreasing_by
  · exact Prod.Lex.left _ _ (sizeOf_valueOf_lt _h)
  · exact Prod.Lex.right _ (by simp only [List.cons.sizeOf_spec]; omega)

end

end Value

/-- The bytes of a value of a schema, if it fits. -/
def Schema.encode? (schema : Schema) (v : Value) : Checked Bytes :=
  match Definitions.ofSchema? schema with
  | some definitions =>
    match v.fits? definitions schema.space? schema with
    | some true => .ofOption (v.encode definitions none schema)
    | some false => .error .refused
    | none => .error .crash
  | none => .error .refused

end FramedAvro.Avro
