import FramedAvro.Avro.Name
import FramedAvro.Json.Basic

/-!
# Schemas

The Avro schemas, as they are after parsing: every name is a full name, and a logical type that does
not fit the type below it is gone.

## Main definitions

* `Schema`, `Definition`, `Field`: the schemas.
* `Schema.Kind`: what variants of a union are told apart by.
* `Definitions`: what the names in a schema stand for.
-/

namespace FramedAvro.Avro

/-- The members of a schema that have no meaning in Avro, in ascending order of their keys. -/
abbrev Attributes := List (String × Json)

/-- The types without parts. -/
inductive Primitive where
  | null
  | boolean
  | int
  | long
  | float
  | double
  | bytes
  | string
deriving DecidableEq, Repr

/-- The times that are kept in 32 bits. -/
inductive IntTime where
  | date
  | timeMillis
deriving DecidableEq, Repr

/-- The times that are kept in 64 bits. -/
inductive LongTime where
  | timeMicros
  | timestampMillis
  | timestampMicros
  | timestampNanos
  | localTimestampMillis
  | localTimestampMicros
  | localTimestampNanos
deriving DecidableEq, Repr

/-- What the definitions of a name have in common. -/
structure Label where
  name : Name
  attributes : Attributes

/-- What a fixed type says besides its name. -/
structure FixedSize where
  label : Label
  size : Nat

/-- What carries the bytes of a decimal. -/
inductive DecimalCarrier where
  | bytes
  | fixed (carrier : FixedSize)

/-- What a field says besides its type. The `aliases` are names of its own, not of its type. -/
structure FieldLabel where
  name : String
  fallback : Option Json
  aliases : List String
  attributes : Attributes

mutual

/-- A schema. -/
inductive Schema where
  | primitive (type : Primitive)
  | intTime (time : IntTime)
  | longTime (time : LongTime)
  | decimal (precision scale : Nat) (carrier : DecimalCarrier)
  | bigDecimal
  | uuid
  | duration
  | array (items : Schema) (attributes : Attributes)
  | map (values : Schema) (attributes : Attributes)
  | union (variants : List Schema)
  | named (definition : Definition)
  | reference (name : Name)

/-- The definition of a name. -/
inductive Definition where
  | record (label : Label) (fields : List Field)
  | enum (label : Label) (symbols : List String) (fallback : Option String)
  | fixed (type : FixedSize)

/-- A field of a record. -/
inductive Field where
  | mk (label : FieldLabel) (type : Schema)

end

instance : Inhabited Schema := ⟨.primitive .null⟩

namespace Field

/-- What the field says besides its type. -/
def label : Field → FieldLabel
  | mk label _ => label

/-- The type of the field. -/
def type : Field → Schema
  | mk _ type => type

/-- The name of the field. -/
def name (field : Field) : String :=
  field.label.name

end Field

namespace Definition

/-- The name that is defined, and its attributes. -/
def label : Definition → Label
  | record label _ => label
  | enum label _ _ => label
  | fixed type => type.label

/-- The name that is defined. -/
def name (definition : Definition) : Name :=
  definition.label.name

end Definition

namespace Schema

/-- What schemas without a name are told apart by. -/
inductive Kind where
  | primitive (type : Primitive)
  | intTime (time : IntTime)
  | longTime (time : LongTime)
  | decimal
  | bigDecimal
  | uuid
  | duration
  | array
  | map
  | union
deriving DecidableEq, Repr

/-- The kind of a schema without a name. -/
def kind? : Schema → Option Kind
  | primitive type => some (.primitive type)
  | intTime time => some (.intTime time)
  | longTime time => some (.longTime time)
  | decimal _ _ _ => some .decimal
  | bigDecimal => some .bigDecimal
  | uuid => some .uuid
  | duration => some .duration
  | array _ _ => some .array
  | map _ _ => some .map
  | union _ => some .union
  | named _ => none
  | reference _ => none

/-- The namespace of the name that a schema has. -/
def space? : Schema → Option String
  | named definition => definition.name.space
  | reference name => name.space
  | _ => none

/-- Whether schemas may be the variants of a union: none of them is a union, and no two without a
name have the same kind. -/
def distinctVariants (variants : List Schema) : Bool :=
  let kinds := variants.filterMap kind?
  !kinds.contains .union && decide kinds.Nodup

end Schema

/-- What names stand for. The first entry of a name counts. -/
abbrev Definitions := List (Name × Definition)

namespace Definitions

/-- What a name stands for. -/
def get? (definitions : Definitions) (name : Name) : Option Definition :=
  (List.find? (fun entry => entry.1 = name) definitions).map (·.2)

mutual

/-- The definitions in a schema on top of those `before` it in the same place, under their names as
they read where `enclosing` surrounds the schema. Nothing when a name is defined twice in the place,
or referred to when it is neither defined before nor `outside` of the place. -/
def addSchema? (outside before : Definitions) (enclosing : Option String) :
    Schema → Option Definitions
  | .array items _ => addSchema? outside before enclosing items
  | .map values _ => addSchema? outside before enclosing values
  | .union variants => addVariants? outside before enclosing variants
  | .named definition => addDefinition? outside before enclosing definition
  | .reference name =>
    let name := name.within enclosing
    if (get? before name).isSome || (get? outside name).isSome then some before else none
  | _ => some before

/-- The definitions in a definition, itself included. The fields of a record are surrounded by the
namespace of its name. -/
def addDefinition? (outside before : Definitions) (enclosing : Option String)
    (definition : Definition) : Option Definitions :=
  let name := definition.name.within enclosing
  if (get? before name).isSome then none
  else
    match definition with
    | .record label fields =>
      addFields? outside ((name, .record label fields) :: before) name.space fields
    | .enum label symbols fallback => some ((name, .enum label symbols fallback) :: before)
    | .fixed type => some ((name, .fixed type) :: before)

/-- The definitions in variants. -/
def addVariants? (outside before : Definitions) (enclosing : Option String) :
    List Schema → Option Definitions
  | [] => some before
  | variant :: rest =>
    match addSchema? outside before enclosing variant with
    | some after => addVariants? outside after enclosing rest
    | none => none

/-- The definitions in fields. -/
def addFields? (outside before : Definitions) (enclosing : Option String) :
    List Field → Option Definitions
  | [] => some before
  | .mk _ type :: rest =>
    match addSchema? outside before enclosing type with
    | some after => addFields? outside after enclosing rest
    | none => none

end

/-- What the names in a schema stand for. Nothing when a name is defined twice, or referred to
before it is defined. -/
def ofSchema? (schema : Schema) : Option Definitions :=
  addSchema? [] [] none schema

/-- The definitions with those in a schema in front of them, as they read where `enclosing`
surrounds it. -/
def extend? (definitions : Definitions) (enclosing : Option String) (schema : Schema) :
    Option Definitions :=
  (addSchema? definitions [] enclosing schema).map (· ++ definitions)

end Definitions

end FramedAvro.Avro
