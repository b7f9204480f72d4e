import FramedAvro.Avro.Resolve
import FramedAvro.Json.Parser

/-!
# Schemas in JSON

`Schema.ofJson?` reads a schema from a JSON document. A word is a type without parts or a reference,
an array is a union, and an object is whatever its member `type` says, possibly with a logical type
on top.

Names are known from where their definition starts, so that a record can refer to itself, and stay
known by their aliases as well. A default has to resolve against the type of its field, for a union
against any of the variants.

Most of what is no schema is refused. But the name and the aliases that a definition gives itself
are taken for granted to be names, and a default to have a value, and where they are not, reading
breaks.

## Main definitions

* `Known`: the names that were met so far.
* `LogicalType`: what can stand on top of another type.
* `Schema.ofJson?`, `Schema.parse?`: the schema of a document, and of a text.
-/

namespace FramedAvro.Avro

/-! ### Known names -/

/-- The names that were met: those with a finished definition, and those of definitions that are
being read, with the name that each of them stands for. -/
structure Known where
  finished : Definitions
  started : List (Name × Name)

namespace Known

/-- No names. -/
def empty : Known := ⟨[], []⟩

/-- The name that a started definition or alias stands for. -/
def started? (known : Known) (name : Name) : Option Name :=
  (known.started.find? (·.1 = name)).map (·.2)

/-- The schema of a reference. -/
def reference? (known : Known) (name : Name) : Option Schema :=
  match known.finished.get? name with
  | some _ => some (.reference name)
  | none => (known.started? name).map .reference

/-- The schema that a name was used for already. -/
def seen? (known : Known) (name : Name) : Option Schema :=
  match known.started? name with
  | some own => some (.reference own)
  | none => (known.finished.get? name).map .named

/-- A definition starts. -/
def start (known : Known) (name : Name) (aliases : List Name) : Known :=
  { known with started := (name :: aliases).map (fun n => (n, name)) ++ known.started }

/-- A definition ends. -/
def finish (known : Known) (definition : Definition) (aliases : List Name) : Known :=
  let names := definition.name :: aliases
  ⟨(names.map fun n => (n, definition)) ++ known.finished,
    known.started.filter fun entry => !names.contains entry.1⟩

end Known

/-- A step that reads a part of a schema. -/
abbrev Reading := StateT Known Checked

/-- The step that refuses what it was given. -/
def refuse {α : Type} : Reading α :=
  throw .refused

/-- The step that goes on only where `ok` holds. -/
def require (ok : Bool) : Reading Unit :=
  if ok then return () else refuse

/-! ### Logical types -/

/-- A type that stands on top of another. -/
inductive LogicalType where
  | decimal
  | bigDecimal
  | uuid
  | duration
  | intTime (time : IntTime)
  | longTime (time : LongTime)
deriving DecidableEq, Repr

namespace LogicalType

/-- The logical types by name. -/
def names : List (String × LogicalType) :=
  [("decimal", decimal), ("big-decimal", bigDecimal), ("uuid", uuid), ("duration", duration),
    ("date", intTime .date), ("time-millis", intTime .timeMillis),
    ("time-micros", longTime .timeMicros), ("timestamp-millis", longTime .timestampMillis),
    ("timestamp-micros", longTime .timestampMicros), ("timestamp-nanos", longTime .timestampNanos),
    ("local-timestamp-millis", longTime .localTimestampMillis),
    ("local-timestamp-micros", longTime .localTimestampMicros),
    ("local-timestamp-nanos", longTime .localTimestampNanos)]

/-- The logical type of a name. -/
def ofName? (name : String) : Option LogicalType :=
  names.lookup name

/-- A count of digits, which is a natural number that fits 64 bits. -/
def digitCount? (j : Json) : Option Nat :=
  match j.int? with
  | some i => if 0 ≤ i ∧ i < UInt64.size then some i.toNat else none
  | none => none

/-- The precision, at least one, and the scale, at most the precision, of a decimal. -/
def decimalDigits? (members : List (String × Json)) : Option (Nat × Nat) := do
  let precision ← (Entries.get? "precision" members).bind digitCount?
  let scale ←
    match Entries.get? "scale" members with
    | some j => digitCount? j
    | none => some 0
  if 1 ≤ precision ∧ scale ≤ precision then return (precision, scale) else none

/-- The type on top of `base`, or `base` itself when the two do not fit. -/
def onTopOf (base : Schema) (members : List (String × Json)) : LogicalType → Schema
  | decimal =>
    let carrier? : Option DecimalCarrier :=
      match base with
      | .primitive .bytes => some .bytes
      | .named (.fixed type) => some (.fixed type)
      | _ => none
    match carrier?, decimalDigits? members with
    | some carrier, some (precision, scale) => .decimal precision scale carrier
    | _, _ => base
  | bigDecimal =>
    match base with
    | .primitive .bytes => .bigDecimal
    | _ => base
  | uuid =>
    match base with
    | .primitive .string => .uuid
    | .named (.fixed type) => if type.size = Uuid.size then .uuid else base
    | _ => base
  | duration =>
    match base with
    | .named (.fixed _) => .duration
    | _ => base
  | intTime time =>
    match base with
    | .primitive .int => .intTime time
    | _ => base
  | longTime time =>
    match base with
    | .primitive .long => .longTime time
    | _ => base

end LogicalType

/-! ### Parts of schemas -/

namespace SchemaJson

/-- The types without parts by name. -/
def primitives : List (String × Primitive) :=
  [("null", .null), ("boolean", .boolean), ("int", .int), ("long", .long), ("float", .float),
    ("double", .double), ("bytes", .bytes), ("string", .string)]

/-- The text of a member. -/
def textOf (key : String) (members : List (String × Json)) : Option String :=
  (Entries.get? key members).bind Json.string?

/-- The members with keys other than the given. -/
def attributesBut (keys : List String) (members : List (String × Json)) : Attributes :=
  members.filter fun member => !keys.contains member.1

/-- The keys every schema may have. -/
def commonKeys : List String :=
  ["type", "name", "namespace", "doc", "aliases", "logicalType"]

/-- The keys every field may have. -/
def fieldKeys : List String :=
  ["type", "name", "doc", "default", "order", "position", "aliases", "logicalType"]

/-- The keys with which a field describes the enum or the fixed type that it has. -/
def inlineKeys : Schema → List String
  | .named (.enum _ _ _) => ["symbols"]
  | .named (.fixed _) => ["size"]
  | _ => []

/-- The aliases of a definition, none when some of them are not texts. Texts that are no names are a
crash. -/
def aliasesOf (space : Option String) (members : List (String × Json)) : Checked (List Name) :=
  match Entries.get? "aliases" members with
  | some (.array items) =>
    match items.mapM Json.string? with
    | some texts => .orCrash (texts.mapM (Name.referred? space))
    | none => .ok []
  | _ => .ok []

/-- The aliases of a field. -/
def fieldAliasesOf (members : List (String × Json)) : List String :=
  match Entries.get? "aliases" members with
  | some (.array items) => items.filterMap Json.string?
  | _ => []

/-- The name a definition gives itself. A text that is no name is a crash. -/
def nameOf (space : Option String) (members : List (String × Json)) : Checked Name := do
  let text ← Checked.ofOption (textOf "name" members)
  let spelling ← Checked.orCrash (Name.spelled? text)
  Checked.ofOption (Name.defined? space spelling (textOf "namespace" members))

/-- The first of some schemas that a value resolves to. -/
def resolvesToAny (known : Known) (v : Value) : List Schema → Checked Value
  | [] => .error .refused
  | schema :: rest =>
    (v.resolve known.finished known.finished.fieldCount schema.space? schema).orElse
      (resolvesToAny known v rest)

/-- What the default of a field resolves to, for a union against the first variant that takes it. -/
def resolveFallback (known : Known) (type : Schema) (fallback : Json) : Checked Value := do
  let v ← Checked.orCrash (Value.ofJson? fallback)
  match type with
  | .union variants => resolvesToAny known v variants
  | _ => v.resolve known.finished known.finished.fieldCount type.space? type

/-- The step that goes on only where the default of a field, if it has one, resolves against its
type. -/
def checkFallback (type : Schema) : Option Json → Reading Unit
  | none => return ()
  | some fallback => do
    let known ← get
    let _ ← resolveFallback known type fallback

/-- Whether no field has the name of one before it, or an alias of one before it. -/
def distinctFields (taken : List String) : List Field → Bool
  | [] => true
  | .mk label _ :: rest =>
    !taken.contains label.name && distinctFields (label.name :: label.aliases ++ taken) rest

/-- The symbols of an enum: identifiers, each once. -/
def symbolsOf (j : Json) : Option (List String) := do
  let symbols ← (← j.array?).mapM Json.string?
  if symbols.all (fun s => Name.isIdentifier s.toList) && decide symbols.Nodup then
    return symbols
  else none

/-- The default of an enum, which must be one of its symbols. -/
def symbolFallback? (symbols : List String) (members : List (String × Json)) :
    Option (Option String) :=
  match Entries.get? "default" members with
  | none => some none
  | some (.string symbol) => if symbols.contains symbol then some (some symbol) else none
  | some _ => none

/-- The schema of a word that is no type without parts. -/
def readReference (space : Option String) (word : String) : Reading Schema := do
  let name ← Checked.ofOption (Name.referred? space word)
  Checked.ofOption ((← get).reference? name)

/-- The schema of a word. -/
def readWord (space : Option String) (word : String) : Reading Schema :=
  match primitives.lookup word with
  | some type => return .primitive type
  | none => readReference space word

/-- The name and the aliases of a definition. -/
def readHead (space : Option String) (members : List (String × Json)) :
    Reading (Name × List Name) := do
  let name ← nameOf space members
  let aliases ← aliasesOf name.space members
  return (name, aliases)

/-- The schema known by the word that a definition without content has as its type. If there is none
it is refused, but only after its name and aliases were looked at when `named` says so. -/
def readSeen (space : Option String) (word : String) (named : Bool)
    (members : List (String × Json)) : Reading Schema := do
  match (← get).seen? ⟨space, word⟩ with
  | some schema => return schema
  | none =>
    if named then
      let _ ← readHead space members
    refuse

/-- A definition that ends here. -/
def readEnd (definition : Definition) (aliases : List Name) : Reading Schema := do
  modify (·.finish definition aliases)
  return .named definition

/-- An enum. -/
def readEnum (space : Option String) (members : List (String × Json)) : Reading Schema :=
  match Entries.get? "symbols" members with
  | none => readSeen space "enum" true members
  | some j => do
    let (name, aliases) ← readHead space members
    let symbols ← Checked.ofOption (symbolsOf j)
    let fallback ← Checked.ofOption (symbolFallback? symbols members)
    let label : Label := ⟨name, attributesBut ("symbols" :: commonKeys) members⟩
    readEnd (.enum label symbols fallback) aliases

/-- A fixed type. -/
def readFixed (space : Option String) (members : List (String × Json)) : Reading Schema :=
  match Entries.get? "size" members with
  | none => readSeen space "fixed" false members
  | some j => do
    let size ← Checked.ofOption j.nat?
    require (size < UInt64.size)
    require ((textOf "default" members).all fun text => (Utf8.encode text).length = size)
    let (name, aliases) ← readHead space members
    let label : Label := ⟨name, attributesBut ("size" :: commonKeys) members⟩
    readEnd (.fixed ⟨label, size⟩) aliases

/-! ### Schemas -/

/-- A value that is found among members is smaller than they are. -/
theorem sizeOf_get?_lt {key : String} {members : List (String × Json)} {j : Json}
    (h : Entries.get? key members = some j) : sizeOf j < sizeOf members := by
  induction members with
  | nil => simp [Entries.get?] at h
  | cons head rest ih =>
    obtain ⟨k, v⟩ := head
    rw [Entries.get?] at h
    split at h
    · cases h
      simp only [List.cons.sizeOf_spec, Prod.mk.sizeOf_spec]
      omega
    · have := ih h
      simp only [List.cons.sizeOf_spec]
      omega

mutual

/-- The schema of a JSON value. -/
def read (space : Option String) (j : Json) : Reading Schema :=
  match j with
  | .string word => readWord space word
  | .object members => readObject space false members
  | .array items => do
    let variants ← readVariants space items
    require (Schema.distinctVariants variants)
    return .union variants
  | _ => refuse
termination_by (sizeOf j, 0)

/-- The schema of an object. In the place of a field, `record` as type is a reference. -/
def readObject (space : Option String) (inField : Bool) (members : List (String × Json)) :
    Reading Schema :=
  match Entries.get? "logicalType" members with
  | none => readType space inField members
  | some (.string name) =>
    match LogicalType.ofName? name with
    | some logicalType => do
      let base ← readBase space members
      return logicalType.onTopOf base members
    | none => readType space inField members
  | some _ => refuse
termination_by (sizeOf members, 3)

/-- The schema below a logical type. -/
def readBase (space : Option String) (members : List (String × Json)) : Reading Schema :=
  match _h : Entries.get? "type" members with
  | none => refuse
  | some type =>
    if type.string? = some "fixed" then readFixed space members else read space type
termination_by (sizeOf members, 2)
decreasing_by
  exact Prod.Lex.left _ _ (sizeOf_get?_lt _h)

/-- The schema that the member `type` of an object asks for. -/
def readType (space : Option String) (inField : Bool) (members : List (String × Json)) :
    Reading Schema :=
  match _h : Entries.get? "type" members with
  | none => refuse
  | some type =>
    match type.string? with
    | some "record" =>
      if inField then readReference space "record" else readRecord space members
    | some "enum" => readEnum space members
    | some "fixed" => readFixed space members
    | some "array" =>
      match _h : Entries.get? "items" members with
      | some items => do
        return .array (← read space items) (attributesBut ("items" :: commonKeys) members)
      | none => refuse
    | some "map" =>
      match _h : Entries.get? "values" members with
      | some values => do
        return .map (← read space values) (attributesBut ("values" :: commonKeys) members)
      | none => refuse
    | _ => read space type
termination_by (sizeOf members, 2)
decreasing_by
  · exact Prod.Lex.right _ (by simp)
  all_goals exact Prod.Lex.left _ _ (sizeOf_get?_lt _h)

/-- A record. -/
def readRecord (space : Option String) (members : List (String × Json)) : Reading Schema :=
  match _h : Entries.get? "fields" members with
  | none => readSeen space "record" true members
  | some (.array items) => do
    let (name, aliases) ← readHead space members
    modify (·.start name aliases)
    let fields ← readFields name.space items
    require (distinctFields [] fields)
    let label : Label := ⟨name, attributesBut ("fields" :: commonKeys) members⟩
    readEnd (.record label fields) aliases
  | some _ => do
    let _ ← readHead space members
    refuse
termination_by (sizeOf members, 1)
decreasing_by
  have := sizeOf_get?_lt _h
  simp only [Json.array.sizeOf_spec] at this
  exact Prod.Lex.left _ _ (by omega)

/-- The variants of a union. -/
def readVariants (space : Option String) (items : List Json) : Reading (List Schema) :=
  match items with
  | [] => return []
  | item :: rest => do
    let variant ← read space item
    let variants ← readVariants space rest
    return variant :: variants
termination_by (sizeOf items, 1)

/-- The fields of a record. What is not an object is no field. -/
def readFields (space : Option String) (items : List Json) : Reading (List Field) :=
  match items with
  | [] => return []
  | .object members :: rest => do
    let field ← readField space members
    let fields ← readFields space rest
    return field :: fields
  | _ :: rest => readFields space rest
termination_by (sizeOf items, 1)

/-- A field of a record. -/
def readField (space : Option String) (members : List (String × Json)) : Reading Field := do
  let name ← Checked.ofOption (textOf "name" members)
  require (Name.isIdentifier name.toList)
  let type ← readObject space true members
  let fallback := Entries.get? "default" members
  checkFallback type fallback
  return .mk ⟨name, fallback, fieldAliasesOf members,
    attributesBut (inlineKeys type ++ fieldKeys) members⟩ type
termination_by (sizeOf members, 4)

end

end SchemaJson

/-- The schema of a JSON document whose members are sorted. -/
def Schema.ofJson? (j : Json) : Checked Schema :=
  ((SchemaJson.read none j).run Known.empty).map (·.1)

/-- The schema of a text. -/
def Schema.parse? (text : String) : Checked Schema :=
  match Json.parseSorted? text with
  | some j => Schema.ofJson? j
  | none => .error .refused

/-- A text is parsed when it is JSON that is read as a schema. -/
theorem Schema.parse?_eq_ok_iff {text : String} {schema : Schema} :
    Schema.parse? text = .ok schema ↔
      ∃ j, Json.parseSorted? text = some j ∧ Schema.ofJson? j = .ok schema := by
  rw [Schema.parse?]
  cases Json.parseSorted? text <;> simp

end FramedAvro.Avro
