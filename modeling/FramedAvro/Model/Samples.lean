import FramedAvro.Json.Printer
import FramedAvro.Model.Basic
import FramedAvro.Model.Reading

/-!
# Sample models

A few types of items with their models: small records and two that evolved from others, an enum, one
record with a field of every sort, one that contains itself, and single values.
-/

namespace FramedAvro.Sample

open Avro

/-! ### Schemas -/

/-- A field of a record schema. -/
def fieldSchema (name : String) (type : Json) : Json :=
  .object [("name", .string name), ("type", type)]

/-- A field of a record schema with a default. -/
def fieldSchemaOr (name : String) (type fallback : Json) : Json :=
  .object [("name", .string name), ("type", type), ("default", fallback)]

/-- A record schema, in a namespace if one is given. -/
def recordSchema (name : String) (space : Option String) (fields : List Json) : Json :=
  .object ([("type", .string "record"), ("name", .string name)] ++
    (match space with
      | some space => [("namespace", .string space)]
      | none => []) ++ [("fields", .array fields)])

/-- The schema of what may be missing. -/
def nullable (type : String) : Json :=
  .array [.string "null", .string type]

/-! ### Small records -/

/-- An item with a number and a name. -/
structure Item where
  id : Int32
  name : String
deriving DecidableEq, Repr

/-- The model of items. -/
def Item.model : Model Item where
  schema := (recordSchema "R" none
    [fieldSchema "id" (.string "int"), fieldSchema "name" (.string "string")]).text
  toValue item := some (.record [("id", .int item.id), ("name", .string item.name)])
  ofValue v := do
    let fields ← v.asRecord ["id", "name"]
    let id ← Value.field "id" Value.asInt fields
    let name ← Value.field "name" Value.asText fields
    return ⟨id, name⟩

/-- An item that has an address as well. -/
structure ItemWithEmail where
  id : Int32
  name : String
  email : String
deriving DecidableEq, Repr

/-- The model of items with an address. -/
def ItemWithEmail.model : Model ItemWithEmail where
  schema := (recordSchema "R" none
    [fieldSchema "id" (.string "int"), fieldSchema "name" (.string "string"),
      fieldSchemaOr "email" (.string "string") (.string "unknown")]).text
  toValue item := some (.record
    [("id", .int item.id), ("name", .string item.name), ("email", .string item.email)])
  ofValue v := do
    let fields ← v.asRecord ["id", "name", "email"]
    let id ← Value.field "id" Value.asInt fields
    let name ← Value.field "name" Value.asText fields
    let email ← Value.field "email" Value.asText fields
    return ⟨id, name, email⟩

/-- An item of which only the number is left. -/
structure ItemId where
  id : Int32
deriving DecidableEq, Repr

/-- The model of the numbers of items. -/
def ItemId.model : Model ItemId where
  schema := (recordSchema "R" none [fieldSchema "id" (.string "int")]).text
  toValue item := some (.record [("id", .int item.id)])
  ofValue v := do
    let fields ← v.asRecord ["id"]
    let id ← Value.field "id" Value.asInt fields
    return ⟨id⟩

/-- A sign of life. -/
structure Heartbeat where
  beat : Int64
deriving DecidableEq, Repr

/-- The model of signs of life. -/
def Heartbeat.model : Model Heartbeat where
  schema := (recordSchema "Heartbeat" (some "nl.openweb.data")
    [fieldSchema "beat" (.string "long")]).text
  toValue item := some (.record [("beat", .long item.beat)])
  ofValue v := do
    let fields ← v.asRecord ["beat"]
    let beat ← Value.field "beat" Value.asLong fields
    return ⟨beat⟩

/-- An order. -/
structure Order where
  id : Int64
  product : String
deriving DecidableEq, Repr

/-- The model of orders. -/
def Order.model : Model Order where
  schema := (recordSchema "Order" (some "shop")
    [fieldSchema "id" (.string "long"), fieldSchema "product" (.string "string")]).text
  toValue item := some (.record [("id", .long item.id), ("product", .string item.product)])
  ofValue v := do
    let fields ← v.asRecord ["id", "product"]
    let id ← Value.field "id" Value.asLong fields
    let product ← Value.field "product" Value.asText fields
    return ⟨id, product⟩

/-- An order with a quantity, which is one where it is not said. -/
structure OrderV2 where
  id : Int64
  product : String
  quantity : Int32
deriving DecidableEq, Repr

/-- The model of orders with a quantity. -/
def OrderV2.model : Model OrderV2 where
  schema := (recordSchema "Order" (some "shop")
    [fieldSchema "id" (.string "long"), fieldSchema "product" (.string "string"),
      fieldSchemaOr "quantity" (.string "int") (.ofInt 1)]).text
  toValue item := some (.record
    [("id", .long item.id), ("product", .string item.product), ("quantity", .int item.quantity)])
  ofValue v := do
    let fields ← v.asRecord ["id", "product", "quantity"]
    let id ← Value.field "id" Value.asLong fields
    let product ← Value.field "product" Value.asText fields
    let quantity ← Value.field "quantity" Value.asInt fields
    return ⟨id, product, quantity⟩

/-! ### An enum -/

/-- A suit of cards. -/
inductive Suit where
  | spades
  | hearts
  | diamonds
  | clubs
deriving DecidableEq, Repr

namespace Suit

/-- Every suit. -/
def all : List Suit := [spades, hearts, diamonds, clubs]

/-- The symbol of a suit. -/
def symbol : Suit → String
  | spades => "SPADES"
  | hearts => "HEARTS"
  | diamonds => "DIAMONDS"
  | clubs => "CLUBS"

/-- The suit of a symbol. -/
def ofSymbol? (text : String) : Option Suit :=
  all.find? (·.symbol == text)

/-- The schema of suits. -/
def schemaJson : Json :=
  .object [("type", .string "enum"), ("name", .string "Suit"),
    ("symbols", .array (all.map fun suit => .string suit.symbol))]

/-- The value of a suit. -/
def toValue (suit : Suit) : Value :=
  .string suit.symbol

/-- The suit of a value. -/
def ofValue (v : Value) : Option Suit :=
  (v.asSymbol (all.map symbol)).bind ofSymbol?

/-- The model of suits. -/
def model : Model Suit where
  schema := schemaJson.text
  toValue suit := some suit.toValue
  ofValue := ofValue

end Suit

/-! ### Fields of every sort -/

/-- A record inside a record. -/
structure Inner where
  x : Int32
  note : Option String
deriving DecidableEq, Repr

/-- A record with a field of every sort. Floating-point numbers are kept as bits. -/
structure AllTypes where
  flag : Bool
  small : Int32
  big : Int64
  f : UInt32
  d : UInt64
  s : String
  raw : Bytes
  opt : Option Int64
  list : List Int32
  map : List (String × Int64)
  suit : Suit
  inner : Inner
deriving DecidableEq, Repr

/-- The value of what may be missing. -/
def optionValue {α : Type} (value : α → Value) : Option α → Value
  | none => .union 0 .null
  | some a => .union 1 (value a)

/-- The value of a record inside a record. -/
def Inner.toValue (inner : Inner) : Value :=
  .record [("x", .int inner.x), ("note", optionValue .string inner.note)]

/-- The record inside a record of a value. -/
def Inner.ofValue (v : Value) : Option Inner := do
  let fields ← v.asRecord ["x", "note"]
  let x ← Value.field "x" Value.asInt fields
  let note ← Value.optionalField "note" Value.asText fields
  return ⟨x, note⟩

namespace AllTypes

/-- The schema of records with fields of every sort. -/
def schemaJson : Json :=
  recordSchema "AllTypes" (some "all.types")
    [fieldSchema "flag" (.string "boolean"), fieldSchema "small" (.string "int"),
      fieldSchema "big" (.string "long"), fieldSchema "f" (.string "float"),
      fieldSchema "d" (.string "double"), fieldSchema "s" (.string "string"),
      fieldSchema "raw" (.string "bytes"), fieldSchemaOr "opt" (nullable "long") .null,
      fieldSchema "list" (.object [("type", .string "array"), ("items", .string "int")]),
      fieldSchema "map" (.object [("type", .string "map"), ("values", .string "long")]),
      fieldSchema "suit" Suit.schemaJson,
      fieldSchema "inner" (recordSchema "Inner" none
        [fieldSchema "x" (.string "int"), fieldSchemaOr "note" (nullable "string") .null])]

/-- The value of an item. -/
def toValue (item : AllTypes) : Value :=
  .record [("flag", .boolean item.flag), ("small", .int item.small), ("big", .long item.big),
    ("f", .float item.f), ("d", .double item.d), ("s", .string item.s), ("raw", .bytes item.raw),
    ("opt", optionValue .long item.opt), ("list", .array (item.list.map .int)),
    ("map", .map (item.map.map fun entry => (entry.1, .long entry.2))),
    ("suit", item.suit.toValue), ("inner", item.inner.toValue)]

/-- The fields of an item. -/
def fieldNames : List String :=
  ["flag", "small", "big", "f", "d", "s", "raw", "opt", "list", "map", "suit", "inner"]

/-- The item of a value. -/
def ofValue (v : Value) : Option AllTypes := do
  let fields ← v.asRecord fieldNames
  let flag ← Value.field "flag" Value.asBool fields
  let small ← Value.field "small" Value.asInt fields
  let big ← Value.field "big" Value.asLong fields
  let f ← Value.field "f" (Value.asFloat BinaryFloat.single) fields
  let d ← Value.field "d" (Value.asFloat BinaryFloat.double) fields
  let s ← Value.field "s" Value.asText fields
  let raw ← Value.field "raw" Value.asBytes fields
  let opt ← Value.optionalField "opt" Value.asLong fields
  let list ← Value.field "list" (Value.asList Value.asInt) fields
  let map ← Value.field "map" (Value.asMap Value.asLong) fields
  let suit ← Value.field "suit" Suit.ofValue fields
  let inner ← Value.field "inner" Inner.ofValue fields
  return ⟨flag, small, big, UInt32.ofNat f, UInt64.ofNat d, s, raw, opt, list, map, suit, inner⟩

/-- The model of records with fields of every sort. -/
def model : Model AllTypes where
  schema := schemaJson.text
  toValue item := some item.toValue
  ofValue := ofValue

end AllTypes

/-! ### A record that contains itself -/

/-- A binary tree with a number at every node. -/
inductive Tree where
  | node (value : Int64) (left right : Option Tree)

namespace Tree

mutual

/-- The value of a tree. -/
def toValue : Tree → Value
  | node value left right =>
    .record [("value", .long value), ("left", branchValue left), ("right", branchValue right)]

/-- The value of a branch, which may be missing. -/
def branchValue : Option Tree → Value
  | none => .union 0 .null
  | some tree => .union 1 tree.toValue

end

/-- The fields of a node. -/
def fieldNames : List String :=
  ["value", "left", "right"]

/-- A value that is found among fields is smaller than they are. -/
theorem sizeOf_lookup_lt {name : String} {fields : List (String × Value)} {v : Value}
    (h : fields.lookup name = some v) : sizeOf v < sizeOf fields := by
  induction fields with
  | nil => simp at h
  | cons head rest ih =>
    obtain ⟨key, w⟩ := head
    rw [List.lookup_cons] at h
    split at h
    · cases h
      simp only [List.cons.sizeOf_spec, Prod.mk.sizeOf_spec]
      omega
    · have := ih h
      simp only [List.cons.sizeOf_spec]
      omega

/-- Some of the fields are no larger than all of them. -/
theorem sizeOf_filter_le (p : String × Value → Bool) (fields : List (String × Value)) :
    sizeOf (fields.filter p) ≤ sizeOf fields := by
  induction fields with
  | nil => simp
  | cons head rest ih =>
    rw [List.filter_cons]
    split <;> simp only [List.cons.sizeOf_spec] <;> omega

/-- The fields of what is taken for a record are smaller than it is. -/
theorem sizeOf_asRecord_lt {known : List String} {v : Value} {fields : List (String × Value)}
    (h : v.asRecord known = some fields) : sizeOf fields < sizeOf v := by
  unfold Value.asRecord at h
  simp only at h
  split at h
  next all hall =>
    split at h
    · cases h
      have hle := sizeOf_filter_le (fun field => known.contains field.1) all
      split at hall
      · cases hall
        simp only [Value.record.sizeOf_spec]
        omega
      · cases hall
        simp only [Value.record.sizeOf_spec, Value.union.sizeOf_spec]
        omega
      · cases hall
        simp only [Value.union.sizeOf_spec, Value.null.sizeOf_spec, List.nil.sizeOf_spec] at hle ⊢
        omega
      · contradiction
    · contradiction
  · contradiction

/-- The tree of a value. -/
def ofValue (v : Value) : Option Tree :=
  match _h : v.asRecord fieldNames with
  | none => none
  | some fields =>
    let left :=
      match _hleft : fields.lookup "left" with
      | none => some none
      | some (.union _ .null) => some none
      | some (.union _ content) => (ofValue content).map some
      | some _ => none
    let right :=
      match _hright : fields.lookup "right" with
      | none => some none
      | some (.union _ .null) => some none
      | some (.union _ content) => (ofValue content).map some
      | some _ => none
    match Value.field "value" Value.asLong fields, left, right with
    | some value, some left, some right => some (node value left right)
    | _, _, _ => none
termination_by sizeOf v
decreasing_by
  · have hfields := sizeOf_asRecord_lt _h
    have hbranch := sizeOf_lookup_lt _hleft
    simp only [Value.union.sizeOf_spec] at hbranch
    omega
  · have hfields := sizeOf_asRecord_lt _h
    have hbranch := sizeOf_lookup_lt _hright
    simp only [Value.union.sizeOf_spec] at hbranch
    omega

/-- The model of trees. -/
def model : Model Tree where
  schema := (recordSchema "Tree" (some "nl.tree")
    [fieldSchema "value" (.string "long"), fieldSchemaOr "left" (nullable "Tree") .null,
      fieldSchemaOr "right" (nullable "nl.tree.Tree") .null]).text
  toValue tree := some tree.toValue
  ofValue := ofValue

end Tree

/-! ### Numbers -/

/-- A record of numbers of several widths. -/
structure Numbers where
  a : UInt8
  b : Int16
  c : UInt32
  d : UInt64
deriving DecidableEq, Repr

namespace Numbers

/-- A natural number of 32 bits: an int where it fits one. -/
def ofWord (w : UInt32) : Value :=
  if (w.toNat : Int) ≤ Int32.maxValue.toInt then .int (Int32.ofInt w.toNat)
  else .long (Int64.ofInt w.toNat)

/-- A natural number of 64 bits, if it fits a long. -/
def ofLongWord? (w : UInt64) : Option Value :=
  if (w.toNat : Int) ≤ Int64.maxValue.toInt then some (.long (Int64.ofInt w.toNat)) else none

/-- The value of an item. -/
def toValue (item : Numbers) : Option Value := do
  let d ← ofLongWord? item.d
  return .record [("a", .int (Int32.ofInt item.a.toNat)), ("b", .int item.b.toInt32),
    ("c", ofWord item.c), ("d", d)]

/-- The item of a value. -/
def ofValue (v : Value) : Option Numbers := do
  let fields ← v.asRecord ["a", "b", "c", "d"]
  let a ← Value.field "a" (Value.asNatBelow UInt8.size) fields
  let b ← Value.field "b" (Value.asInteger Int16.minValue.toInt Int16.maxValue.toInt) fields
  let c ← Value.field "c" (Value.asNatBelow UInt32.size) fields
  let d ← Value.field "d" (Value.asNatBelow UInt64.size) fields
  return ⟨UInt8.ofNat a, Int16.ofInt b, UInt32.ofNat c, UInt64.ofNat d⟩

/-- The model of numbers. -/
def model : Model Numbers where
  schema := (recordSchema "Numbers" none
    [fieldSchema "a" (.string "int"), fieldSchema "b" (.string "int"),
      fieldSchema "c" (.string "long"), fieldSchema "d" (.string "long")]).text
  toValue := toValue
  ofValue := ofValue

end Numbers

/-! ### Single values -/

/-- The model of texts. -/
def text : Model String where
  schema := (Json.string "string").text
  toValue s := some (.string s)
  ofValue := Value.asText

/-- The model of longs. -/
def long : Model Int64 where
  schema := (Json.string "long").text
  toValue i := some (.long i)
  ofValue := Value.asLong

/-- The model of values as whatever they are by themselves, which can only be read. -/
def anything : Model Value where
  schema := (Json.string "null").text
  toValue _ := none
  ofValue := Value.generic?

end FramedAvro.Sample
