import FramedAvro.Avro.Value
import FramedAvro.Avro.Uuid
import FramedAvro.Text.Utf8

/-!
# Reading values as items

How the parts of an item are read from an Avro value. A value need not have been written as the part
that is asked for: numbers are taken from every type of number that has room for them, texts from
everything that spells one, and most parts also from inside a union.

## Main definitions

* `Value.asInt`, `asLong`, `asText`, `asOption`, `asRecord` and so on: one part of an item.
* `Value.generic?`: a value as whatever it is by itself.
-/

namespace FramedAvro.Avro.Value

/-- The number of an int, a long or a time. -/
def integer? : Value → Option Int
  | int i => some i.toInt
  | long i => some i.toInt
  | intTime _ i => some i.toInt
  | longTime _ i => some i.toInt
  | _ => none

/-- An integer from `low` up to `high`. -/
def asInteger (low high : Int) (v : Value) : Option Int :=
  match v.unwrapped.integer? with
  | some i => if low ≤ i ∧ i ≤ high then some i else none
  | none => none

/-- A number of 32 bits. -/
def asInt (v : Value) : Option Int32 :=
  (v.asInteger Int32.minValue.toInt Int32.maxValue.toInt).map Int32.ofInt

/-- A number of 64 bits. -/
def asLong (v : Value) : Option Int64 :=
  (v.asInteger Int64.minValue.toInt Int64.maxValue.toInt).map Int64.ofInt

/-- A natural number below `size`. -/
def asNatBelow (size : Nat) (v : Value) : Option Nat :=
  (v.asInteger 0 ((size : Int) - 1)).map Int.toNat

/-- A truth value. -/
def asBool (v : Value) : Option Bool :=
  match v.unwrapped with
  | boolean b => some b
  | _ => none

/-- The bits of a floating-point number in a format, from a number of any type. -/
def asFloat (target : BinaryFloat.Format) (v : Value) : Option Nat :=
  match v.unwrapped with
  | float bits =>
    some (BinaryFloat.single.convert target bits.toNat)
  | double bits =>
    some (BinaryFloat.double.convert target bits.toNat)
  | other => other.integer?.map target.ofInt

/-- The text of a value that is no union and no enum. -/
def plainText? : Value → Option String
  | string text => some text
  | bytes content => Utf8.decode? content
  | fixed _ content => Utf8.decode? content
  | uuid content => some (Uuid.text content)
  | _ => none

/-- A text. An enum spells one by its symbol, but not inside a union. -/
def asText : Value → Option String
  | enum _ symbol => some symbol
  | union _ content => content.plainText?
  | other => other.plainText?

/-- Bytes. -/
def asBytes : Value → Option Bytes
  | string text => some (Utf8.encode text)
  | bytes content => some content
  | fixed _ content => some content
  | _ => none

/-- Something that may be missing, which only a union says: nothing where it holds null. -/
def asOption {α : Type} (read : Value → Option α) : Value → Option (Option α)
  | union _ null => some none
  | union _ content => (read content).map some
  | _ => none

/-- A list. A union that holds null is the empty one. -/
def asList {α : Type} (read : Value → Option α) (v : Value) : Option (List α) :=
  match v with
  | array items => items.mapM read
  | union _ (array items) => items.mapM read
  | union _ null => some []
  | _ => none

/-- A map, in ascending order of its keys, from a map or the fields of a record. -/
def asMap {α : Type} (read : Value → Option α) (v : Value) : Option (List (String × α)) :=
  let readEntry (entry : String × Value) : Option (String × α) :=
    (read entry.2).map fun a => (entry.1, a)
  match v with
  | map entries => (entries.mapM readEntry).map Entries.ofList
  | record fields => (fields.mapM readEntry).map Entries.ofList
  | _ => none

/-- One of the symbols of an enum. A record names one in its first field, which is called `type`,
and a union that holds null stands for the symbol at its index. -/
def asSymbol (symbols : List String) (v : Value) : Option String :=
  let symbol? :=
    match v with
    | string text => some text
    | enum _ symbol => some symbol
    | union index null => symbols[index]?
    | record ((name, string text) :: _) => if name = "type" then some text else none
    | record ((name, enum _ symbol) :: _) => if name = "type" then some symbol else none
    | _ => none
  symbol?.filter symbols.contains

mutual

/-- The value as whatever it is by itself: a record is a map, a union is its content, an enum its
symbol, a time its number, a fixed value or a decimal its bytes, and a UUID its text. Nothing by
itself are a duration, a decimal without bytes, and a union inside a union. -/
def generic? : Value → Option Value
  | union _ content =>
    match content with
    | union _ _ => none
    | other => generic? other
  | null => some null
  | boolean b => some (boolean b)
  | int i => some (int i)
  | long i => some (long i)
  | float bits => some (float bits)
  | double bits => some (double bits)
  | bytes content => some (bytes content)
  | string text => some (string text)
  | fixed _ content => some (bytes content)
  | enum _ symbol => some (string symbol)
  | array items => (genericItems? items).map array
  | map entries => (genericEntries? entries).map fun entries => map (Entries.ofList entries)
  | record fields => (genericEntries? fields).map fun entries => map (Entries.ofList entries)
  | intTime _ i => some (int i)
  | longTime _ i => some (long i)
  | decimal content => if content.isEmpty then none else some (bytes content)
  | uuid content => some (string (Uuid.text content))
  | duration _ _ _ => none

/-- The items, each as whatever it is by itself. -/
def genericItems? : List Value → Option (List Value)
  | [] => some []
  | v :: rest =>
    match generic? v with
    | some g => (genericItems? rest).map (g :: ·)
    | none => none

/-- The values of entries, each as whatever it is by itself. -/
def genericEntries? : List (String × Value) → Option (List (String × Value))
  | [] => some []
  | (key, v) :: rest =>
    match generic? v with
    | some g => (genericEntries? rest).map ((key, g) :: ·)
    | none => none

end

/-- The fields of a record, of which those with a known name come once, and the others can be read
as whatever they are. A union that holds null is a record without fields. -/
def asRecord (known : List String) (v : Value) : Option (List (String × Value)) :=
  let fields? :=
    match v with
    | record fields => some fields
    | union _ (record fields) => some fields
    | union _ null => some []
    | _ => none
  match fields? with
  | some fields =>
    let own := fields.filter fun field => known.contains field.1
    let others := fields.filter fun field => !known.contains field.1
    if decide (own.map (·.1)).Nodup && others.all (fun field => (generic? field.2).isSome) then
      some own
    else none
  | none => none

/-- A field that must be there. -/
def field {α : Type} (name : String) (read : Value → Option α) (fields : List (String × Value)) :
    Option α :=
  (fields.lookup name).bind read

/-- A field that may be missing. -/
def optionalField {α : Type} (name : String) (read : Value → Option α)
    (fields : List (String × Value)) : Option (Option α) :=
  match fields.lookup name with
  | some v => asOption read v
  | none => some none

end FramedAvro.Avro.Value
