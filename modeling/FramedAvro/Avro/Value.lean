import FramedAvro.Avro.Schema
import FramedAvro.BinaryFloat
import FramedAvro.Bytes

/-!
# Values

The values that Avro schemas describe. Floating-point numbers are kept as bits, so that equality
means the same number, and maps have their entries in ascending order of the keys.

A fixed value says its size beside its bytes, and nothing makes the two agree: whoever builds a
value may put any bytes under any size. Most checks look at the size alone, while what is written
are the bytes.
-/

namespace FramedAvro.Avro

/-- An Avro value. -/
inductive Value where
  | null
  | boolean (b : Bool)
  | int (i : Int32)
  | long (i : Int64)
  | float (bits : UInt32)
  | double (bits : UInt64)
  | bytes (content : Bytes)
  | string (text : String)
  | fixed (size : Nat) (content : Bytes)
  | enum (index : Nat) (symbol : String)
  | union (index : Nat) (content : Value)
  | array (items : List Value)
  | map (entries : List (String × Value))
  | record (fields : List (String × Value))
  | intTime (time : IntTime) (i : Int32)
  | longTime (time : LongTime) (i : Int64)
  | decimal (content : Bytes)
  | uuid (content : Bytes)
  | duration (months days millis : UInt32)
deriving Inhabited

namespace Value

/-- The kind of schema that a value without a name belongs to by itself. -/
def kind? : Value → Option Schema.Kind
  | null => some (.primitive .null)
  | boolean _ => some (.primitive .boolean)
  | int _ => some (.primitive .int)
  | long _ => some (.primitive .long)
  | float _ => some (.primitive .float)
  | double _ => some (.primitive .double)
  | bytes _ => some (.primitive .bytes)
  | string _ => some (.primitive .string)
  | array _ => some .array
  | map _ => some .map
  | intTime time _ => some (.intTime time)
  | longTime time _ => some (.longTime time)
  | decimal _ => some .decimal
  | uuid _ => some .uuid
  | duration _ _ _ => some .duration
  | union _ _ => some .union
  | fixed _ _ => none
  | enum _ _ => none
  | record _ => none

/-- The content of a union, and any other value itself. -/
def unwrapped : Value → Value
  | union _ content => content
  | v => v

mutual

/-- The text of a value in messages. -/
def describe : Value → String
  | null => "Null"
  | boolean b => "Boolean(" ++ toString b ++ ")"
  | int i => "Int(" ++ toString i.toInt ++ ")"
  | long i => "Long(" ++ toString i.toInt ++ ")"
  | float bits => "Float(" ++ toString bits.toNat ++ ")"
  | double bits => "Double(" ++ toString bits.toNat ++ ")"
  | bytes content => "Bytes(" ++ Hex.encode content ++ ")"
  | string text => "String(" ++ text ++ ")"
  | fixed size content => "Fixed(" ++ toString size ++ ", " ++ Hex.encode content ++ ")"
  | enum index symbol => "Enum(" ++ toString index ++ ", " ++ symbol ++ ")"
  | union index content => "Union(" ++ toString index ++ ", " ++ describe content ++ ")"
  | array items => "Array([" ++ ", ".intercalate (describeItems items) ++ "])"
  | map entries => "Map([" ++ ", ".intercalate (describeEntries entries) ++ "])"
  | record fields => "Record([" ++ ", ".intercalate (describeEntries fields) ++ "])"
  | intTime _ i => "IntTime(" ++ toString i.toInt ++ ")"
  | longTime _ i => "LongTime(" ++ toString i.toInt ++ ")"
  | decimal content => "Decimal(" ++ Hex.encode content ++ ")"
  | uuid content => "Uuid(" ++ Hex.encode content ++ ")"
  | duration months days millis =>
    "Duration(" ++ ", ".intercalate ([months, days, millis].map fun w => toString w.toNat) ++ ")"

/-- The texts of the items of an array. -/
def describeItems : List Value → List String
  | [] => []
  | v :: rest => describe v :: describeItems rest

/-- The texts of the entries of a map or of the fields of a record. -/
def describeEntries : List (String × Value) → List String
  | [] => []
  | (key, v) :: rest => (key ++ ": " ++ describe v) :: describeEntries rest

end

/-- The digits of a number, and the power of ten they are multiplied by. -/
def decimalOf (n : Json.Number) : Nat × Int :=
  let digits := Digit.toNat n.fraction + n.whole * Nat.pow 10 n.fraction.length
  let power : Int :=
    match n.exponent with
    | some e =>
      let size : Int := Digit.toNat (e.first :: e.others)
      if e.negative then -size else size
    | none => 0
  (digits, power - n.fraction.length)

/-- The value a number in a schema stands for: an int where it fits one, a long for other integers,
where those beyond the longs wrap around, and a double when it has a point or an exponent. No value
has an integer that takes more than 64 bits, or a number too large to be a double. -/
def ofNumber? (n : Json.Number) : Option Value :=
  match n.toInt? with
  | some i =>
    if Int32.minValue.toInt ≤ i ∧ i ≤ Int32.maxValue.toInt then some (int (Int32.ofInt i))
    else if Int64.minValue.toInt ≤ i ∧ i < UInt64.size then some (long (Int64.ofInt i))
    else none
  | none =>
    let format := BinaryFloat.double
    let (digits, power) := decimalOf n
    let bits := format.ofDecimal n.negative digits power
    if format.magnitude bits < format.infinity then some (double (UInt64.ofNat bits)) else none

mutual

/-- The value that a default in a schema stands for, unless it has a number without one. -/
def ofJson? : Json → Option Value
  | .null => some null
  | .bool b => some (boolean b)
  | .number n => ofNumber? n
  | .string text => some (string text)
  | .array items => (ofItems? items).map array
  | .object members => (ofMembers? members).map map

/-- The values of the items of an array. -/
def ofItems? : List Json → Option (List Value)
  | [] => some []
  | item :: rest => do
    let v ← ofJson? item
    let values ← ofItems? rest
    return v :: values

/-- The values of the members of an object. -/
def ofMembers? : List (String × Json) → Option (List (String × Value))
  | [] => some []
  | (key, item) :: rest => do
    let v ← ofJson? item
    let values ← ofMembers? rest
    return (key, v) :: values

end

end Value

end FramedAvro.Avro
