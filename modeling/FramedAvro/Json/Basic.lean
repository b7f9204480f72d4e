import FramedAvro.Table

/-!
# JSON values

A JSON value keeps its numbers as they are spelled, so that no digit is lost, and the members of an
object in the order and as often as they are written.
-/

namespace FramedAvro

/-- A decimal digit. -/
abbrev Digit := Fin 10

namespace Digit

/-- The character of a digit. -/
def toChar (d : Digit) : Char :=
  Char.ofNat (48 + d.val)

/-- The digit a character stands for. -/
def ofChar? (c : Char) : Option Digit :=
  if h : 48 ≤ c.toNat ∧ c.toNat < 58 then some ⟨c.toNat - 48, by omega⟩ else none

/-- The number that digits spell, the first of them the most significant. -/
def toNat (digits : List Digit) : Nat :=
  digits.foldl (fun n d => 10 * n + d.val) 0

end Digit

namespace Json

/-- A power of ten as it is spelled, leading zeros included. -/
structure Exponent where
  negative : Bool
  first : Digit
  others : List Digit
deriving DecidableEq, Repr

/-- A number as it is spelled. No digits after the point means that there is no point. -/
structure Number where
  negative : Bool
  whole : Nat
  fraction : List Digit
  exponent : Option Exponent
deriving DecidableEq, Repr

namespace Number

/-- Whether a number has neither a point nor an exponent. -/
def isInteger (n : Number) : Bool :=
  n.fraction.isEmpty && n.exponent.isNone

/-- The number spelled without point and exponent. -/
def ofInt (i : Int) : Number :=
  ⟨decide (i < 0), i.natAbs, [], none⟩

/-- The number a spelling without point and exponent stands for. -/
def toInt? (n : Number) : Option Int :=
  if n.isInteger then some (if n.negative then -n.whole else n.whole) else none

/-- The natural number a spelling without sign, point and exponent stands for. -/
def toNat? (n : Number) : Option Nat :=
  if n.isInteger && !n.negative then some n.whole else none

end Number

end Json

/-- A JSON value as it is written. -/
inductive Json where
  | null
  | bool (b : Bool)
  | number (n : Json.Number)
  | string (text : String)
  | array (items : List Json)
  | object (members : List (String × Json))
deriving Inhabited

namespace Json

/-- The value of a member of an object. -/
def get? (key : String) : Json → Option Json
  | object members => Entries.get? key members
  | _ => none

/-- The text of a string. -/
def string? : Json → Option String
  | string text => some text
  | _ => none

/-- The items of an array. -/
def array? : Json → Option (List Json)
  | array items => some items
  | _ => none

/-- The integer of a number spelled without point and exponent. -/
def int? : Json → Option Int
  | number n => n.toInt?
  | _ => none

/-- The natural number of a number spelled without sign, point and exponent. -/
def nat? : Json → Option Nat
  | number n => n.toNat?
  | _ => none

/-- An integer as JSON. -/
def ofInt (i : Int) : Json :=
  number (.ofInt i)

/-- A natural number as JSON. -/
def ofNat (n : Nat) : Json :=
  ofInt n

end Json

end FramedAvro
