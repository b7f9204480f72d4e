/-!
# Bytes

Byte sequences, their hexadecimal spelling, and the two fixed-width byte orders the formats of this
library use: most significant byte first in a frame, least significant byte first in Avro floats.
-/

namespace FramedAvro

/-- A sequence of bytes. -/
abbrev Bytes := List UInt8

/-! ### Hexadecimal text -/

namespace Hex

/-- The lower case digit of a value below sixteen. -/
def digit (n : Nat) : Char :=
  if n < 10 then Char.ofNat (48 + n) else Char.ofNat (87 + n)

/-- The value of a hexadecimal digit of either case. -/
def value? (c : Char) : Option Nat :=
  if '0' ≤ c ∧ c ≤ '9' then some (c.toNat - 48)
  else if 'a' ≤ c ∧ c ≤ 'f' then some (c.toNat - 87)
  else if 'A' ≤ c ∧ c ≤ 'F' then some (c.toNat - 55)
  else none

/-- The upper case digit of a value below sixteen. -/
def upperDigit (n : Nat) : Char :=
  if n < 10 then Char.ofNat (48 + n) else Char.ofNat (55 + n)

/-- Two lower case digits, the high one first. -/
def ofByte (b : UInt8) : List Char :=
  [digit (b.toNat / 16), digit (b.toNat % 16)]

/-- Two lower case digits for each byte. -/
def encode (bytes : Bytes) : String :=
  String.ofList (bytes.flatMap ofByte)

/-- Bytes from pairs of digits, or nothing when the count is odd or a digit is none. -/
def decodeChars? : List Char → Option Bytes
  | [] => some []
  | high :: low :: rest => do
    let h ← value? high
    let l ← value? low
    let bytes ← decodeChars? rest
    return UInt8.ofNat (h * 16 + l) :: bytes
  | [_] => none

/-- Bytes from their hexadecimal text. -/
def decode? (text : String) : Option Bytes :=
  decodeChars? text.toList

end Hex

/-! ### Words as bytes -/

namespace Bytes

/-- Four bytes, the most significant first. -/
def ofWord (word : UInt32) : Bytes :=
  [UInt8.ofNat (word.toNat / 0x1000000), UInt8.ofNat (word.toNat / 0x10000),
    UInt8.ofNat (word.toNat / 0x100), UInt8.ofNat word.toNat]

/-- The word whose bytes, the most significant first, are the four given. -/
def toWord (a b c d : UInt8) : UInt32 :=
  UInt32.ofNat (a.toNat * 0x1000000 + b.toNat * 0x10000 + c.toNat * 0x100 + d.toNat)

/-- The `count` lowest bytes of a number, the least significant first. -/
def ofNatLittle : (count n : Nat) → Bytes
  | 0, _ => []
  | count + 1, n => UInt8.ofNat n :: ofNatLittle count (n / 256)

/-- The number whose bytes, the least significant first, are given. -/
def toNatLittle : Bytes → Nat
  | [] => 0
  | b :: rest => b.toNat + 256 * toNatLittle rest

/-- The first `count` bytes and the rest, or nothing when there are fewer. -/
def takeExactly? (count : Nat) (bytes : Bytes) : Option (Bytes × Bytes) :=
  if bytes.length < count then none else some (bytes.take count, bytes.drop count)

end Bytes

end FramedAvro
