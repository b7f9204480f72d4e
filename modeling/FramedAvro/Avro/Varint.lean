import FramedAvro.Bytes

/-!
# Integers of variable length

Integers are written with their sign folded into the last bit, so that small ones of either sign are
small, and then seven bits to a byte, the least significant first, each byte but the last with its
high bit set. Reading takes ten bytes at most and keeps the low 64 bits.
-/

namespace FramedAvro.Avro.Varint

/-- The integer with its sign folded into the last bit. -/
def fold (i : Int) : Nat :=
  if 0 ≤ i then 2 * i.toNat else 2 * (-i).toNat - 1

/-- The integer whose sign was folded into the last bit. -/
def unfold (n : Nat) : Int :=
  if n % 2 = 0 then (n / 2 : Nat) else -((n / 2 : Nat) : Int) - 1

/-- The bytes of a natural number. -/
def encodeNat (n : Nat) : Bytes :=
  if n < 128 then [UInt8.ofNat n] else UInt8.ofNat (n % 128 + 128) :: encodeNat (n / 128)

/-- The bytes of an integer. -/
def encode (i : Int) : Bytes :=
  encodeNat (fold i)

/-- What reading a number gives. -/
inductive Outcome where
  | number (n : Nat) (rest : Bytes)
  /-- The bytes end before the number does. -/
  | truncated
  /-- The number takes too many bytes. -/
  | tooLong
deriving DecidableEq, Repr

/-- The most bytes a number takes. -/
def maxLength : Nat := 10

/-- Reads a natural number of at most `count` bytes. -/
def readNat : (count : Nat) → Bytes → Outcome
  | 0, _ => .tooLong
  | _ + 1, [] => .truncated
  | count + 1, b :: rest =>
    if b.toNat < 128 then .number b.toNat rest
    else
      match readNat count rest with
      | .number n rest => .number (b.toNat - 128 + 128 * n) rest
      | other => other

/-- Reads a number, of which the low 64 bits are kept. -/
def read (bytes : Bytes) : Outcome :=
  match readNat maxLength bytes with
  | .number n rest => .number (n % UInt64.size) rest
  | other => other

/-- Reads an integer of 64 bits. -/
def decode? (bytes : Bytes) : Option (Int × Bytes) :=
  match read bytes with
  | .number n rest => some (unfold n, rest)
  | _ => none

/-- Reads an integer that fits 32 bits. -/
def decodeInt? (bytes : Bytes) : Option (Int × Bytes) :=
  match decode? bytes with
  | some (i, rest) =>
    if Int32.minValue.toInt ≤ i ∧ i ≤ Int32.maxValue.toInt then some (i, rest) else none
  | none => none

/-- The longest text or list that is read, so that a few bytes cannot ask for any amount of room. -/
def maxSize : Nat := 512 * 1024 * 1024

/-- Reads the length of a text or of bytes. -/
def decodeLength? (bytes : Bytes) : Option (Nat × Bytes) :=
  match decode? bytes with
  | some (i, rest) => if 0 ≤ i ∧ i.toNat ≤ maxSize then some (i.toNat, rest) else none
  | none => none

/-- Reads how many items a block has. A negative count is followed by the size of the block in
bytes, of which no use is made. -/
def decodeCount? (bytes : Bytes) : Option (Nat × Bytes) :=
  match decode? bytes with
  | some (i, rest) =>
    if 0 ≤ i then if i.toNat ≤ maxSize then some (i.toNat, rest) else none
    else
      match decode? rest with
      | some (_, rest) => if (-i).toNat ≤ maxSize then some ((-i).toNat, rest) else none
      | none => none
  | none => none

end FramedAvro.Avro.Varint
