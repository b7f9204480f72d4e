import FramedAvro.Bytes

/-!
# UTF-8

Texts as bytes and back. `Utf8.decode?` refuses bytes that are no UTF-8, `Utf8.decodeLossy` puts the
replacement character wherever a character breaks off.

## Main results

* `Utf8.decode?_encode`: every text is read back from its bytes.
-/

namespace FramedAvro.Utf8

/-- The bytes of a text. -/
def encode (text : String) : Bytes :=
  text.toUTF8.data.toList

/-- The text whose bytes are given. -/
def decode? (bytes : Bytes) : Option String :=
  String.fromUTF8? ⟨bytes.toArray⟩

/-- Every text is read back from its bytes. -/
theorem decode?_encode (text : String) : decode? (encode text) = some text := by
  obtain ⟨⟨⟨bytes⟩⟩, valid⟩ := text
  exact dif_pos valid

/-- The character that stands for bytes that are no character. -/
def replacement : Char := Char.ofNat 0xFFFD

/-- The range of the second byte after a first byte, and how many bytes follow the first. Nothing
for a byte that starts no character of several bytes. -/
def continuation? (first : Nat) : Option (Nat × Nat × Nat) :=
  if 0xC2 ≤ first ∧ first ≤ 0xDF then some (0x80, 0xBF, 1)
  else if first = 0xE0 then some (0xA0, 0xBF, 2)
  else if first = 0xED then some (0x80, 0x9F, 2)
  else if 0xE1 ≤ first ∧ first ≤ 0xEF then some (0x80, 0xBF, 2)
  else if first = 0xF0 then some (0x90, 0xBF, 3)
  else if first = 0xF4 then some (0x80, 0x8F, 3)
  else if 0xF1 ≤ first ∧ first ≤ 0xF3 then some (0x80, 0xBF, 3)
  else none

/-- The bits a first byte contributes when `count` bytes follow it. -/
def leadBits (first count : Nat) : Nat :=
  first % (1 <<< (6 - count))

/-- Where the decoder stands: between characters, or with `bits` of a character of which `count`
bytes are missing, the next between `low` and `high`. -/
inductive State where
  | start
  | within (bits count low high : Nat)

/-- What a byte at the start of a character gives, and where the decoder stands after it. -/
def lead (b : Nat) : List Char × State :=
  if b < 0x80 then ([Char.ofNat b], .start)
  else
    match continuation? b with
    | some (low, high, count) => ([], .within (leadBits b count) count low high)
    | none => ([replacement], .start)

/-- What the next byte gives, and where the decoder stands after it. -/
def step : State → Nat → List Char × State
  | .start, b => lead b
  | .within bits count low high, b =>
    if low ≤ b ∧ b ≤ high then
      let bits := bits * 64 + b % 64
      if count = 1 then ([Char.ofNat bits], .start) else ([], .within bits (count - 1) 0x80 0xBF)
    else
      let (chars, next) := lead b
      (replacement :: chars, next)

/-- The characters of bytes, from where the decoder stands. -/
def decodeLossyFrom : State → Bytes → List Char
  | .start, [] => []
  | .within _ _ _ _, [] => [replacement]
  | state, b :: rest =>
    let (chars, next) := step state b.toNat
    chars ++ decodeLossyFrom next rest

/-- The text of bytes, with the replacement character for each part that is no character. -/
def decodeLossy (bytes : Bytes) : String :=
  String.ofList (decodeLossyFrom .start bytes)

end FramedAvro.Utf8
