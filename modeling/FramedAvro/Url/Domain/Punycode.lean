import FramedAvro.Bytes

/-!
# Punycode

Labels with other characters than those of ASCII are sent as letters, digits and hyphens: first the
characters of ASCII, then, after a hyphen if there were any, numbers that say which other characters
stand in between. Each number is the count of steps from one such character to the next, where a
step goes to the next place in the text and after the last place to the next code.

The numbers are written with digits of base 36, the least first, and end with a digit below a
threshold, which follows the size of the numbers before.

## Main definitions

* `Punycode.decode?`: the text of an encoded label.
* `Punycode.encode`: the encoded label of a text.
-/

namespace FramedAvro.Url.Domain.Punycode

/-! ### Digits and thresholds -/

/-- How many digits there are. -/
def base : Nat := 36

/-- The greatest threshold. The least is one. -/
def greatestThreshold : Nat := 26

/-- The bias at the start. -/
def firstBias : Nat := 72

/-- The first code of another character than those of ASCII. -/
def firstCode : Nat := 0x80

/-- The value of a digit: letters of either case, then the decimal digits. -/
def digit? (c : Char) : Option Nat :=
  if c.isLower then some (c.toNat - 'a'.toNat)
  else if c.isUpper then some (c.toNat - 'A'.toNat)
  else if c.isDigit then some (c.toNat - '0'.toNat + 26)
  else none

/-- The digit of a value. -/
def digitOf (d : Nat) : Char :=
  if d < 26 then Char.ofNat ('a'.toNat + d) else Char.ofNat ('0'.toNat + (d - 26))

/-- The threshold of a digit: `reach` is `base` for the first digit, and `base` more for each one
after it. -/
def threshold (bias reach : Nat) : Nat :=
  if reach ≤ bias then 1 else min (reach - bias) greatestThreshold

/-- A threshold is at least one, so that a digit below it is no digit but zero. -/
theorem threshold_pos (bias reach : Nat) : 0 < threshold bias reach := by
  unfold threshold greatestThreshold
  split <;> omega

/-- The bias of a scaled number of steps, on top of the bias so far. -/
def settle (bias steps : Nat) : Nat :=
  if 455 < steps then settle (bias + base) (steps / 35) else bias + 36 * steps / (steps + 38)
termination_by steps
decreasing_by omega

/-- The bias after a number of steps, when the text then has `size` characters. The first number is
scaled down more than the others. -/
def nextBias (steps size : Nat) (isFirst : Bool) : Nat :=
  let scaled := if isFirst then steps / 700 else steps / 2
  settle 0 (scaled + scaled / size)

/-! ### Reading -/

/-- The numbers in a label stay below this one. -/
def wordLimit : Nat := UInt32.size

/-- Adds the number at the front of a label to a sum. -/
def addNumber (bias : Nat) : (reach weight sum : Nat) → List Char → Option (Nat × List Char)
  | _, _, _, [] => none
  | reach, weight, sum, c :: rest =>
    match digit? c with
    | none => none
    | some d =>
      let sum := sum + d * weight
      let t := threshold bias reach
      if wordLimit ≤ sum then none
      else if d < t then some (sum, rest)
      else if wordLimit ≤ weight * (base - t) then none
      else addNumber bias (reach + base) (weight * (base - t)) sum rest

/-- A number uses up characters. -/
theorem length_lt_of_addNumber {bias reach weight sum n : Nat} {s rest : List Char}
    (h : addNumber bias reach weight sum s = some (n, rest)) : rest.length < s.length := by
  induction s generalizing reach weight sum with
  | nil => simp [addNumber] at h
  | cons c s ih =>
    rw [addNumber] at h
    split at h
    · contradiction
    · dsimp only at h
      split at h
      · contradiction
      split at h
      · cases h
        simp
      split at h
      · contradiction
      · have := ih h
        simp only [List.length_cons]
        omega

/-- The text with the characters whose numbers are left. The steps go on at the place `index` of the
code `code`. -/
def insertAll (code index bias : Nat) (text s : List Char) : Option (List Char) :=
  match s with
  | [] => some text
  | c :: rest =>
    match _h : addNumber bias base 1 index (c :: rest) with
    | none => none
    | some (sum, after) =>
      let size := text.length + 1
      let code := code + sum / size
      let index' := sum % size
      if code.isValidChar then
        insertAll code (index' + 1) (nextBias (sum - index) size (index = 0))
          (text.insertIdx index' (Char.ofNat code)) after
      else none
termination_by s.length
decreasing_by
  have := length_lt_of_addNumber _h
  simpa using this

/-- The characters before the last hyphen, and the numbers after it. A hyphen at the front does not
count. -/
def splitNumbers (s : List Char) : List Char × List Char :=
  match s.reverse.dropWhile (· ≠ '-') with
  | _ :: c :: before => ((c :: before).reverse, (s.reverse.takeWhile (· ≠ '-')).reverse)
  | _ => ([], s)

/-- The text of an encoded label. -/
def decode? (s : List Char) : Option (List Char) :=
  insertAll firstCode 0 firstBias (splitNumbers s).1 (splitNumbers s).2

/-! ### Writing -/

/-- The digits of a number. -/
def numberDigits (bias reach n : Nat) : List Char :=
  let t := threshold bias reach
  if n < t then [digitOf n]
  else digitOf (t + (n - t) % (base - t)) :: numberDigits bias (reach + base) ((n - t) / (base - t))
termination_by n
decreasing_by
  have hpos := threshold_pos bias reach
  have := Nat.div_le_self (n - threshold bias reach) (base - threshold bias reach)
  omega

/-- What was written: the digits, the bias, how many characters of the text stand for themselves or
have their number, and the steps since the last number. -/
structure Writer where
  digits : List Char
  bias : Nat
  size : Nat
  steps : Nat

/-- The writer after it passed a character of the text on the way through the places of `code`. The
first number comes when the text has `basic` characters. -/
def Writer.pass (basic code : Nat) (writer : Writer) (c : Char) : Writer :=
  if c.toNat < code then { writer with steps := writer.steps + 1 }
  else if c.toNat = code then
    { digits := writer.digits ++ numberDigits writer.bias base writer.steps
      bias := nextBias writer.steps (writer.size + 1) (writer.size = basic)
      size := writer.size + 1
      steps := 0 }
  else writer

/-- The writer after it went through the places of codes, which come in ascending order. The steps
start at the first place of the code `from`. -/
def writeCodes (text : List Char) (basic : Nat) : (start : Nat) → List Nat → Writer → Writer
  | _, [], writer => writer
  | start, code :: rest, writer =>
    let writer := { writer with steps := writer.steps + (code - start) * (writer.size + 1) }
    let writer := text.foldl (Writer.pass basic code) writer
    writeCodes text basic (code + 1) rest { writer with steps := writer.steps + 1 }

/-- The encoded label of a text. -/
def encode (text : List Char) : List Char :=
  let basic := text.filter (·.toNat < firstCode)
  let codes := (((text.filter (firstCode ≤ ·.toNat)).map Char.toNat).mergeSort).eraseDups
  let writer := writeCodes text basic.length firstCode codes ⟨[], firstBias, basic.length, 0⟩
  basic ++ (if basic.isEmpty then [] else ['-']) ++ writer.digits

end FramedAvro.Url.Domain.Punycode
