import FramedAvro.Json.Basic
import FramedAvro.Bytes

/-!
# Reading JSON

`Json.parse?` reads a text that is one JSON value with nothing but blanks around it, and is strict:
no trailing commas, no comments, no raw control characters and no lone surrogates in strings, no
superfluous zeros, and at most 127 arrays and objects inside each other. `Json.parseSorted?` sorts
the members of what it read.

Every reader takes the characters that are left and gives what it read with the characters after it,
or nothing when they do not start with what it reads.
-/

namespace FramedAvro.Json

/-- The blanks that may stand between tokens. -/
def isBlank (c : Char) : Bool :=
  c = ' ' || c = '\n' || c = '\t' || c = '\r'

/-- What is left after the leading blanks. -/
def skipBlanks (s : List Char) : List Char :=
  s.dropWhile isBlank

/-! ### Numbers -/

/-- The leading digits, and what is left. -/
def readDigits : List Char → List Digit × List Char
  | [] => ([], [])
  | c :: rest =>
    match Digit.ofChar? c with
    | some d => (d :: (readDigits rest).1, (readDigits rest).2)
    | none => ([], c :: rest)

/-- The digits before the point, of which the first is a zero only when it is the only one. -/
def readWhole (s : List Char) : Option (Nat × List Char) :=
  match readDigits s with
  | ([], _) => none
  | (d :: ds, rest) => if d = 0 ∧ ds ≠ [] then none else some (Digit.toNat (d :: ds), rest)

/-- A point with at least one digit after it, or no point. -/
def readFraction : List Char → Option (List Digit × List Char)
  | '.' :: rest =>
    match readDigits rest with
    | ([], _) => none
    | (ds, rest) => some (ds, rest)
  | s => some ([], s)

/-- The sign of an exponent, which may be missing. -/
def readSign : List Char → Bool × List Char
  | '-' :: rest => (true, rest)
  | '+' :: rest => (false, rest)
  | s => (false, s)

/-- The letter of an exponent with a sign and at least one digit after it, or no exponent. -/
def readExponent : List Char → Option (Option Exponent × List Char)
  | [] => some (none, [])
  | c :: rest =>
    if c = 'e' ∨ c = 'E' then
      match readDigits (readSign rest).2 with
      | ([], _) => none
      | (d :: ds, last) => some (some ⟨(readSign rest).1, d, ds⟩, last)
    else some (none, c :: rest)

/-- A number after its sign. -/
def readUnsigned (negative : Bool) (s : List Char) : Option (Number × List Char) := do
  let (whole, s) ← readWhole s
  let (fraction, s) ← readFraction s
  let (exponent, s) ← readExponent s
  return (⟨negative, whole, fraction, exponent⟩, s)

/-- A number. -/
def readNumber : List Char → Option (Number × List Char)
  | '-' :: rest => readUnsigned true rest
  | s => readUnsigned false s

/-! ### Strings -/

/-- The number spelled by four hexadecimal digits. -/
def readUnit : List Char → Option (Nat × List Char)
  | a :: b :: c :: d :: rest => do
    let a ← Hex.value? a
    let b ← Hex.value? b
    let c ← Hex.value? c
    let d ← Hex.value? d
    return (((a * 16 + b) * 16 + c) * 16 + d, rest)
  | _ => none

/-- The character of an escape by code: of one code unit, or of a high and a low surrogate, each
with an escape of its own. -/
def readCode (s : List Char) : Option (Char × List Char) :=
  match readUnit s with
  | none => none
  | some (unit, rest) =>
    if 0xDC00 ≤ unit ∧ unit ≤ 0xDFFF then none
    else if 0xD800 ≤ unit ∧ unit ≤ 0xDBFF then
      match rest with
      | '\\' :: 'u' :: rest =>
        match readUnit rest with
        | none => none
        | some (low, rest) =>
          if 0xDC00 ≤ low ∧ low ≤ 0xDFFF then
            some (Char.ofNat (0x10000 + (unit - 0xD800) * 0x400 + (low - 0xDC00)), rest)
          else none
      | _ => none
    else some (Char.ofNat unit, rest)

/-- The character a short escape stands for. -/
def shortEscape? (c : Char) : Option Char :=
  if c = '"' then some '"'
  else if c = '\\' then some '\\'
  else if c = '/' then some '/'
  else if c = 'b' then some (Char.ofNat 8)
  else if c = 'f' then some (Char.ofNat 12)
  else if c = 'n' then some '\n'
  else if c = 'r' then some '\r'
  else if c = 't' then some '\t'
  else none

/-- The character of an escape, after the backslash. -/
def readEscape : List Char → Option (Char × List Char)
  | [] => none
  | c :: rest => if c = 'u' then readCode rest else (shortEscape? c).map fun e => (e, rest)

/-- Four digits of an escape are used up. -/
theorem length_lt_of_readUnit {s rest : List Char} {n : Nat}
    (h : readUnit s = some (n, rest)) : rest.length < s.length := by
  unfold readUnit at h
  split at h
  · simp only [Option.bind_eq_bind, Option.bind_eq_some_iff, Option.pure_def, Option.some.injEq,
      Prod.mk.injEq] at h
    obtain ⟨_, _, _, _, _, _, _, _, _, rfl⟩ := h
    simp only [List.length_cons]
    omega
  · contradiction

/-- An escape by code, of one or of two units, uses up characters. -/
theorem length_lt_of_readCode {s rest : List Char} {c : Char}
    (h : readCode s = some (c, rest)) : rest.length < s.length := by
  unfold readCode at h
  split at h
  · contradiction
  next unit after hunit =>
    have hafter := length_lt_of_readUnit hunit
    split at h
    · contradiction
    split at h
    · split at h
      · split at h
        · contradiction
        next hlow =>
          have hrest := length_lt_of_readUnit hlow
          split at h
          · simp only [Option.some.injEq, Prod.mk.injEq] at h
            obtain ⟨_, rfl⟩ := h
            simp only [List.length_cons] at hafter
            omega
          · contradiction
      · contradiction
    · simp only [Option.some.injEq, Prod.mk.injEq] at h
      obtain ⟨_, rfl⟩ := h
      exact hafter

/-- An escape uses up characters. -/
theorem length_lt_of_readEscape {s rest : List Char} {c : Char}
    (h : readEscape s = some (c, rest)) : rest.length < s.length := by
  unfold readEscape at h
  split at h
  · contradiction
  · split at h
    · have := length_lt_of_readCode h
      simp only [List.length_cons]
      omega
    · simp only [Option.map_eq_some_iff, Prod.mk.injEq] at h
      obtain ⟨_, _, _, rfl⟩ := h
      simp

/-- The characters of a string up to its closing quote, after the opening one. -/
def readChars (s : List Char) : Option (List Char × List Char) :=
  match s with
  | [] => none
  | c :: rest =>
    if c = '"' then some ([], rest)
    else if c = '\\' then
      match _h : readEscape rest with
      | none => none
      | some (e, rest) => (readChars rest).map fun (cs, last) => (e :: cs, last)
    else if c.toNat < 32 then none
    else (readChars rest).map fun (cs, last) => (c :: cs, last)
termination_by s.length
decreasing_by
  · have := length_lt_of_readEscape _h
    simp only [List.length_cons]
    omega
  · simp

/-- A string, from its opening quote. -/
def readString : List Char → Option (String × List Char)
  | '"' :: rest => (readChars rest).map fun (cs, last) => (String.ofList cs, last)
  | _ => none

/-! ### Values -/

/-- What is left after a word, when the text starts with it. -/
def readWord (word : List Char) (j : Json) (s : List Char) : Option (Json × List Char) :=
  if word.isPrefixOf s then some (j, s.drop word.length) else none

/-- A value that is neither an array nor an object. -/
def readScalar (s : List Char) : Option (Json × List Char) :=
  match s with
  | [] => none
  | c :: _ =>
    if c = '"' then (readString s).map fun (text, rest) => (string text, rest)
    else if c = 'n' then readWord ['n', 'u', 'l', 'l'] null s
    else if c = 't' then readWord ['t', 'r', 'u', 'e'] (bool true) s
    else if c = 'f' then readWord ['f', 'a', 'l', 's', 'e'] (bool false) s
    else (readNumber s).map fun (n, rest) => (number n, rest)

/-- One or more items with commas between them, and the closing bracket. -/
def readItems {α : Type} (item : List Char → Option (α × List Char)) (closing : Char)
    (s : List Char) : Option (List α × List Char) :=
  match item s with
  | none => none
  | some (a, rest) =>
    match skipBlanks rest with
    | [] => none
    | c :: rest =>
      if c = closing then some ([a], rest)
      else if c = ',' ∧ rest.length < s.length then
        (readItems item closing rest).map fun (more, last) => (a :: more, last)
      else none
termination_by s.length
decreasing_by
  next h => exact h.2

/-- Any number of items with commas between them, and the closing bracket. -/
def readSequence {α : Type} (item : List Char → Option (α × List Char)) (closing : Char)
    (s : List Char) : Option (List α × List Char) :=
  match skipBlanks s with
  | [] => none
  | c :: rest => if c = closing then some ([], rest) else readItems item closing (c :: rest)

/-- A key, a colon and a value. -/
def readMember (value : List Char → Option (Json × List Char)) (s : List Char) :
    Option ((String × Json) × List Char) :=
  match readString (skipBlanks s) with
  | none => none
  | some (key, rest) =>
    match skipBlanks rest with
    | ':' :: rest => (value rest).map fun (j, last) => ((key, j), last)
    | _ => none

/-- A value with at most `depth` arrays and objects inside each other, after any blanks. -/
def readValue : (depth : Nat) → List Char → Option (Json × List Char)
  | 0, s => readScalar (skipBlanks s)
  | depth + 1, s =>
    match skipBlanks s with
    | [] => none
    | c :: rest =>
      if c = '[' then
        (readSequence (readValue depth) ']' rest).map fun (items, last) => (array items, last)
      else if c = '\x7b' then
        (readSequence (readMember (readValue depth)) '\x7d' rest).map fun (members, last) =>
          (object members, last)
      else readScalar (c :: rest)

/-- How many arrays and objects may stand inside each other. -/
def maxDepth : Nat := 127

/-- What is read from a text, if nothing but blanks is left of it then. -/
def whole? (read : List Char → Option (Json × List Char)) (s : List Char) : Option Json :=
  match read s with
  | some (j, rest) => if skipBlanks rest = [] then some j else none
  | none => none

/-- The value a text is, as it is written. -/
def parseChars? (s : List Char) : Option Json :=
  whole? (readValue maxDepth) s

/-- The value a text is, as it is written. -/
def parse? (text : String) : Option Json :=
  parseChars? text.toList

/-! ### Sorted values -/

/-- The key whose object stands for a number when it comes first. -/
def numberKey : String := "$serde_json::private::Number"

/-- The number that a string spells from its first character to its last. -/
def spelledNumber? : Json → Option Json
  | string text =>
    match readNumber text.toList with
    | some (n, []) => some (number n)
    | _ => none
  | _ => none

mutual

/-- The value with the members of every object in ascending order of their keys, of equal keys the
last. An object that starts with `numberKey` is the number that this member, which has to be its
only one, spells. -/
def sorted? : Json → Option Json
  | array items => (sortedItems? items).map array
  | object members =>
    match members with
    | [] => some (object [])
    | (key, value) :: rest =>
      if key = numberKey then
        if rest.isEmpty then spelledNumber? value else none
      else (sortedMembers? ((key, value) :: rest)).map fun sorted => object (Entries.ofList sorted)
  | null => some null
  | bool b => some (bool b)
  | number n => some (number n)
  | string text => some (string text)

/-- Every item sorted. -/
def sortedItems? : List Json → Option (List Json)
  | [] => some []
  | item :: rest => do
    let item ← sorted? item
    return item :: (← sortedItems? rest)

/-- Every member's value sorted, the members still in their order. -/
def sortedMembers? : List (String × Json) → Option (List (String × Json))
  | [] => some []
  | (key, value) :: rest => do
    let value ← sorted? value
    return (key, value) :: (← sortedMembers? rest)

end

/-- The value a text is, with the members of its objects sorted. -/
def parseSorted? (text : String) : Option Json :=
  (parse? text).bind sorted?

end FramedAvro.Json
