import FramedAvro.Json.Basic
import FramedAvro.Bytes

/-!
# JSON text

`Json.text` writes a value without any blanks. In strings only what must be escaped is: the quote,
the backslash and the characters below the space, which have a short escape where there is one. An
exponent is written with a lower case `e` and always with a sign.
-/

namespace FramedAvro.Json

/-- The characters a character of a string is written with. -/
def escape (c : Char) : List Char :=
  if c = '"' then ['\\', '"']
  else if c = '\\' then ['\\', '\\']
  else if c.toNat = 8 then ['\\', 'b']
  else if c = '\t' then ['\\', 't']
  else if c = '\n' then ['\\', 'n']
  else if c.toNat = 12 then ['\\', 'f']
  else if c = '\r' then ['\\', 'r']
  else if c.toNat < 32 then
    ['\\', 'u', '0', '0', Hex.digit (c.toNat / 16), Hex.digit (c.toNat % 16)]
  else [c]

/-- A string between quotes. -/
def quote (text : String) : List Char :=
  '"' :: text.toList.flatMap escape ++ ['"']

/-- The decimal digits of a number, without leading zeros. -/
def decimal (n : Nat) : List Char :=
  Nat.toDigits 10 n

namespace Number

/-- The characters of an exponent, its letter and sign included. -/
def Exponent.chars (e : Exponent) : List Char :=
  'e' :: (if e.negative then '-' else '+') :: (e.first :: e.others).map Digit.toChar

/-- The characters of a number. -/
def chars (n : Number) : List Char :=
  (if n.negative then ['-'] else []) ++ decimal n.whole ++
    (if n.fraction.isEmpty then [] else '.' :: n.fraction.map Digit.toChar) ++
    (match n.exponent with
      | some e => Exponent.chars e
      | none => [])

end Number

mutual

/-- The characters of a value. -/
def chars : Json → List Char
  | null => ['n', 'u', 'l', 'l']
  | bool true => ['t', 'r', 'u', 'e']
  | bool false => ['f', 'a', 'l', 's', 'e']
  | number n => n.chars
  | string text => quote text
  | array items => '[' :: charsOfItems items ++ [']']
  | object members => '\x7b' :: charsOfMembers members ++ ['\x7d']

/-- The characters of items, with commas between them. -/
def charsOfItems : List Json → List Char
  | [] => []
  | item :: rest => item.chars ++ charsOfMoreItems rest

/-- The characters of items, with a comma before each. -/
def charsOfMoreItems : List Json → List Char
  | [] => []
  | item :: rest => ',' :: item.chars ++ charsOfMoreItems rest

/-- The characters of members, with commas between them. -/
def charsOfMembers : List (String × Json) → List Char
  | [] => []
  | (key, value) :: rest => quote key ++ ':' :: value.chars ++ charsOfMoreMembers rest

/-- The characters of members, with a comma before each. -/
def charsOfMoreMembers : List (String × Json) → List Char
  | [] => []
  | (key, value) :: rest => ',' :: quote key ++ ':' :: value.chars ++ charsOfMoreMembers rest

end

/-- The text of a value. -/
def text (j : Json) : String :=
  String.ofList j.chars

end FramedAvro.Json
