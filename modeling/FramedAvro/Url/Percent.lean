import FramedAvro.Text.Utf8

/-!
# Percent-encoding

A character that may not stand in a part of a URL is written as its UTF-8 bytes, each as a percent
sign and two upper case digits. Which characters these are depends on the part.

## Main definitions

* `Percent.encode`, `Percent.decode`: writing and reading.
* `Percent.pathSet` and the other sets: what is encoded where.
* `Form.encodePairs`, `Form.decodePairs`: names and values in a query.
-/

namespace FramedAvro.Url

namespace Percent

/-- The three characters of an encoded byte. -/
def ofByte (b : UInt8) : List Char :=
  ['%', Hex.upperDigit (b.toNat / 16), Hex.upperDigit (b.toNat % 16)]

/-- The characters that a character of the set is written with. -/
def ofChar (c : Char) : List Char :=
  (Utf8.encode (String.singleton c)).flatMap ofByte

/-- The characters with those of the set encoded. -/
def encode (set : Char → Bool) (s : List Char) : List Char :=
  s.flatMap fun c => if set c then ofChar c else [c]

/-- The bytes of the characters, with the encoded ones decoded. A percent sign without two digits
after it stands for itself. -/
def decode : List Char → Bytes
  | [] => []
  | [c] => Utf8.encode (String.singleton c)
  | [c, d] => Utf8.encode (String.singleton c) ++ Utf8.encode (String.singleton d)
  | c :: high :: low :: rest =>
    if c = '%' then
      match Hex.value? high, Hex.value? low with
      | some h, some l => UInt8.ofNat (16 * h + l) :: decode rest
      | _, _ => Utf8.encode (String.singleton c) ++ decode (high :: low :: rest)
    else Utf8.encode (String.singleton c) ++ decode (high :: low :: rest)
termination_by s => s.length

/-! ### Sets -/

/-- Controls, and everything outside ASCII. -/
def controlSet (c : Char) : Bool :=
  c.toNat < 0x20 || 0x7F ≤ c.toNat

/-- What is encoded in a fragment. -/
def fragmentSet (c : Char) : Bool :=
  controlSet c || [' ', '"', '<', '>', Char.ofNat 0x60].contains c

/-- What is encoded in a path. -/
def pathSet (c : Char) : Bool :=
  fragmentSet c || ['#', '?', '\x7b', '\x7d'].contains c

/-- What is encoded in a single segment of a path, of a URL of a special scheme or not. -/
def segmentSet (special : Bool) (c : Char) : Bool :=
  pathSet c || ['/', '%'].contains c || (special && c = '\\')

/-- What is encoded in a user name or a password. -/
def userSet (c : Char) : Bool :=
  pathSet c || ['/', ':', ';', '=', '@', '[', '\\', ']', '^', '|'].contains c

/-- What is encoded in a query, of a URL of a special scheme or not. -/
def querySet (special : Bool) (c : Char) : Bool :=
  controlSet c || [' ', '"', '#', '<', '>'].contains c || (special && c = Char.ofNat 0x27)

end Percent

/-! ### Queries -/

namespace Form

/-- Whether a byte of a name or a value stands for itself. -/
def isPlain (b : UInt8) : Bool :=
  let c := Char.ofNat b.toNat
  c.isAlphanum || ['*', '-', '.', '_'].contains c

/-- The characters of a byte: a space is a plus sign. -/
def ofByte (b : UInt8) : List Char :=
  if b = 32 then ['+'] else if isPlain b then [Char.ofNat b.toNat] else Percent.ofByte b

/-- The characters of a name or a value. -/
def encode (text : String) : List Char :=
  (Utf8.encode text).flatMap ofByte

/-- The characters of names with their values. -/
def encodePairs : List (String × String) → List Char
  | [] => []
  | [(name, value)] => encode name ++ '=' :: encode value
  | (name, value) :: rest => encode name ++ '=' :: encode value ++ '&' :: encodePairs rest

/-- The parts between the places where a character stands. -/
def splitAt (mark : Char) : List Char → List (List Char)
  | [] => [[]]
  | c :: rest =>
    if c = mark then [] :: splitAt mark rest
    else
      match splitAt mark rest with
      | part :: parts => (c :: part) :: parts
      | [] => [[c]]

/-- The text of a name or a value. -/
def decode (s : List Char) : String :=
  Utf8.decodeLossy (Percent.decode (s.map fun c => if c = '+' then ' ' else c))

/-- The names with their values in a query. -/
def decodePairs (s : List Char) : List (String × String) :=
  ((splitAt '&' s).filter (!·.isEmpty)).map fun part =>
    (decode (part.takeWhile (· ≠ '=')), decode ((part.dropWhile (· ≠ '=')).drop 1))

end Form

end FramedAvro.Url
