import FramedAvro.Bytes

/-!
# UUIDs

A UUID is sixteen bytes. Its text has 32 lower case digits with hyphens between five groups of them;
texts without hyphens, in braces or behind `urn:uuid:` are read as well.
-/

namespace FramedAvro.Avro.Uuid

/-- How many bytes a UUID has. -/
def size : Nat := 16

/-- The digits of the bytes. -/
def digits (content : Bytes) : List Char :=
  content.flatMap Hex.ofByte

/-- The text of a UUID. -/
def text (content : Bytes) : String :=
  let s := digits content
  let group (start count : Nat) : List Char := (s.drop start).take count
  String.ofList
    (group 0 8 ++ '-' :: group 8 4 ++ '-' :: group 12 4 ++ '-' :: group 16 4 ++ '-' :: group 20 12)

/-- The bytes of 32 digits. -/
def ofDigits? (s : List Char) : Option Bytes :=
  if s.length = 32 then Hex.decodeChars? s else none

/-- The bytes of digits with hyphens after the eighth, twelfth, sixteenth and twentieth. -/
def ofGroups? (s : List Char) : Option Bytes :=
  if s.length = 36 ∧ [8, 13, 18, 23].all (fun i => s[i]? = some '-') then
    ofDigits? (s.take 8 ++ (s.drop 9).take 4 ++ (s.drop 14).take 4 ++ (s.drop 19).take 4 ++
      s.drop 24)
  else none

/-- The UUID a text spells. -/
def parse? (text : String) : Option Bytes :=
  let s := text.toList
  let urn := "urn:uuid:".toList
  if s.length = 32 then ofDigits? s
  else if s.length = 36 then ofGroups? s
  else if s.length = 38 ∧ s.head? = some '\x7b' ∧ s.getLast? = some '\x7d' then
    ofGroups? ((s.drop 1).dropLast)
  else if s.length = 45 ∧ urn.isPrefixOf s then ofGroups? (s.drop urn.length)
  else none

end FramedAvro.Avro.Uuid
