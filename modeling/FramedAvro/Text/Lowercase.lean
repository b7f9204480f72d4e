import FramedAvro.Text.Letter

/-!
# Lower case

Texts with all their letters in lower case, and searching in them. A capital sigma is a final one in
lower case where it ends a word.
-/

namespace FramedAvro.Lowercase

/-- The capital letter that has two forms in lower case. -/
def sigma : Char := Char.ofNat 0x3A3

/-- The form that it has at the end of a word. -/
def finalSigma : Char := Char.ofNat 0x3C2

/-- Whether the first character that is not passed over has a case. -/
def meetsCased (s : List Char) : Bool :=
  match s.dropWhile Letter.isIgnorable with
  | c :: _ => Letter.isCased c
  | [] => false

/-- The lower case of characters, those before them given with the last first. -/
def chars (before : List Char) : List Char → List Char
  | [] => []
  | c :: rest =>
    (if c = sigma ∧ meetsCased before ∧ !meetsCased rest then [finalSigma] else Letter.lower c) ++
      chars (c :: before) rest

/-- The text in lower case. -/
def text (s : String) : String :=
  String.ofList (chars [] s.toList)

/-- Whether the characters of `part` stand somewhere in `s`, one after the other. -/
def containsChars (part : List Char) : List Char → Bool
  | [] => part.isEmpty
  | c :: rest => part.isPrefixOf (c :: rest) || containsChars part rest

/-- Whether a text has a part. -/
def contains (s part : String) : Bool :=
  containsChars part.toList s.toList

end FramedAvro.Lowercase
