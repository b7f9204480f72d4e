import FramedAvro.Text.Mark
import FramedAvro.Url.Domain.Direction
import FramedAvro.Url.Domain.Joiner
import FramedAvro.Url.Domain.Mapping
import FramedAvro.Url.Domain.Punycode

/-!
# Domains

A domain is a row of labels with dots between them. Labels in all scripts are welcome, and are sent
in ASCII: a label with other characters is encoded behind `xn--`, and whoever spells a label so has
to spell one that could have been written plainly.

## Main definitions

* `Domain.plainLabel?`: what a label stands for.
* `Domain.isLabel`: what every label has to satisfy.
* `Domain.ascii?`: the form in which a domain is sent.
-/

namespace FramedAvro.Url.Domain

/-- The labels between the dots. -/
def splitLabels : List Char → List (List Char)
  | [] => [[]]
  | c :: rest =>
    if c = '.' then [] :: splitLabels rest
    else
      match splitLabels rest with
      | label :: labels => (c :: label) :: labels
      | [] => [[c]]

/-- Whether a character is one of ASCII. -/
def isAscii (c : Char) : Bool :=
  c.toNat < 0x80

/-- What stands in front of an encoded label. -/
def encodedMark : List Char := ['x', 'n', '-', '-']

/-- The greatest length of what stands behind the mark of an encoded label. -/
def encodedLimit : Nat := 2000

/-- The greatest length of a label that is to be encoded. -/
def plainLimit : Nat := 1000

/-- The label that an encoded one stands for. It has characters outside ASCII, is in the one writing
that domains have, and is not marked as encoded once more. -/
def decodeLabel? (encoded : List Char) : Option (List Char) :=
  if encoded.all isAscii ∧ encoded.length ≤ encodedLimit then
    (Punycode.decode? encoded).filter fun label =>
      !label.all isAscii && !encodedMark.isPrefixOf label && Mapping.text? label = some label
  else none

/-- What a label stands for, which is itself unless it is encoded. -/
def plainLabel? (label : List Char) : Option (List Char) :=
  if encodedMark.isPrefixOf label then decodeLabel? (label.drop encodedMark.length) else some label

/-- Whether a label may stand in a domain: it does not start with a mark, its joiners are in their
places, and it is short enough to be encoded. -/
def isLabel (label : List Char) : Bool :=
  !label.head?.any Mark.isMark && Joiner.allFit label &&
    (label.all isAscii || decide (label.length ≤ plainLimit))

/-- The form in which a label is sent. -/
def asciiLabel (label : List Char) : List Char :=
  if label.all isAscii then label else encodedMark ++ Punycode.encode label

/-- The form in which a domain is sent. -/
def ascii? (s : List Char) : Option (List Char) :=
  match (Mapping.text? s).bind fun text => (splitLabels text).mapM plainLabel? with
  | some labels =>
    if labels.all isLabel &&
        (!labels.any Direction.hasFromRight || labels.all Direction.isSteady) then
      some (['.'].intercalate (labels.map asciiLabel))
    else none
  | none => none

end FramedAvro.Url.Domain
