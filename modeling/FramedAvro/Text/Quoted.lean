import FramedAvro.Text.Hidden

/-!
# Quoted text

The text of a setting between quotes, as it is shown to a reader: quotes and backslashes have a
backslash before them, and characters that would show nothing stand as escapes.
-/

namespace FramedAvro.Quoted

/-- The escape of a character by its code. -/
def byCode (c : Char) : List Char :=
  ['\\', 'u', '\x7b'] ++ Nat.toDigits 16 c.toNat ++ ['\x7d']

/-- The characters a character is shown as. -/
def escape (c : Char) : List Char :=
  if c = '"' then ['\\', '"']
  else if c = '\\' then ['\\', '\\']
  else if c = '\n' then ['\\', 'n']
  else if c = '\t' then ['\\', 't']
  else if c = '\r' then ['\\', 'r']
  else if c.toNat = 0 then ['\\', '0']
  else if Hidden.isHidden c then byCode c
  else [c]

/-- A text between quotes. -/
def text (s : String) : String :=
  String.ofList ('"' :: s.toList.flatMap escape ++ ['"'])

end FramedAvro.Quoted
