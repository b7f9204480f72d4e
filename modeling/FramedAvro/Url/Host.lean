import FramedAvro.Url.Domain.Basic
import FramedAvro.Url.Percent

/-!
# Hosts

The host of a URL: an address of either version of the internet protocol, a domain, or for schemes
that give hosts no meaning any text. Domains are in the form in which they are sent.
-/

namespace FramedAvro.Url

/-- Where a URL points. -/
inductive Host where
  | domain (name : String)
  | address (a b c d : Nat)
  | longAddress (pieces : List Nat)
  | unknown (text : String)
deriving DecidableEq, Repr

namespace Host

/-! ### Addresses of four numbers -/

/-- The number of digits of a base. -/
def ofDigits? (base : Nat) (s : List Char) : Option Nat :=
  s.foldl (fun sum c => do
    let n ← sum
    let d ← Hex.value? c
    if d < base then some (n * base + d) else none) (some 0)

/-- A number in decimal, in hexadecimal after `0x`, or in octal after `0`. Nothing but `0x` is
zero. -/
def addressNumber? (s : List Char) : Option Nat :=
  match s with
  | [] => none
  | '0' :: 'x' :: rest => ofDigits? 16 rest
  | '0' :: 'X' :: rest => ofDigits? 16 rest
  | ['0'] => some 0
  | '0' :: rest => ofDigits? 8 rest
  | s => ofDigits? 10 s

/-- The parts between the dots, without an empty last one. -/
def addressParts (s : List Char) : List (List Char) :=
  let parts := Form.splitAt '.' s
  if 1 < parts.length ∧ parts.getLast? = some [] then parts.dropLast else parts

/-- Whether a host must be an address because its last part is a number. -/
def endsInNumber (s : List Char) : Bool :=
  match (addressParts s).getLast? with
  | some last =>
    (!last.isEmpty && last.all Char.isDigit) ||
      (match last with
        | '0' :: x :: rest => (x = 'x' || x = 'X') && (ofDigits? 16 rest).isSome
        | _ => false)
  | none => false

/-- The address of at most four numbers, of which the last fills what the others leave. -/
def address? (s : List Char) : Option Host := do
  let parts := addressParts s
  if 4 < parts.length then none
  else
    let numbers ← parts.mapM addressNumber?
    let last ← numbers.getLast?
    let others := numbers.dropLast
    if others.all (· < 256) && decide (last < 1 <<< (8 * (4 - others.length))) then
      let first := others.foldl (fun sum part => 256 * sum + part) 0
      let n := (first <<< (8 * (4 - others.length))) + last
      some (.address (n / 0x1000000) (n / 0x10000 % 256) (n / 0x100 % 256) (n % 256))
    else none

/-! ### Addresses of eight pieces -/

/-- A decimal number below 256 without superfluous zeros. -/
def octet? (s : List Char) : Option Nat :=
  match s with
  | [] => none
  | ['0'] => some 0
  | '0' :: _ => none
  | s =>
    if s.all Char.isDigit then
      (ofDigits? 10 s).filter (· < 256)
    else none

/-- A piece of up to four hexadecimal digits. -/
def piece? (s : List Char) : Option Nat :=
  if s.isEmpty ∨ 4 < s.length then none else ofDigits? 16 s

/-- The pieces of parts, of which the last may be four decimal numbers. -/
def pieces? : List (List Char) → Option (List Nat)
  | [] => some []
  | [last] =>
    if last.contains '.' then
      match (Form.splitAt '.' last).mapM octet? with
      | some [a, b, c, d] => some [a * 256 + b, c * 256 + d]
      | _ => none
    else (piece? last).map ([·])
  | part :: rest =>
    match piece? part, pieces? rest with
    | some piece, some pieces => some (piece :: pieces)
    | _, _ => none

/-- The pieces of parts between colons, none for an empty text. -/
def piecesOf? (s : List Char) : Option (List Nat) :=
  if s.isEmpty then some [] else pieces? (Form.splitAt ':' s)

/-- The texts before and after the first two colons in a row. -/
def splitAtGap : List Char → Option (List Char × List Char)
  | [] => none
  | [_] => none
  | a :: b :: rest =>
    if a = ':' ∧ b = ':' then some ([], rest)
    else (splitAtGap (b :: rest)).map fun (before, after) => (a :: before, after)

/-- The address of eight pieces, of which a run of zeros may be left out once. -/
def longAddress? (s : List Char) : Option Host :=
  match splitAtGap s with
  | none =>
    match piecesOf? s with
    | some pieces => if pieces.length = 8 then some (.longAddress pieces) else none
    | none => none
  | some (before, after) =>
    if before.contains '.' then none
    else
      match piecesOf? before, piecesOf? after with
      | some left, some right =>
        if left.length + right.length < 8 then
          some (.longAddress (left ++ List.replicate (8 - left.length - right.length) 0 ++ right))
        else none
      | _, _ => none

/-! ### Domains -/

/-- What no host may have in it. -/
def isForbidden (c : Char) : Bool :=
  c.toNat = 0 || ['\t', '\n', '\r', ' ', '#', '/', ':', '<', '>', '?', '@', '[', '\\', ']', '^',
    '|'].contains c

/-- What no domain may have in it. -/
def isForbiddenInDomain (c : Char) : Bool :=
  isForbidden c || c.toNat < 0x20 || c.toNat = 0x7F || c = '%'

/-- The host of a URL whose scheme gives hosts a meaning. -/
def special? (s : List Char) : Option Host :=
  match s with
  | '[' :: rest => if rest.getLast? = some ']' then longAddress? rest.dropLast else none
  | s =>
    match Domain.ascii? (Utf8.decodeLossy (Percent.decode s)).toList with
    | none => none
    | some name =>
      if name.isEmpty ∨ name.any isForbiddenInDomain then none
      else if endsInNumber name then address? name
      else some (.domain (String.ofList name))

/-- The host of a URL whose scheme gives hosts no meaning. -/
def unknown? (s : List Char) : Option Host :=
  match s with
  | '[' :: rest => if rest.getLast? = some ']' then longAddress? rest.dropLast else none
  | s =>
    if s.any isForbidden then none
    else some (.unknown (String.ofList (Percent.encode Percent.controlSet s)))

/-! ### Texts -/

/-- The digits of a piece. -/
def pieceText (n : Nat) : List Char :=
  (Nat.toDigits 16 n)

/-- The length of the run of zeros at the front. -/
def zeros : List Nat → Nat
  | 0 :: rest => zeros rest + 1
  | _ => 0

/-- Where the longest run of zeros starts, and its length: the first of several. -/
def longestGap : (start : Nat) → List Nat → Nat × Nat
  | _, [] => (0, 0)
  | start, n :: rest =>
    let here := zeros (n :: rest)
    let later := longestGap (start + 1) rest
    if later.2 ≤ here then (start, here) else later

/-- The pieces with colons between them. -/
def joinPieces (pieces : List Nat) : List Char :=
  List.intercalate [':'] (pieces.map pieceText)

/-- The text of a host. -/
def text : Host → String
  | domain name => name
  | unknown text => text
  | address a b c d =>
    ".".intercalate ([a, b, c, d].map toString)
  | longAddress pieces =>
    let (start, length) := longestGap 0 pieces
    let inner :=
      if length < 2 then joinPieces pieces
      else joinPieces (pieces.take start) ++ [':', ':'] ++
        joinPieces (pieces.drop (start + length))
    String.ofList ('[' :: inner ++ [']'])

end Host

end FramedAvro.Url
