import FramedAvro.Bytes

/-!
# Tables of character codes

Ranges of character codes, and tables that are kept as text: codes in hexadecimal with blanks
between them, in rows that end with a semicolon.

## Main definitions

* `Codes.inRanges`: whether a code lies in one of several ranges.
* `Codes.rows`: the rows of a table.
* `Codes.valueOf?`: what a table of ranges with values says about a code.
-/

namespace FramedAvro.Codes

/-- Whether a code lies in one of the ranges. -/
def inRanges (ranges : List (Nat × Nat)) (code : Nat) : Bool :=
  ranges.any fun range => range.1 ≤ code && code ≤ range.2

/-- What was read of a table: its rows and the codes of the row that is not finished, the last
first, and the code that is not finished. -/
structure Reader where
  rows : List (List Nat)
  row : List Nat
  code : Option Nat

namespace Reader

/-- The reader after the end of a code. -/
def endCode (reader : Reader) : Reader :=
  { reader with row := reader.code.toList ++ reader.row, code := none }

/-- The reader after the end of a row. -/
def endRow (reader : Reader) : Reader :=
  { reader with rows := reader.row.reverse :: reader.rows, row := [] }

/-- The reader after one more character. -/
def step (reader : Reader) (c : Char) : Reader :=
  match Hex.value? c with
  | some d => { reader with code := some (16 * reader.code.getD 0 + d) }
  | none => if c = ';' then reader.endCode.endRow else reader.endCode

end Reader

/-- The rows of a table. -/
def rows (table : String) : List (List Nat) :=
  (table.toList.foldl Reader.step ⟨[], [], none⟩).rows.reverse

/-- The ranges of a table that has the first and the last code of each in a row, or the only one. -/
def ranges (table : String) : List (Nat × Nat) :=
  (rows table).filterMap fun row =>
    match row with
    | [code] => some (code, code)
    | [first, last] => some (first, last)
    | _ => none

/-- The triples of a table with three codes in a row. -/
def triples (table : String) : List (Nat × Nat × Nat) :=
  (rows table).filterMap fun row =>
    match row with
    | [a, b, c] => some (a, b, c)
    | _ => none

/-- The lists of a table that has the code which each belongs to in front of it. -/
def lists (table : String) : List (Nat × List Nat) :=
  (rows table).filterMap fun row =>
    match row with
    | code :: list => some (code, list)
    | [] => none

/-- The value of the range in which a code lies. -/
def valueOf? (ranges : List (Nat × Nat × Nat)) (code : Nat) : Option Nat :=
  (ranges.find? fun (first, last, _) => first ≤ code && code ≤ last).map fun (_, _, value) => value

end FramedAvro.Codes
