import FramedAvro.Text.Utf8

/-!
# Headers

The names of HTTP headers do not depend on the case of their letters. What is set here is a table
under the names as they are spelled; what is sent is a list under the names in lower case, and of
names that are the same then the one that comes later counts.

## Main definitions

* `Header.isName`, `Header.isValue`: what may be sent.
* `Header.Table`: headers as they are set.
* `Header.merge`: headers as they are sent.
-/

namespace FramedAvro.Http.Header

/-- The characters of names besides letters and digits. -/
def nameSigns : List Char :=
  ['!', '#', '$', '%', '&', Char.ofNat 0x27, '*', '+', '-', '.', '^', '_',
    Char.ofNat 0x60, '|', '~']

/-- The length that a name stays below. -/
def nameLimit : Nat := 65536

/-- Whether a text may be the name of a header. -/
def isName (text : String) : Bool :=
  !text.isEmpty && text.length < nameLimit &&
    text.toList.all fun c => c.isAlphanum || nameSigns.contains c

/-- Whether a text may be the value of a header. Of the characters below the space only the tab
may. -/
def isValue (text : String) : Bool :=
  text.toList.all fun c => (0x20 ≤ c.toNat && c.toNat ≠ 0x7F) || c = '\t'

/-- Headers under the names as they are spelled. -/
abbrev Table := List (String × String)

/-- The table in which a name has a value. -/
def Table.set (name value : String) : Table → Table
  | [] => [(name, value)]
  | (other, old) :: rest =>
    if other = name then (name, value) :: rest else (other, old) :: Table.set name value rest

/-- The headers with one more, in place of the one with the same name. -/
def put (name value : String) (headers : List (String × String)) : List (String × String) :=
  headers.filter (fun header => header.1 ≠ name.toLower) ++ [(name.toLower, value)]

/-- The headers of a table as they are sent, when they are gone through in the given order. -/
def merge (entries : List (String × String)) : List (String × String) :=
  entries.foldl (fun headers entry => put entry.1 entry.2 headers) []

/-- The value without blanks around it. -/
def trimmed (value : String) : String :=
  let blank (c : Char) : Bool := c = ' ' || c = '\t'
  String.ofList (((value.toList.dropWhile blank).reverse.dropWhile blank).reverse)

end FramedAvro.Http.Header
