import FramedAvro.Json.Parser

/-!
# Reading parts of JSON

Who wants only some members of an object passes by the others. What is passed by has to be JSON too,
but less is asked of it than of what is read: it may be as deep as it likes, and an escape by code
in one of its strings may be half of a pair, since no character is made of it. The keys of an object
of which members are wanted are read as always, since they tell which members these are.

## Main definitions

* `Json.skip`: what is left after any value.
* `Json.Wanted`: what is wanted of a value.
* `Json.parseWanted?`: what is wanted of the value that a text is.
-/

namespace FramedAvro.Json

/-! ### Passing by -/

/-- Passes by an escape, after the backslash. Of an escape by code only the digits are looked at. -/
def skipEscape : List Char → Option (List Char)
  | [] => none
  | c :: rest =>
    if c = 'u' then (readUnit rest).map fun (_, last) => last
    else (shortEscape? c).map fun _ => rest

/-- An escape that is passed by uses up characters. -/
theorem length_lt_of_skipEscape {s rest : List Char} (h : skipEscape s = some rest) :
    rest.length < s.length := by
  unfold skipEscape at h
  split at h
  · contradiction
  · split at h
    · obtain ⟨⟨n, last⟩, hunit, rfl⟩ := Option.map_eq_some_iff.1 h
      have := length_lt_of_readUnit hunit
      simp only [List.length_cons]
      omega
    · obtain ⟨_, _, rfl⟩ := Option.map_eq_some_iff.1 h
      simp

/-- Passes by the characters of a string and its closing quote, after the opening one. -/
def skipChars (s : List Char) : Option (Unit × List Char) :=
  match s with
  | [] => none
  | c :: rest =>
    if c = '"' then some ((), rest)
    else if c = '\\' then
      match _h : skipEscape rest with
      | none => none
      | some rest => skipChars rest
    else if c.toNat < 32 then none
    else skipChars rest
termination_by s.length
decreasing_by
  · have := length_lt_of_skipEscape _h
    simp only [List.length_cons]
    omega
  · simp

/-- Passes by a string, from its opening quote. -/
def skipString : List Char → Option (Unit × List Char)
  | '"' :: rest => skipChars rest
  | _ => none

/-- Passes by a value that is neither an array nor an object. -/
def skipScalar : List Char → Option (Unit × List Char)
  | [] => none
  | c :: rest =>
    if c = '"' then skipChars rest
    else (readScalar (c :: rest)).map fun (_, last) => ((), last)

/-- Passes by a key, a colon and a value. -/
def skipMember (value : List Char → Option (Unit × List Char)) (s : List Char) :
    Option (Unit × List Char) :=
  match skipString (skipBlanks s) with
  | none => none
  | some (_, rest) =>
    match skipBlanks rest with
    | ':' :: rest => value rest
    | _ => none

/-- Passes by a value with at most `depth` arrays and objects inside each other, after any
blanks. -/
def skipValue : (depth : Nat) → List Char → Option (Unit × List Char)
  | 0, s => skipScalar (skipBlanks s)
  | depth + 1, s =>
    match skipBlanks s with
    | [] => none
    | c :: rest =>
      if c = '[' then
        (readSequence (skipValue depth) ']' rest).map fun (_, last) => ((), last)
      else if c = '\x7b' then
        (readSequence (skipMember (skipValue depth)) '\x7d' rest).map fun (_, last) => ((), last)
      else skipScalar (c :: rest)

/-- Passes by a value, after any blanks. No value is deeper than its text is long. -/
def skip (s : List Char) : Option (Unit × List Char) :=
  skipValue s.length s

/-! ### Reading what is wanted -/

/-- What is wanted of a value. -/
inductive Wanted where
  /-- The value. -/
  | whole
  /-- The members of an object with some of the keys, and of their values what is wanted of each of
  them; of an array every item like such a value. -/
  | parts (keys : List String) (value : Wanted)
  /-- The items of an array, and of them what is wanted of each. -/
  | items (item : Wanted)
deriving DecidableEq, Repr

/-- A member, if its key is one of those that are wanted. -/
def readPart (keys : List String) (value : List Char → Option (Json × List Char))
    (s : List Char) : Option (Option (String × Json) × List Char) :=
  match readString (skipBlanks s) with
  | none => none
  | some (key, rest) =>
    match skipBlanks rest with
    | ':' :: rest =>
      if key ∈ keys then (value rest).map fun (j, last) => (some (key, j), last)
      else (skip rest).map fun (_, last) => (none, last)
    | _ => none

/-- What is wanted of the value that a text starts with, after any blanks. -/
def readWanted : Wanted → List Char → Option (Json × List Char)
  | .whole, s => readValue maxDepth s
  | .parts keys value, s =>
    match skipBlanks s with
    | '[' :: rest =>
      (readSequence (readWanted value) ']' rest).map fun (items, last) => (array items, last)
    | '\x7b' :: rest =>
      (readSequence (readPart keys (readWanted value)) '\x7d' rest).map fun (members, last) =>
        (object (members.filterMap id), last)
    | _ => readValue maxDepth s
  | .items item, s =>
    match skipBlanks s with
    | '[' :: rest =>
      (readSequence (readWanted item) ']' rest).map fun (items, last) => (array items, last)
    | _ => readValue maxDepth s

/-- What is wanted of the value that a text is. -/
def parseWanted? (wanted : Wanted) (text : String) : Option Json :=
  whole? (readWanted wanted) text.toList

end FramedAvro.Json
