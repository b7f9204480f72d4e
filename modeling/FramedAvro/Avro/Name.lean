/-!
# Names

Records, enums and fixed types have a name, which may stand in a namespace. A spelled name without a
dot takes the namespace that surrounds it; a spelled name with a dot brings its own, and one that
starts with the dot asks for none.
-/

namespace FramedAvro.Avro

/-- The full name of a type. -/
structure Name where
  space : Option String
  base : String
deriving DecidableEq, Repr

namespace Name

/-- The text of a full name. -/
def text (name : Name) : String :=
  match name.space with
  | some space => space ++ "." ++ name.base
  | none => name.base

/-- The name as it reads where a namespace surrounds it, which a name without one takes. -/
def within (enclosing : Option String) (name : Name) : Name :=
  { name with space := name.space.or enclosing }

/-- Whether a character may start an identifier. -/
def isInitial (c : Char) : Bool :=
  c.isAlpha || c = '_'

/-- Whether a character may stand in an identifier after the first. -/
def isInner (c : Char) : Bool :=
  c.isAlphanum || c = '_'

/-- Whether the characters are an identifier: ASCII letters, digits and underscores, and no digit in
front. -/
def isIdentifier : List Char → Bool
  | [] => false
  | c :: rest => isInitial c && rest.all isInner

/-- The parts between the dots. -/
def splitAtDots : List Char → List (List Char)
  | [] => [[]]
  | c :: rest =>
    if c = '.' then [] :: splitAtDots rest
    else
      match splitAtDots rest with
      | part :: parts => (c :: part) :: parts
      | [] => [[c]]

/-- The namespace, as far as one is spelled, and the identifier of a spelled name. The namespace is
empty when the name starts with its only dot. -/
def spelled? (text : String) : Option (Option String × String) :=
  let parts := splitAtDots text.toList
  match parts.getLast? with
  | none => none
  | some base =>
    let spaces := parts.dropLast
    if !isIdentifier base then none
    else if spaces.isEmpty then some (none, String.ofList base)
    else if spaces = [[]] || spaces.all isIdentifier then
      some (some (".".intercalate (spaces.map String.ofList)), String.ofList base)
    else none

/-- A namespace, of which the empty one is none. -/
def space? (space : Option String) : Option String :=
  space.filter (!·.isEmpty)

/-- Whether a text is a namespace: identifiers with dots between them, or empty. -/
def isSpace (text : String) : Bool :=
  text.isEmpty || (splitAtDots text.toList).all isIdentifier

/-- The name that a reference or an alias stands for where `enclosing` surrounds it. -/
def referred? (enclosing : Option String) (text : String) : Option Name := do
  let (space, base) ← spelled? text
  return ⟨(space? space).or enclosing, base⟩

/-- The name of a type defined where `enclosing` surrounds it, with what its members `name`, already
taken apart, and `namespace` say: the namespace in the name counts first, then the separate one. -/
def defined? (enclosing : Option String) (spelling : Option String × String)
    (space : Option String) : Option Name :=
  let (ownSpace, base) := spelling
  let space := (ownSpace.or space).or enclosing
  if space.all isSpace then some ⟨space? space, base⟩ else none

end Name

end FramedAvro.Avro
