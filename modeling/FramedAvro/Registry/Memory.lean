import FramedAvro.Registry.Lookup
import FramedAvro.Table
import FramedAvro.Text.Lowercase

/-!
# Registry in memory

A registry that keeps its schemas in three tables: the document of every id, the versions of every
artifact, and for the canonical text of every content the id it was registered under. The same
content is never stored twice: registering it again gives the id it has, and under another
coordinate adds a version there that points to the same document.

## Main definitions

* `Memory`: the tables.
* `Memory.register`, `Memory.registerVersion`, `Memory.addSchema`: filling them.
* `Memory.registry`: the operations of a registry on them.
-/

namespace FramedAvro

/-- A version of an artifact: its number, the id of its document and the text it was registered
with. -/
structure Version where
  number : UInt32
  id : UInt32
  schema : String
deriving DecidableEq, Repr

/-- The tables of a registry in memory. -/
structure Memory where
  documents : Table UInt32 Json
  artifacts : Table Coordinate (List Version)
  contents : Table String UInt32

namespace Memory

/-- The registry without schemas. -/
def empty : Memory :=
  ⟨.empty, .empty, .empty⟩

instance : Inhabited Memory := ⟨empty⟩

/-- The greatest id there is. -/
def lastId : UInt32 := 4294967295

/-- The versions of an artifact, in the order in which they were added. -/
def versions (memory : Memory) (coordinate : Coordinate) : List Version :=
  (memory.artifacts.get? coordinate).getD []

/-- How many documents there are. -/
def schemaCount (memory : Memory) : Nat :=
  memory.documents.size

/-- How many artifacts there are. -/
def artifactCount (memory : Memory) : Nat :=
  memory.artifacts.size

/-! ### Failures -/

/-- Every id is taken. -/
def noIdLeft : Failure :=
  .plain .registry "No global ID left to assign"

/-- There is no document with the id. -/
def unknownId (id : UInt32) : Failure :=
  .notFound ("Schema with global ID " ++ toString id ++ " not found")

/-- There is no version under the coordinate. -/
def unknownCoordinate (coordinate : Coordinate) : Failure :=
  .notFound ("Schema " ++ coordinate.describe ++ " not found")

/-- There is no artifact to add a version to. -/
def noArtifact (coordinate : Coordinate) : Failure :=
  .plain .registry ("Artifact " ++ coordinate.describe ++ " does not exist")

/-! ### Filling the tables -/

/-- The id for the next new document: the one after the greatest, and 1 if there is none. -/
def nextId (memory : Memory) : Except Failure UInt32 :=
  match memory.documents.greatest? with
  | none => .ok 1
  | some id => if id = lastId then .error noIdLeft else .ok (id + 1)

/-- One more version of an artifact, which need not exist. -/
def addVersion (memory : Memory) (coordinate : Coordinate) (id : UInt32) (schema : String) :
    Memory :=
  let versions := memory.versions coordinate
  let version : Version := ⟨UInt32.ofNat versions.length + 1, id, schema⟩
  { memory with artifacts := memory.artifacts.insert coordinate (versions ++ [version]) }

/-- Stores content under a coordinate. Content that is known keeps its id, and becomes a version of
the artifact unless it is one. -/
def store (memory : Memory) (coordinate : Coordinate) (schema : String) (content : Json) :
    Except Failure (UInt32 × Memory) :=
  match memory.contents.get? content.text with
  | some id =>
    if (memory.versions coordinate).any (·.id == id) then .ok (id, memory)
    else .ok (id, memory.addVersion coordinate id schema)
  | none => do
    let id ← memory.nextId
    let stored : Memory :=
      { memory with
        documents := memory.documents.insert id content
        contents := memory.contents.insert content.text id }
    return (id, stored.addVersion coordinate id schema)

/-- Registers a schema under a coordinate. -/
def register (memory : Memory) (coordinate : Coordinate) (schema : String) :
    Except Failure (UInt32 × Memory) := do
  let content ← schemaJson schema
  memory.store coordinate schema content

/-- Registers a schema as a version of an artifact that exists. -/
def registerVersion (memory : Memory) (coordinate : Coordinate) (schema : String) :
    Except Failure (UInt32 × Memory) := do
  let content ← schemaJson schema
  if memory.artifacts.contains coordinate then memory.store coordinate schema content
  else .error (noArtifact coordinate)

/-- Puts a document under a chosen id, whatever is there already. -/
def addSchema (memory : Memory) (id : UInt32) (content : Json) (coordinate : Coordinate) : Memory :=
  let text := content.text
  let contents :=
    match canonicalText text with
    | .ok canonical => memory.contents.insert canonical id
    | .error _ => memory.contents
  let stored : Memory :=
    { memory with documents := memory.documents.insert id content, contents := contents }
  stored.addVersion coordinate id text

/-! ### Looking things up -/

/-- The document of an id. -/
def fetchById (memory : Memory) (id : UInt32) : Except Failure Document :=
  match memory.documents.get? id with
  | some content => .ok (Document.ofJson content)
  | none => .error (unknownId id)

/-- The id and the document of the latest version of an artifact. -/
def fetchLatest (memory : Memory) (coordinate : Coordinate) :
    Except Failure (UInt32 × Document) := do
  match (memory.versions coordinate).getLast? with
  | some version => return (version.id, ← memory.fetchById version.id)
  | none => throw (unknownCoordinate coordinate)

/-- The coordinates in a group, or all of them, that have a version, in ascending order. -/
def coordinates (memory : Memory) (group : Option String) : List Coordinate :=
  (memory.artifacts.entries.filter fun entry =>
    !entry.2.isEmpty && entry.1.inGroup group).map (·.1)

/-- The artifacts whose name contains a text, whatever the case of its letters. -/
def search (memory : Memory) (name : Option String) : List Coordinate :=
  (memory.coordinates none).filter fun coordinate =>
    match name with
    | some part => Lowercase.contains (Lowercase.text coordinate.name) (Lowercase.text part)
    | none => true

/-- Whether the text of a version has the given canonical text. -/
def Version.hasContent (canonical : String) (version : Version) : Bool :=
  match canonicalText version.schema with
  | .ok own => own == canonical
  | .error _ => false

/-- The first artifact in the group with a version that has the content of a schema. -/
def findByContent (memory : Memory) (schema : String) (group : Option String) :
    Except Failure (Option Coordinate) := do
  let canonical ← canonicalText schema
  return (memory.artifacts.entries.find? fun entry =>
    entry.1.inGroup group && entry.2.any (Version.hasContent canonical)).map (·.1)

/-- The first artifact in the group whose latest document has the fingerprint of a schema. -/
def findByFingerprint (memory : Memory) (schema : String) (group : Option String) :
    Outcome (Option Coordinate) := do
  let target ← Fingerprint.ofSchema schema
  target.search (fun coordinate => (memory.fetchLatest coordinate).map (·.2))
    (memory.coordinates group)

/-- Whether an artifact has a version. -/
def checkExists (memory : Memory) (coordinate : Coordinate) : Bool :=
  !(memory.versions coordinate).isEmpty

/-- The operations of a registry on the tables. The type of an artifact is not kept. -/
def registry : Registry Memory where
  fetchById id := .answer fun memory => .ofExcept (memory.fetchById id)
  fetchLatest coordinate := .answer fun memory => .ofExcept (memory.fetchLatest coordinate)
  findByContent schema group :=
    .answer fun memory => .ofExcept (memory.findByContent schema group)
  findByFingerprint schema group := .answer fun memory => memory.findByFingerprint schema group
  register coordinate schema _ := .update fun memory => memory.register coordinate schema
  checkExists coordinate := .answer fun memory => .ok (memory.checkExists coordinate)

end Memory

end FramedAvro
