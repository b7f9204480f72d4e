import FramedAvro.Coordinate
import FramedAvro.Failure
import FramedAvro.Json.Printer
import FramedAvro.Registry.ArtifactType
import FramedAvro.Url.Parser

/-!
# Calls

What a remote registry can be asked for, and where and how. A group or a name is one segment of the
path, so that whatever stands in it stays part of it, and the values of a query are encoded.

## Main definitions

* `RemoteCall`: the calls.
* `RemoteCall.url`: the URL of a call.
* `RemoteCall.body?`: what is posted with a call.
-/

namespace FramedAvro

/-- A call to a remote registry. -/
inductive RemoteCall where
  | getById (id : UInt32)
  | getLatest (coordinate : Coordinate)
  | getArtifact (coordinate : Coordinate)
  | searchByContent (group : Option String) (schema : String)
  | listArtifacts (group name : Option String) (type : String) (limit : Option Nat)
  | postArtifact (group body : String)
  | postVersion (coordinate : Coordinate) (body : String)
deriving DecidableEq, Repr

namespace RemoteCall

/-- The segments under which a registry answers calls. -/
def apiSegments : List String :=
  ["apis", "registry", "v3"]

/-- How many artifacts a search by content asks for. -/
def contentSearchLimit : Nat := 10

/-- How many artifacts are listed for comparing fingerprints. -/
def fingerprintSearchLimit : Nat := 100

/-- The segments of a call after those of the registry. -/
def segments : RemoteCall → List String
  | getById id => ["ids", "globalIds", toString id]
  | getLatest c => ["groups", c.group, "artifacts", c.name, "versions", "branch=latest"]
  | getArtifact c => ["groups", c.group, "artifacts", c.name]
  | searchByContent _ _ => ["search", "artifacts"]
  | listArtifacts _ _ _ _ => ["search", "artifacts"]
  | postArtifact group _ => ["groups", group, "artifacts"]
  | postVersion c _ => ["groups", c.group, "artifacts", c.name, "versions"]

/-- A parameter that is only given when there is a value for it. -/
def parameter (name : String) : Option String → List (String × String)
  | some value => [(name, value)]
  | none => []

/-- The parameters of a call, in their order. -/
def parameters : RemoteCall → List (String × String)
  | searchByContent group _ =>
    [("canonical", "true"), ("artifactType", "AVRO"), ("limit", toString contentSearchLimit)] ++
      parameter "groupId" group
  | listArtifacts group name type limit =>
    ("artifactType", type) :: parameter "limit" (limit.map toString) ++ parameter "groupId" group ++
      parameter "name" name
  | postArtifact _ _ => [("ifExists", "CREATE_VERSION")]
  | _ => []

/-- What is posted with a call. -/
def body? : RemoteCall → Option String
  | searchByContent _ schema => some schema
  | postArtifact _ body => some body
  | postVersion _ body => some body
  | _ => none

/-- The base is no URL. -/
def invalidBase (base : String) (fault : Url.Fault) : Failure :=
  .registry fault.describe ("invalid registry url " ++ base)

/-- The base is a URL without segments. -/
def pathlessBase (base : String) : Failure :=
  .plain .registry ("registry url " ++ base ++ " can't have a path")

/-- The URL of a call to the registry at a base. Nothing of the base after its path is kept. -/
def url (call : RemoteCall) (base : String) : Except Failure Url :=
  match Url.parse base with
  | .error fault => .error (invalidBase base fault)
  | .ok url =>
    match url.path with
    | .whole _ => .error (pathlessBase base)
    | .segments _ =>
      let url := url.withoutEmptyEnd.withSegments (apiSegments ++ call.segments)
      .ok ({ url with fragment := none }.withQuery call.parameters)

end RemoteCall

/-! ### Bodies -/

/-- The content of a version, for a body. -/
def versionContent (schema : String) : Json :=
  .object [("content", .string schema), ("contentType", .string "application/json")]

/-- The body that creates an artifact with a first version. -/
def createArtifactBody (name : String) (type : ArtifactType) (schema : String) : String :=
  (Json.object [("artifactId", .string name), ("artifactType", .string type.name),
    ("firstVersion", .object [("content", versionContent schema)])]).text

/-- The body that creates a version. -/
def createVersionBody (schema : String) : String :=
  (Json.object [("content", versionContent schema)]).text

end FramedAvro
