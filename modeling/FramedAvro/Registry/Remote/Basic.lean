import FramedAvro.Registry.Lookup
import FramedAvro.Registry.Remote.Answer
import FramedAvro.Registry.Remote.Call
import FramedAvro.Registry.Remote.Settings
import FramedAvro.Table

/-!
# Remote registry

A registry that is reached over HTTP. A call goes to one URL after the other until one answers with
success. If none does and the last failure may pass, the round is repeated as often as the settings
say. Documents are kept by id, since an id stands for one content for good.

## Main definitions

* `Remote`: the documents that are kept, and the state of the transport.
* `Remote.attempt`, `Remote.perform`: one attempt, and a call with failover and retries.
* `Remote.registry`: the operations of a registry over a transport.
-/

namespace FramedAvro

/-- A call that failed, with the status of the answer if there was one. -/
structure CallFailure where
  status : Option Nat
  failure : Failure
deriving DecidableEq, Repr

/-- What is kept between calls. -/
structure Remote (τ : Type) where
  documents : Table UInt32 Document
  transport : τ

namespace Remote

variable {τ : Type}

/-- Nothing is kept yet. -/
def start (transport : τ) : Remote τ :=
  ⟨.empty, transport⟩

/-- How many documents are kept. -/
def cacheSize (remote : Remote τ) : Nat :=
  remote.documents.size

/-- Forgets all documents. -/
def clear (remote : Remote τ) : Remote τ :=
  { remote with documents := .empty }

/-! ### Failures -/

/-- There was no answer. -/
def noAnswer : Failure :=
  .retriableRegistry "no answer" "http call to schema registry failed"

/-- An answer was a success, but its body broke off. -/
def brokenBody : Failure :=
  .registry "the body breaks off" "could not read body of registry response"

/-- An answer was no success. -/
def refused (status : Nat) (detail : String) : Failure :=
  let message := "HTTP request to schema registry failed with status " ++ Http.Status.text status
  if status = Http.Status.notFound then .because .schemaNotFound detail message
  else if Http.Status.isUnavailable status then .retriableRegistry detail message
  else .registry detail message

/-- An answer names no id for the latest version. -/
def noLatestId (coordinate : Coordinate) : Failure :=
  .plain .registry ("Could not get globalId of latest version of " ++ coordinate.describe)

/-- An answer names no id for what was registered. -/
def noRegisteredId (coordinate : Coordinate) : Failure :=
  .plain .registry ("Could not get globalId from response for " ++ coordinate.describe)

/-! ### Calls -/

/-- What an answer to a request comes to: the body of a success. -/
def judge : Option Http.Reply → Except CallFailure String
  | none => .error ⟨none, noAnswer⟩
  | some reply =>
    if Http.Status.isSuccess reply.status then
      match reply.text? with
      | some body => .ok body
      | none => .error ⟨none, brokenBody⟩
    else
      .error ⟨some reply.status,
        refused reply.status (reply.text?.getD "couldn't read registry error body")⟩

/-- One attempt of a call, at one URL. -/
def attempt (transport : Http.Transport τ) (settings : RemoteSettings) (call : RemoteCall)
    (base : String) : StateM τ (Except CallFailure String) :=
  match call.url base with
  | .error failure => return .error ⟨none, failure⟩
  | .ok url => do
    let request := Http.Request.make url settings.authorization settings.headers call.body?
    if request.isSendable then return judge (← transport.send request)
    else return .error ⟨none, noAnswer⟩

/-- One round over the URLs: the first success, or the last failure. -/
def round (attempt : String → StateM τ (Except CallFailure String)) (first : String) :
    List String → StateM τ (Except CallFailure String)
  | [] => attempt first
  | next :: rest => do
    match ← attempt first with
    | .ok body => return .ok body
    | .error _ => round attempt next rest

/-- A round, and as many more as given while the last failure may pass. -/
def rounds (once : StateM τ (Except CallFailure String)) :
    (retries : Nat) → StateM τ (Except CallFailure String)
  | 0 => once
  | retries + 1 => do
    match ← once with
    | .ok body => return .ok body
    | .error failure =>
      if failure.failure.retriable then rounds once retries else return .error failure

/-- The body of the answer to a call, or the last failure with its status. -/
def performWithStatus (transport : Http.Transport τ) (settings : RemoteSettings)
    (call : RemoteCall) : StateM τ (Except CallFailure String) :=
  rounds (round (attempt transport settings call) settings.firstUrl settings.otherUrls)
    settings.maxRetries

/-- A step of the transport. -/
def lift {α : Type} (step : StateM τ α) : StateM (Remote τ) α := fun remote =>
  let (a, transport) := step.run remote.transport
  (a, { remote with transport := transport })

/-- The body of the answer to a call. -/
def perform (transport : Http.Transport τ) (settings : RemoteSettings) (call : RemoteCall) :
    Action (Remote τ) String :=
  ExceptT.mk do
    let result ← lift (performWithStatus transport settings call)
    return Outcome.ofExcept (result.mapError CallFailure.failure)

/-! ### Operations -/

section Operations

variable (transport : Http.Transport τ) (settings : RemoteSettings)

/-- The document of an id, from what is kept if possible. -/
def fetchById (id : UInt32) : Action (Remote τ) Document := do
  match (← get).documents.get? id with
  | some document => return document
  | none =>
    let body ← perform transport settings (.getById id)
    let document := Document.ofBody body
    modify fun remote => { remote with documents := remote.documents.insert id document }
    return document

/-- The id and the document of the latest version of an artifact. -/
def fetchLatest (coordinate : Coordinate) : Action (Remote τ) (UInt32 × Document) := do
  let body ← perform transport settings (.getLatest coordinate)
  match ← Action.ofExcept (Answer.versionId body) with
  | some id => return (id, ← fetchById transport settings id)
  | none => Action.fail (noLatestId coordinate)

/-- The first artifact that the registry finds for the content of a schema. -/
def findByContent (schema : String) (group : Option String) :
    Action (Remote τ) (Option Coordinate) := do
  let body ← perform transport settings (.searchByContent group schema)
  let found ← Action.ofExcept (Answer.searchResults body)
  return found.head?.map SearchedArtifact.coordinate

/-- The first of the artifacts that the registry lists whose latest document has the fingerprint of
a schema. -/
def findByFingerprint (schema : String) (group : Option String) :
    Action (Remote τ) (Option Coordinate) := do
  let target ← Action.ofOutcome (Fingerprint.ofSchema schema)
  let body ← perform transport settings
    (.listArtifacts group none ArtifactType.avro.name (some RemoteCall.fingerprintSearchLimit))
  let listed ← Action.ofExcept (Answer.searchResults body)
  let candidates := listed.filterMap SearchedArtifact.exactCoordinate?
  target.scan (fetchLatest transport settings) candidates

/-- The artifacts of a type, with a part of the name if one is given. -/
def search (name : Option String) (type : ArtifactType) : Action (Remote τ) (List Coordinate) := do
  let body ← perform transport settings (.listArtifacts none name type.name none)
  let found ← Action.ofExcept (Answer.searchResults body)
  return found.map SearchedArtifact.coordinate

/-- Registers a schema as a version of an artifact that exists. -/
def registerVersion (coordinate : Coordinate) (schema : String) : Action (Remote τ) UInt32 := do
  let body ← perform transport settings (.postVersion coordinate (createVersionBody schema))
  match ← Action.ofExcept (Answer.versionId body) with
  | some id => return id
  | none => Action.fail (noRegisteredId coordinate)

/-- Registers a schema under a coordinate: as a new artifact, or when there is one already as a
version of it. -/
def register (coordinate : Coordinate) (schema : String) (type : ArtifactType) :
    Action (Remote τ) UInt32 := do
  let call := RemoteCall.postArtifact coordinate.group
    (createArtifactBody coordinate.name type schema)
  match ← ExceptT.lift (lift (performWithStatus transport settings call)) with
  | .ok body =>
    match ← Action.ofExcept (Answer.createdId body) with
    | some id => return id
    | none => Action.fail (noRegisteredId coordinate)
  | .error failure =>
    if failure.status = some Http.Status.conflict then
      registerVersion transport settings coordinate schema
    else Action.fail failure.failure

/-- Whether an artifact exists. Whatever goes wrong means that it does not. -/
def checkExists (coordinate : Coordinate) : Action (Remote τ) Bool := do
  match ← (perform transport settings (.getArtifact coordinate)).caught with
  | .ok _ => return true
  | .error _ => return false

/-- The operations of a registry over a transport. -/
def registry : Registry (Remote τ) where
  fetchById := fetchById transport settings
  fetchLatest := fetchLatest transport settings
  findByContent := findByContent transport settings
  findByFingerprint := findByFingerprint transport settings
  register := register transport settings
  checkExists := checkExists transport settings

end Operations

end Remote

end FramedAvro
