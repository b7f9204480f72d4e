import FramedAvro.Coordinate
import FramedAvro.Failure
import FramedAvro.Json.Parts

/-!
# Answers

The bodies with which a remote registry answers. Members that are not asked for are passed by, but
one that is asked for may not come twice; a member that is null is missing. An object may also be
given as the array of its members in order.

## Main definitions

* `Answer.versionId`, `Answer.createdId`: the id in an answer about a version or a new artifact.
* `SearchedArtifact`, `Answer.searchResults`: what a search found.
-/

namespace FramedAvro

namespace Answer

/-- The values of the members with the given keys: of an object, or of an array that has exactly
them. Nothing when a key comes twice. -/
def members? (keys : List String) : Json → Option (List (Option Json))
  | .object members =>
    if decide ((members.map (·.1)).filter keys.contains).Nodup then
      some (keys.map fun key => members.lookup key)
    else none
  | .array items => if items.length = keys.length then some (items.map some) else none
  | _ => none

/-- A value that may be missing. -/
def optional? {α : Type} (read : Json → Option α) : Option Json → Option (Option α)
  | none => some none
  | some .null => some none
  | some j => (read j).map some

/-- An id: an integer of 32 bits, spelled as one. -/
def id? (j : Json) : Option UInt32 :=
  (j.nat?.filter (· < UInt32.size)).map UInt32.ofNat

/-- What is wanted of the description of a version. -/
def versionWanted : Json.Wanted :=
  .parts ["globalId"] .whole

/-- The id in the description of a version. -/
def version? (j : Json) : Option (Option UInt32) :=
  match members? ["globalId"] j with
  | some [id] => optional? id? id
  | _ => none

/-- What is wanted of the description of a new artifact. -/
def createdWanted : Json.Wanted :=
  .parts ["version"] versionWanted

/-- The id in the description of a new artifact. -/
def created? (j : Json) : Option (Option UInt32) :=
  match members? ["version"] j with
  | some [version] => (optional? version? version).map Option.join
  | _ => none

end Answer

/-- An artifact as a search describes it. -/
structure SearchedArtifact where
  groupId : Option String
  artifactId : Option String
  id : Option String
  name : Option String
deriving DecidableEq, Repr

namespace SearchedArtifact

/-- The group of artifacts without one. -/
def defaultGroup : String := "default"

/-- The coordinate, with whatever name there is: registries differ in what they call it. -/
def coordinate (artifact : SearchedArtifact) : Coordinate :=
  ⟨artifact.groupId.getD defaultGroup,
    ((artifact.artifactId.or artifact.id).or artifact.name).getD "unknown"⟩

/-- The coordinate, only if group and artifact are both said. -/
def exactCoordinate? (artifact : SearchedArtifact) : Option Coordinate :=
  match artifact.groupId, artifact.artifactId with
  | some group, some name => some ⟨group, name⟩
  | _, _ => none

/-- The keys in the description of an artifact. -/
def keys : List String :=
  ["groupId", "artifactId", "id", "name"]

/-- What is wanted of the description of an artifact. -/
def wanted : Json.Wanted :=
  .parts keys .whole

/-- The artifact in the description of one. -/
def ofJson? (j : Json) : Option SearchedArtifact :=
  match Answer.members? keys j with
  | some [groupId, artifactId, id, name] => do
    let groupId ← Answer.optional? Json.string? groupId
    let artifactId ← Answer.optional? Json.string? artifactId
    let id ← Answer.optional? Json.string? id
    let name ← Answer.optional? Json.string? name
    return ⟨groupId, artifactId, id, name⟩
  | _ => none

end SearchedArtifact

namespace Answer

/-- What is wanted of the results of a search. -/
def resultsWanted : Json.Wanted :=
  .parts ["artifacts"] (.items SearchedArtifact.wanted)

/-- The artifacts in the results of a search, none when they are not said. -/
def results? (j : Json) : Option (List SearchedArtifact) :=
  let artifacts? : Option (Option Json) :=
    match j with
    | .array [] => some none
    | j =>
      match members? ["artifacts"] j with
      | some [artifacts] => some artifacts
      | _ => none
  match artifacts? with
  | some none => some []
  | some (some (.array items)) => items.mapM SearchedArtifact.ofJson?
  | _ => none

/-- A body is not what was asked for. -/
def unreadable (what body : String) : Failure :=
  .registry ("no such form: " ++ body) ("could not parse " ++ what ++ " from response")

/-- What a body says. -/
def read {α : Type} (what : String) (wanted : Json.Wanted) (read? : Json → Option α)
    (body : String) : Except Failure α :=
  match (Json.parseWanted? wanted body).bind read? with
  | some a => .ok a
  | none => .error (unreadable what body)

/-- The id in an answer about a version, if there is one. -/
def versionId (body : String) : Except Failure (Option UInt32) :=
  read "version meta data" versionWanted version? body

/-- The id in an answer about a new artifact, if there is one. -/
def createdId (body : String) : Except Failure (Option UInt32) :=
  read "created artifact" createdWanted created? body

/-- The artifacts in an answer to a search. -/
def searchResults (body : String) : Except Failure (List SearchedArtifact) :=
  read "search results" resultsWanted results? body

end Answer

end FramedAvro
