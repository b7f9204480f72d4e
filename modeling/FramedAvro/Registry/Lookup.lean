import FramedAvro.Registry.Basic
import FramedAvro.Registry.Fingerprint

/-!
# Lookup

Finding the id of a schema in a registry when only the schema itself is known: first by its content,
then by its fingerprint.

## Main definitions

* `Fingerprint.scan`: the first of some artifacts whose latest document has a fingerprint.
* `Registry.findSchema`: the id and the document of a schema.
-/

namespace FramedAvro

/-- The first candidate whose latest document has the fingerprint. Candidates that cannot be fetched
or are no Avro schemas are passed by. -/
def Fingerprint.scan {σ : Type} (target : Fingerprint)
    (fetchLatest : Coordinate → Action σ (UInt32 × Document)) :
    List Coordinate → Action σ (Option Coordinate)
  | [] => return none
  | candidate :: rest => do
    let latest ← (fetchLatest candidate).caught
    match ← Action.ofOutcome (compareCandidate target (latest.map (·.2))) with
    | .found => return some candidate
    | .different => scan target fetchLatest rest
    | .skipped _ => scan target fetchLatest rest

/-- No schema of the registry is the one that was looked for. -/
def noMatchingSchema : Failure :=
  .plain .schemaMatch
    ("No matching schema found in registry for automatic lookup, " ++
      "register the schema or specify a schema id")

namespace Registry

variable {σ : Type} (registry : Registry σ)

/-- The first candidate whose latest document in the registry has the fingerprint of a schema. -/
def scan (schema : String) (candidates : List Coordinate) : Action σ (Option Coordinate) := do
  let target ← Action.ofOutcome (Fingerprint.ofSchema schema)
  target.scan registry.fetchLatest candidates

/-- An artifact for a schema, found by content if possible and by fingerprint if not. -/
def findArtifact (schema : String) (group : Option String) : Action σ (Option Coordinate) := do
  match ← registry.findByContent schema group with
  | some coordinate => return some coordinate
  | none => registry.findByFingerprint schema group

/-- The id and the document of the latest version of the artifact that is found for a schema. -/
def findSchema (schema : String) (group : Option String) : Action σ (UInt32 × Document) := do
  match ← registry.findArtifact schema group with
  | some coordinate => registry.fetchLatest coordinate
  | none => Action.fail noMatchingSchema

end Registry

end FramedAvro
