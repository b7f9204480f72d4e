import FramedAvro.Avro.CanonicalForm
import FramedAvro.Avro.SchemaJson
import FramedAvro.Coordinate
import FramedAvro.Md5
import FramedAvro.Outcome
import FramedAvro.Registry.Document

/-!
# Fingerprints

The fingerprint of a schema is the MD5 digest of its parsing canonical form, so that schemas that
differ only in what does not matter for reading data have the same one. A schema without such a form
has no fingerprint either, and neither asking for it nor comparing it with another ever returns.

## Main definitions

* `canonicalForm`: the parsing canonical form of a schema text.
* `Fingerprint.ofSchema`: the fingerprint of a schema text.
* `compareCandidate`, `Fingerprint.search`: whether a document has a fingerprint, and the first of
  some that has it.
-/

namespace FramedAvro

/-- The parsing canonical form of a schema text. -/
def canonicalForm (schema : String) : Outcome String := do
  let parsed ← Outcome.ofChecked
    (.invalidSchema ("no Avro schema: " ++ schema) "Could not parse Avro schema")
    (Avro.Schema.parse? schema)
  match parsed.canonicalForm? with
  | some form => return form
  | none => throw .crashed

/-- What schemas are compared by. -/
structure Fingerprint where
  digest : Bytes
deriving DecidableEq, Repr

namespace Fingerprint

/-- The fingerprint of a schema text. -/
def ofSchema (schema : String) : Outcome Fingerprint :=
  (canonicalForm schema).map fun form => ⟨Md5.digest (Utf8.encode form)⟩

/-- The digits of a fingerprint. -/
def text (fingerprint : Fingerprint) : String :=
  Hex.encode fingerprint.digest

end Fingerprint

/-- What comparing one candidate gave. -/
inductive CandidateOutcome where
  | found
  | different
  /-- There was no document, or it was no Avro schema. -/
  | skipped (failure : Failure)
deriving DecidableEq, Repr

/-- Whether the document of a candidate has the fingerprint. -/
def compareCandidate (target : Fingerprint) : Except Failure Document → Outcome CandidateOutcome
  | .error failure => .ok (.skipped failure)
  | .ok document =>
    match Fingerprint.ofSchema document.text with
    | .ok fingerprint => .ok (if fingerprint = target then .found else .different)
    | .error (.failed failure) => .ok (.skipped failure)
    | .error .crashed => .error .crashed

/-- The first candidate whose document has the fingerprint. Candidates without a document, and those
whose document is no Avro schema, are passed by. -/
def Fingerprint.search (target : Fingerprint) (fetch : Coordinate → Except Failure Document) :
    List Coordinate → Outcome (Option Coordinate)
  | [] => return none
  | candidate :: rest => do
    match ← compareCandidate target (fetch candidate) with
    | .found => return some candidate
    | .different => search target fetch rest
    | .skipped _ => search target fetch rest

end FramedAvro
