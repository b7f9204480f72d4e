/-!
# Failures

Every operation of the library that can fail fails with a `Failure`: a kind for callers to branch
on, a message, the text of what caused it, and whether the same call may succeed later.

A failure that crosses a boundary is wrapped at most once. `Failure.wrapUnless` turns it into a
failure of the boundary's own kind, with the description of the wrapped failure as cause, and leaves
alone what is already of that kind or is meant to pass through.

## Main definitions

* `FailureKind`, `Failure`: what went wrong.
* `Failure.describe`: the one text of a failure.
* `Failure.wrapUnless`: crossing a boundary.
-/

namespace FramedAvro

/-- The kind of a failure, which is what callers should branch on. -/
inductive FailureKind where
  /-- The registry has no document for the id or coordinate. -/
  | schemaNotFound
  /-- Bytes that are too short for a frame, or do not start with the magic byte. -/
  | invalidWireFormat
  /-- Bytes could not be produced. -/
  | serialization
  /-- A value could not be read from bytes. -/
  | deserialization
  /-- The value does not satisfy the schema it is encoded against. -/
  | schemaMismatch
  /-- No schema in the registry matches the schema of the value. -/
  | schemaMatch
  /-- Talking to the registry failed. -/
  | registry
  /-- A text that is not JSON, or not an Avro schema. -/
  | invalidSchema
  /-- The operation is deliberately not offered. -/
  | notImplemented
deriving DecidableEq, Repr

namespace FailureKind

/-- The name a kind has in descriptions. -/
def label : FailureKind → String
  | schemaNotFound => "SchemaNotFound"
  | invalidWireFormat => "InvalidWireFormat"
  | serialization => "Serialization"
  | deserialization => "Deserialization"
  | schemaMismatch => "SchemaMismatch"
  | schemaMatch => "SchemaMatch"
  | registry => "Registry"
  | invalidSchema => "InvalidSchema"
  | notImplemented => "NotImplemented"

/-- Every kind, each once. -/
def all : List FailureKind :=
  [schemaNotFound, invalidWireFormat, serialization, deserialization, schemaMismatch, schemaMatch,
    registry, invalidSchema, notImplemented]

/-- There is no other kind of failure. -/
theorem mem_all (kind : FailureKind) : kind ∈ all := by
  cases kind <;> decide

end FailureKind

/-- What went wrong, and whether trying again may help. -/
structure Failure where
  kind : FailureKind
  message : String
  cause : Option String
  retriable : Bool
deriving DecidableEq, Repr

namespace Failure

/-- A failure nothing else caused. -/
def plain (kind : FailureKind) (message : String) : Failure :=
  ⟨kind, message, none, false⟩

/-- A failure caused by what `cause` says. -/
def because (kind : FailureKind) (cause message : String) : Failure :=
  ⟨kind, message, some cause, false⟩

/-- The registry has no such document. -/
def notFound (message : String) : Failure :=
  plain .schemaNotFound message

/-- The registry could not do what was asked, and asking again will not change that. -/
def registry (cause message : String) : Failure :=
  because .registry cause message

/-- The registry could not be reached, or was not ready. -/
def retriableRegistry (cause message : String) : Failure :=
  ⟨.registry, message, some cause, true⟩

/-- The text is no schema. -/
def invalidSchema (cause message : String) : Failure :=
  because .invalidSchema cause message

/-- How a truth value is spelled in descriptions. -/
def spellBool (b : Bool) : String :=
  if b then "true" else "false"

/-- The text of a failure, with its cause if it has one. -/
def describe (f : Failure) : String :=
  match f.cause with
  | some cause =>
    f.kind.label ++ " error: " ++ f.message ++ ", was caused by " ++ cause ++
      ", it's retriable: " ++ spellBool f.retriable
  | none =>
    f.kind.label ++ " error: " ++ f.message ++ " had no other cause, it's retriable: " ++
      spellBool f.retriable

/-- The failure as seen from outside a boundary of the given kind: unchanged when it is of that kind
or of one of the `passThrough` kinds, else a failure of that kind which `f` caused. The retriable
flag is kept either way. -/
def wrapUnless (f : Failure) (kind : FailureKind) (passThrough : List FailureKind)
    (message : String) : Failure :=
  if f.kind = kind ∨ f.kind ∈ passThrough then f
  else ⟨kind, message, some f.describe, f.retriable⟩

end Failure

end FramedAvro
