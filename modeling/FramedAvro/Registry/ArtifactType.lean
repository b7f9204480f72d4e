/-!
# Artifact types

A registry keeps several kinds of artifacts. Only Avro is read here, but the type is part of
registering a schema and of listing artifacts.
-/

namespace FramedAvro

/-- What kind of schema an artifact holds. -/
inductive ArtifactType where
  | avro
  | protobuf
  | json
  | other (name : String)
deriving DecidableEq, Repr

namespace ArtifactType

/-- The name a registry knows the type by. -/
def name : ArtifactType → String
  | avro => "AVRO"
  | protobuf => "PROTOBUF"
  | json => "JSON"
  | other name => name

/-- The type a registry knows by a name. -/
def ofName (name : String) : ArtifactType :=
  if name = "AVRO" then avro
  else if name = "PROTOBUF" then protobuf
  else if name = "JSON" then json
  else other name

end ArtifactType

end FramedAvro
