import FramedAvro.Coordinate
import FramedAvro.Frame
import FramedAvro.Registry.ArtifactType
import FramedAvro.Registry.Fingerprint
import FramedAvro.Registry.Memory
import FramedAvro.Registry.Observed
import FramedAvro.Registry.Remote.Basic
import FramedAvro.Serializer.Basic
import FramedAvro.Model.Samples
import FramedAvro.Proofs.Registry.Contents
import FramedAvro.Proofs.Registry.Match
import FramedAvro.Proofs.Serializer.RoundTrip
import FramedAvro.Proofs.Json.Meaning
import FramedAvro.Proofs.Json.Sorted
import FramedAvro.Proofs.Json.Canonical
import FramedAvro.Proofs.Json.Depth
import FramedAvro.Proofs.Registry.Changes
import FramedAvro.Proofs.Registry.Fetch
import FramedAvro.Proofs.Registry.Search
import FramedAvro.Proofs.Registry.Integrity
import FramedAvro.Proofs.Registry.Isolation
import FramedAvro.Proofs.Serializer.Receipts
import FramedAvro.Proofs.Serializer.Source
import FramedAvro.Proofs.Failure
import FramedAvro.Proofs.Serializer.Failures
import FramedAvro.Proofs.Registry.Remote.Call
import FramedAvro.Proofs.Registry.Remote.Exchanges
import FramedAvro.Proofs.Registry.Remote.Cache
import FramedAvro.Proofs.Registry.Remote.Session
import FramedAvro.Proofs.Registry.Remote.Failover
import FramedAvro.Proofs.Serializer.KeptSchemas
import FramedAvro.Proofs.Registry.Remote.Addresses
import FramedAvro.Proofs.Url.File
import FramedAvro.Proofs.Serializer.Shared
import FramedAvro.Proofs.Registry.Refusal
import FramedAvro.Proofs.Registry.Scan
import FramedAvro.Proofs.Registry.Index
import FramedAvro.Proofs.Registry.Fingerprint
import FramedAvro.Proofs.Registry.Remote.Queries
import FramedAvro.Proofs.Registry.Remote.Posting
import FramedAvro.Proofs.Registry.Envelope
import FramedAvro.Proofs.Serializer.Evolution
import FramedAvro.Proofs.Registry.Remote.Bodies
import FramedAvro.Proofs.Registry.Versions
import FramedAvro.Proofs.Registry.Remote.Headers
