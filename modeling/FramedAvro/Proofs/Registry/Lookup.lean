import FramedAvro.Proofs.Registry.Registration

/-!
# Looking schemas up in memory

Looking a schema up asks a registry in memory three questions, none of which changes it. So the
answer is a function of the tables, `Memory.findSchema`.

## Main results

* `Memory.perform_findSchema`: the lookup of the registry is this function.
* `Memory.fetchById_of_findSchema`: the document that is found is the one of the id.
-/

namespace FramedAvro.Memory

/-- The artifact that is found for a schema: by content if possible and by fingerprint if not. -/
def findArtifact (memory : Memory) (schema : String) (group : Option String) :
    Outcome (Option Coordinate) := do
  match ← Outcome.ofExcept (memory.findByContent schema group) with
  | some coordinate => return some coordinate
  | none => memory.findByFingerprint schema group

/-- The id and the document of the latest version of the artifact that is found for a schema. -/
def findSchema (memory : Memory) (schema : String) (group : Option String) :
    Outcome (UInt32 × Document) := do
  match ← memory.findArtifact schema group with
  | some coordinate => Outcome.ofExcept (memory.fetchLatest coordinate)
  | none => throw (.failed noMatchingSchema)

/-- Looking for an artifact leaves the registry as it is. -/
theorem perform_findArtifact (memory : Memory) (schema : String) (group : Option String) :
    (registry.findArtifact schema group).perform memory =
      (memory.findArtifact schema group, memory) := by
  have hcontent : (registry.findByContent schema group).perform memory =
      (.ofExcept (memory.findByContent schema group), memory) := rfl
  rw [Registry.findArtifact, findArtifact, Action.perform_bind, hcontent]
  rcases memory.findByContent schema group with failure | _ | coordinate <;> rfl

/-- Looking a schema up gives the answer of the tables and leaves them alone. -/
theorem perform_findSchema (memory : Memory) (schema : String) (group : Option String) :
    (registry.findSchema schema group).perform memory =
      (memory.findSchema schema group, memory) := by
  rw [Registry.findSchema, findSchema, Action.perform_bind, perform_findArtifact]
  rcases memory.findArtifact schema group with failure | _ | coordinate <;> rfl

/-- The latest version of an artifact has the document of its id. -/
theorem fetchById_of_fetchLatest {memory : Memory} {coordinate : Coordinate} {id : UInt32}
    {document : Document} (h : memory.fetchLatest coordinate = .ok (id, document)) :
    ∃ latest, (memory.versions coordinate).getLast? = some latest ∧ latest.id = id ∧
      memory.fetchById id = .ok document := by
  rw [fetchLatest] at h
  split at h
  · next latest hlatest =>
      cases hdocument : memory.fetchById latest.id with
      | error failure =>
          rw [hdocument] at h
          contradiction
      | ok own =>
          rw [hdocument] at h
          obtain ⟨rfl, rfl⟩ := Prod.mk.inj (Except.ok.inj h)
          exact ⟨latest, hlatest, rfl, hdocument⟩
  · contradiction

/-- A lookup that succeeds answers with the latest version of the artifact it found. -/
theorem fetchLatest_of_findSchema {memory : Memory} {schema : String} {group : Option String}
    {id : UInt32} {document : Document} (h : memory.findSchema schema group = .ok (id, document)) :
    ∃ coordinate, memory.findArtifact schema group = .ok (some coordinate) ∧
      memory.fetchLatest coordinate = .ok (id, document) := by
  rw [findSchema] at h
  rcases hfound : memory.findArtifact schema group with failure | _ | coordinate
  · rw [hfound] at h
    contradiction
  · rw [hfound] at h
    contradiction
  · rw [hfound] at h
    exact ⟨coordinate, rfl, Outcome.ofExcept_eq_ok_iff.1 h⟩

/-- A lookup that succeeds answers with the document of the id. -/
theorem fetchById_of_findSchema {memory : Memory} {schema : String} {group : Option String}
    {id : UInt32} {document : Document} (h : memory.findSchema schema group = .ok (id, document)) :
    memory.fetchById id = .ok document := by
  obtain ⟨coordinate, -, hlatest⟩ := fetchLatest_of_findSchema h
  obtain ⟨latest, -, -, hid⟩ := fetchById_of_fetchLatest hlatest
  exact hid

end FramedAvro.Memory
