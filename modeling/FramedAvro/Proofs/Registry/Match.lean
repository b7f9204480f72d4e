import Mathlib
import FramedAvro.Proofs.Json.RoundTrip
import FramedAvro.Proofs.Registry.Candidates
import FramedAvro.Proofs.Registry.Lookup

/-!
# Matching documents

The search by content looks at all versions of an artifact, and what is answered is the latest one.
So a lookup that succeeds may answer with a document that does not match the schema that was looked
up, when the artifact has changed since.

## Main results

* `Registration.findSchema_matches_iff`: the document matches unless an artifact was found by
  content whose latest version does not.
* `Registration.findSchema_changed`: an artifact that has changed is answered with the other schema.
-/

namespace FramedAvro

/-- A document matches a schema text when both have the same canonical text or the same
fingerprint. -/
def Document.Matches (document : Document) (schema : String) : Prop :=
  (∃ canonical, canonicalText document.text = .ok canonical ∧
    canonicalText schema = .ok canonical) ∨
  ∃ fingerprint, Fingerprint.ofSchema document.text = .ok fingerprint ∧
    Fingerprint.ofSchema schema = .ok fingerprint

/-- A schema that is read is kept as the document of its value. -/
theorem Document.ofBody_of_schemaJson {schema : String} {content : Json}
    (h : schemaJson schema = .ok content) : Document.ofBody schema = Document.ofJson content := by
  rw [schemaJson] at h
  rw [Document.ofBody]
  split at h
  · obtain rfl := Except.ok.inj h
    rfl
  · contradiction

namespace Memory

/-! ### Documents of versions -/

/-- Content is known by the id of its document, and every version has the document that its text
is. -/
structure Faithful (memory : Memory) : Prop where
  indexed : ∀ text id, memory.contents.get? text = some id →
    ∃ content : Json, content.text = text ∧ memory.documents.get? id = some content
  versioned : ∀ coordinate, ∀ version ∈ memory.versions coordinate,
    ∃ content, schemaJson version.schema = .ok content ∧
      memory.documents.get? version.id = some content

/-- The registry with nothing in it is faithful. -/
theorem faithful_empty : Faithful .empty where
  indexed text id h := by
    rw [empty, Table.get?_empty] at h
    contradiction
  versioned coordinate version h := by
    rw [versions, empty, Table.get?_empty] at h
    contradiction

/-- A version of known content points to the document of that content. -/
theorem Faithful.get?_documents {memory : Memory} (h : Faithful memory) {content : Json}
    {id : UInt32} (known : memory.contents.get? content.text = some id) :
    memory.documents.get? id = some content := by
  obtain ⟨own, hown, hdocument⟩ := h.indexed _ _ known
  rw [← Json.text_injective hown]
  exact hdocument

/-- A version whose id has the document of its schema keeps a registry faithful. -/
theorem Faithful.addVersion {memory : Memory} (h : Faithful memory) {coordinate : Coordinate}
    {schema : String} {content : Json} {id : UInt32} (hcontent : schemaJson schema = .ok content)
    (hdocument : memory.documents.get? id = some content) :
    Faithful (memory.addVersion coordinate id schema) where
  indexed := h.indexed
  versioned other version hversion := by
    rcases mem_versions_addVersion hversion with rfl | hold
    · exact ⟨content, hcontent, hdocument⟩
    · exact h.versioned other version hold

/-- A document under a new id keeps a registry faithful. -/
theorem Faithful.addDocument {memory : Memory} (h : Faithful memory) {content : Json} {id : UInt32}
    (unused : memory.documents.get? id = none) : Faithful (memory.addDocument id content) where
  indexed text other hknown := by
    rw [get?_contents_addDocument] at hknown
    split at hknown
    · next htext =>
        obtain rfl := Option.some.inj hknown
        exact ⟨content, htext.symm, by rw [get?_documents_addDocument, if_pos rfl]⟩
    · obtain ⟨own, hown, hdocument⟩ := h.indexed text other hknown
      exact ⟨own, hown, grows_addDocument content unused _ _ hdocument⟩
  versioned coordinate version hversion := by
    obtain ⟨own, hown, hdocument⟩ := h.versioned coordinate version hversion
    exact ⟨own, hown, grows_addDocument content unused _ _ hdocument⟩

/-- A registration keeps a registry faithful. -/
theorem Stores.faithful {memory after : Memory} {coordinate : Coordinate} {schema : String}
    {content : Json} {id : UInt32} (stores : Stores memory coordinate schema content id after)
    (hcontent : schemaJson schema = .ok content) (h : Faithful memory) : Faithful after := by
  cases stores with
  | present known there => exact h
  | linked known missing => exact h.addVersion hcontent (h.get?_documents known)
  | fresh unknown next =>
      refine (h.addDocument (get?_nextId next)).addVersion hcontent ?_
      rw [get?_documents_addDocument, if_pos rfl]

/-- The latest version of an artifact is answered with the document that its text is. -/
theorem Faithful.fetchLatest {memory : Memory} (h : Faithful memory) {coordinate : Coordinate}
    {id : UInt32} {document : Document}
    (hlatest : memory.fetchLatest coordinate = .ok (id, document)) :
    ∃ latest, (memory.versions coordinate).getLast? = some latest ∧
      document = Document.ofBody latest.schema := by
  obtain ⟨latest, hlast, rfl, hdocument⟩ := fetchById_of_fetchLatest hlatest
  obtain ⟨content, hcontent, hstored⟩ :=
    h.versioned coordinate latest (List.mem_of_getLast? hlast)
  refine ⟨latest, hlast, ?_⟩
  rw [fetchById, hstored] at hdocument
  rw [Document.ofBody_of_schemaJson hcontent]
  exact (Except.ok.inj hdocument).symm

/-! ### Searching -/

/-- What is found by fingerprint has the fingerprint of the schema. -/
theorem matches_of_findByFingerprint {memory : Memory} {schema : String} {group : Option String}
    {coordinate : Coordinate} {id : UInt32} {document : Document}
    (h : memory.findByFingerprint schema group = .ok (some coordinate))
    (hlatest : memory.fetchLatest coordinate = .ok (id, document)) : document.Matches schema := by
  rw [findByFingerprint] at h
  cases htarget : Fingerprint.ofSchema schema with
  | error failure =>
      rw [htarget] at h
      contradiction
  | ok target =>
      rw [htarget] at h
      have hhit := (Fingerprint.hit_of_search h).2
      rw [hlatest] at hhit
      obtain ⟨own, hown, hfingerprint⟩ := Fingerprint.compareCandidate_eq_found_iff.1 hhit
      obtain rfl := Except.ok.inj hown
      exact .inr ⟨target, hfingerprint, htarget⟩

/-- An artifact is found by content, or else by fingerprint. -/
theorem findArtifact_eq_some {memory : Memory} {schema : String} {group : Option String}
    {coordinate : Coordinate} (h : memory.findArtifact schema group = .ok (some coordinate)) :
    memory.findByContent schema group = .ok (some coordinate) ∨
      memory.findByContent schema group = .ok none ∧
        memory.findByFingerprint schema group = .ok (some coordinate) := by
  rw [findArtifact] at h
  rcases hcontent : memory.findByContent schema group with failure | _ | found
  · rw [hcontent] at h
    contradiction
  · rw [hcontent] at h
    exact .inr ⟨rfl, h⟩
  · rw [hcontent] at h
    obtain rfl := Option.some.inj (Except.ok.inj h)
    exact .inl rfl

end Memory

namespace Registration

/-- Every run of registrations leaves a faithful registry. -/
theorem performAll_faithful (calls : List Registration) :
    Memory.Faithful (performAll calls .empty).2 :=
  performAll_preserves calls (fun hcontent stores h => stores.faithful hcontent h)
    Memory.faithful_empty

/-- A document that is found for a schema matches it, unless it was found by content and the latest
version of the artifact does not match. -/
theorem findSchema_matches_iff (calls : List Registration) {schema : String}
    {group : Option String} {id : UInt32} {document : Document}
    (h : ((Memory.registry.findSchema schema group).perform (performAll calls .empty).2).1 =
      .ok (id, document)) :
    document.Matches schema ↔ ∀ coordinate latest,
      (performAll calls .empty).2.findByContent schema group = .ok (some coordinate) →
      ((performAll calls .empty).2.versions coordinate).getLast? = some latest →
      (Document.ofBody latest.schema).Matches schema := by
  have hfaithful := performAll_faithful calls
  generalize (performAll calls .empty).2 = memory at h hfaithful ⊢
  rw [Memory.perform_findSchema] at h
  obtain ⟨coordinate, hfound, hlatest⟩ := Memory.fetchLatest_of_findSchema h
  rcases Memory.findArtifact_eq_some hfound with hcontent | ⟨hnone, hfingerprint⟩
  · obtain ⟨latest, hlast, rfl⟩ := hfaithful.fetchLatest hlatest
    constructor
    · intro hmatches own other hown hother
      rw [hcontent] at hown
      obtain rfl := Option.some.inj (Except.ok.inj hown)
      rw [hlast] at hother
      obtain rfl := Option.some.inj hother
      exact hmatches
    · intro hall
      exact hall coordinate latest hcontent hlast
  · constructor
    · intro _ own other hown
      rw [hnone] at hown
      cases hown
    · intro _
      exact Memory.matches_of_findByFingerprint hfingerprint hlatest

/-- An artifact that was registered as an int and then as a long. -/
def intThenLong : List Registration :=
  [.register ⟨"shop", "order"⟩ "\"int\"" .avro, .register ⟨"shop", "order"⟩ "\"long\"" .avro]

/-- Two versions of one artifact: a lookup of the schema of the second one gets this one. -/
theorem findSchema_matches_latest :
    ((Memory.registry.findSchema "\"long\"" none).perform (performAll intThenLong .empty).2).1 =
        .ok (2, .bare (.string "long")) ∧
      (Document.bare (.string "long")).Matches "\"long\"" := by
  have hfound : ((Memory.registry.findSchema "\"long\"" none).perform
      (performAll intThenLong .empty).2).1 = .ok (2, .bare (.string "long")) := by cbv
  refine ⟨hfound, (findSchema_matches_iff intThenLong hfound).2 fun coordinate latest h hlast => ?_⟩
  have hcontent : (performAll intThenLong .empty).2.findByContent "\"long\"" none =
      .ok (some ⟨"shop", "order"⟩) := by cbv
  rw [hcontent] at h
  obtain rfl := Option.some.inj (Except.ok.inj h)
  have hversions : ((performAll intThenLong .empty).2.versions ⟨"shop", "order"⟩).getLast? =
      some ⟨2, 2, "\"long\""⟩ := by cbv
  rw [hversions] at hlast
  obtain rfl := Option.some.inj hlast
  exact .inl ⟨"\"long\"", by cbv, by cbv⟩

/-- The int is still found by its content, and answered with the long. -/
theorem findSchema_changed :
    ((Memory.registry.findSchema "\"int\"" none).perform (performAll intThenLong .empty).2).1 =
        .ok (2, .bare (.string "long")) ∧
      ¬(Document.bare (.string "long")).Matches "\"int\"" := by
  refine ⟨by cbv, ?_⟩
  rintro (⟨canonical, hown, hschema⟩ | ⟨fingerprint, hown, hschema⟩)
  · have hlong : canonicalText (Document.bare (.string "long")).text = .ok "\"long\"" := by cbv
    have hint : canonicalText "\"int\"" = .ok "\"int\"" := by cbv
    rw [hlong] at hown
    rw [hint, ← hown] at hschema
    exact absurd (Except.ok.inj hschema) (by decide)
  · have hdifferent : Fingerprint.ofSchema (Document.bare (.string "long")).text ≠
        Fingerprint.ofSchema "\"int\"" := by
      cbv
      decide
    exact hdifferent (hown.trans hschema.symm)

end Registration

end FramedAvro
