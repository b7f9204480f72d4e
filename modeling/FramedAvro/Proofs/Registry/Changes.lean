import FramedAvro.Proofs.Registry.Match

/-!
# Changes of a registry in memory

Between two questions a registry in memory may be changed in three ways: by a registration, by a
document that is put under a chosen id without any checks, and by starting over. What holds of the
empty registry and is kept by each of them holds of every registry there can be.

Every id that the tables mention has a document, whatever was put where. That the document of a
content is this content is more, and holds as long as nothing was put under a chosen id.

## Main definitions

* `Change`, `Change.applyAll`: changes, one after the other.
* `Memory.Documented`: every id that is mentioned has a document.

## Main results

* `Change.applyAll_documented`, `Change.applyAll_faithful`: what holds of every registry.
-/

namespace FramedAvro

/-- What changes a registry in memory. -/
inductive Change where
  /-- A registration, which may be refused. -/
  | register (call : Registration)
  /-- A document is put under a chosen id, and is a version of an artifact. -/
  | put (id : UInt32) (content : Json) (coordinate : Coordinate)
  /-- Everything is dropped. -/
  | reset

namespace Memory

/-- Every id of a version and every id that content is known by has a document. -/
structure Documented (memory : Memory) : Prop where
  indexed : ∀ text id, memory.contents.get? text = some id →
    ∃ document, memory.documents.get? id = some document
  versioned : ∀ coordinate, ∀ version ∈ memory.versions coordinate,
    ∃ document, memory.documents.get? version.id = some document

/-- A registry in which all schemas are found by their contents has a document for each of them. -/
theorem Faithful.documented {memory : Memory} (h : Faithful memory) : Documented memory where
  indexed text id hknown := by
    obtain ⟨content, -, hdocument⟩ := h.indexed text id hknown
    exact ⟨content, hdocument⟩
  versioned coordinate version hversion := by
    obtain ⟨content, -, hdocument⟩ := h.versioned coordinate version hversion
    exact ⟨content, hdocument⟩

/-- A version with an id that has a document keeps all ids documented. -/
theorem Documented.addVersion {memory : Memory} (h : Documented memory) {coordinate : Coordinate}
    {schema : String} {id : UInt32} {document : Json}
    (hdocument : memory.documents.get? id = some document) :
    Documented (memory.addVersion coordinate id schema) where
  indexed := h.indexed
  versioned other version hversion := by
    rcases mem_versions_addVersion hversion with rfl | hold
    · exact ⟨document, hdocument⟩
    · exact h.versioned other version hold

/-- A document under an id, whether or not that has one, leaves every other id with its document. -/
theorem exists_get?_insert {memory : Memory} (id other : UInt32) (content : Json)
    (h : other = id ∨ ∃ document, memory.documents.get? other = some document) :
    ∃ document, (memory.documents.insert id content).get? other = some document := by
  rw [Table.get?_insert]
  by_cases hid : other = id
  · exact ⟨content, if_pos hid⟩
  · obtain ⟨document, hdocument⟩ := h.resolve_left hid
    exact ⟨document, by rw [if_neg hid, hdocument]⟩

/-- A document that is put under an id, and a content that may be found by it, keep all ids
documented. -/
theorem Documented.putDocument {memory : Memory} (h : Documented memory) (id : UInt32)
    (content : Json) {contents : Table String UInt32}
    (hcontents : ∀ text own, contents.get? text = some own →
      own = id ∨ memory.contents.get? text = some own) :
    Documented { memory with documents := memory.documents.insert id content, contents } where
  indexed text own hknown :=
    exists_get?_insert id own content ((hcontents text own hknown).imp_right (h.indexed text own))
  versioned coordinate version hversion :=
    exists_get?_insert id version.id content (.inr (h.versioned coordinate version hversion))

/-- Content that is known by an id is known by that id or was known before. -/
theorem get?_insert_contents {contents : Table String UInt32} {own text : String}
    {id other : UInt32} (h : (contents.insert own id).get? text = some other) :
    other = id ∨ contents.get? text = some other := by
  rw [Table.get?_insert] at h
  split at h
  · exact .inl (Option.some.inj h).symm
  · exact .inr h

/-- One more document keeps all ids documented. -/
theorem Documented.addDocument {memory : Memory} (h : Documented memory) (id : UInt32)
    (content : Json) :
    Documented (memory.addDocument id content) :=
  h.putDocument id content fun _ _ => get?_insert_contents

/-- A registration keeps all ids documented. -/
theorem Stores.documented {memory after : Memory} {coordinate : Coordinate} {schema : String}
    {content : Json} {id : UInt32} (stores : Stores memory coordinate schema content id after)
    (h : Documented memory) : Documented after := by
  cases stores with
  | present known there => exact h
  | linked known missing =>
      obtain ⟨document, hdocument⟩ := h.indexed _ _ known
      exact h.addVersion hdocument
  | fresh unknown next =>
      have hdocument : (memory.addDocument id content).documents.get? id = some content := by
        rw [get?_documents_addDocument, if_pos rfl]
      exact (h.addDocument id content).addVersion hdocument

/-- A document that is put under any id, in place of another one too, keeps all ids documented. -/
theorem Documented.addSchema {memory : Memory} (h : Documented memory) (id : UInt32)
    (content : Json) (coordinate : Coordinate) :
    Documented (memory.addSchema id content coordinate) := by
  have hdocument : (memory.documents.insert id content).get? id = some content := by
    rw [Table.get?_insert, if_pos rfl]
  refine Documented.addVersion (h.putDocument id content fun text own hknown => ?_) hdocument
  split at hknown
  · exact get?_insert_contents hknown
  · exact .inr hknown

end Memory

namespace Change

/-- The registry after a change. -/
def apply : Change → Memory → Memory
  | register call, memory => (call.action.perform memory).2
  | put id content coordinate, memory => memory.addSchema id content coordinate
  | reset, _ => .empty

/-- The registry after changes, made one after the other. -/
def applyAll (changes : List Change) (memory : Memory) : Memory :=
  changes.foldl (fun memory change => change.apply memory) memory

/-- The change puts nothing under a chosen id. -/
def IsChecked : Change → Prop
  | register _ => True
  | put _ _ _ => False
  | reset => True

/-- What each of the changes preserves holds after all of them. -/
theorem applyAll_preserves {P : Memory → Prop} {changes : List Change}
    (h : ∀ change ∈ changes, ∀ memory, P memory → P (change.apply memory)) {memory : Memory}
    (hmemory : P memory) : P (applyAll changes memory) := by
  induction changes generalizing memory with
  | nil => exact hmemory
  | cons change rest ih =>
      obtain ⟨hchange, hrest⟩ := List.forall_mem_cons.1 h
      exact ih hrest (hchange memory hmemory)

/-- Every id that the tables mention has a document, after whatever changes. -/
theorem applyAll_documented (changes : List Change) : (applyAll changes .empty).Documented := by
  refine applyAll_preserves (fun change _ memory h => ?_) Memory.faithful_empty.documented
  cases change with
  | register call => exact call.preserves (fun _ stores h => stores.documented h) h
  | put id content coordinate => exact h.addSchema id content coordinate
  | reset => exact Memory.faithful_empty.documented

/-- The tables hold what was registered when nothing was put under a chosen id. -/
theorem applyAll_faithful {changes : List Change} (h : ∀ change ∈ changes, change.IsChecked) :
    (applyAll changes .empty).Faithful := by
  refine applyAll_preserves (fun change hchange memory hmemory => ?_) Memory.faithful_empty
  cases change with
  | register call =>
      exact call.preserves (fun hcontent stores h => stores.faithful hcontent h) hmemory
  | put id content coordinate => exact (h _ hchange).elim
  | reset => exact Memory.faithful_empty

end Change

end FramedAvro
