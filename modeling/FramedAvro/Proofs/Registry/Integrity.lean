import FramedAvro.Proofs.Registry.Search

/-!
# Integrity of the tables

Whatever is registered, put under a chosen id or dropped, the tables of a registry in memory keep
belonging together: an artifact has a version, and every id that the tables mention has a document.
So an artifact is there for one question exactly when it is there for the others, and the latest
version of an artifact is never one without a document.

A registration takes an id that no document has, so a document changes only by being replaced under
its own id or by being dropped with all others.

## Main definitions

* `Memory.Intact`: the tables belong together.
* `Change.Spares`: a change that does not name an id.

## Main results

* `Change.applyAll_integrity`: what holds in every registry, and for how long a document stays.
-/

namespace FramedAvro

namespace Memory

/-- Every artifact has a version, and every id that is mentioned has a document. -/
structure Intact (memory : Memory) : Prop where
  inhabited : ∀ coordinate versions, memory.artifacts.get? coordinate = some versions →
    versions ≠ []
  documented : Documented memory

/-- The registry with nothing in it is intact. -/
theorem intact_empty : Intact .empty where
  inhabited coordinate versions h := by simp [Memory.empty] at h
  documented := faithful_empty.documented

/-- A further version leaves no artifact without one, whatever is done to the other tables. -/
theorem Intact.ne_nil_addVersion {memory stored : Memory} (h : Intact memory)
    (hartifacts : stored.artifacts = memory.artifacts) {coordinate other : Coordinate} {id : UInt32}
    {schema : String} {versions : List Version}
    (hversions : (stored.addVersion coordinate id schema).artifacts.get? other = some versions) :
    versions ≠ [] := by
  rw [get?_artifacts_addVersion] at hversions
  split at hversions
  · obtain rfl := Option.some.inj hversions
    exact List.append_ne_nil_of_right_ne_nil _ (List.cons_ne_nil _ _)
  · rw [hartifacts] at hversions
    exact h.inhabited other versions hversions

/-- A registration keeps a registry intact. -/
theorem Stores.intact {memory after : Memory} {coordinate : Coordinate} {schema : String}
    {content : Json} {id : UInt32} (stores : Stores memory coordinate schema content id after)
    (h : Intact memory) : Intact after where
  inhabited other versions hversions := by
    cases stores with
    | present known there => exact h.inhabited other versions hversions
    | linked known missing => exact h.ne_nil_addVersion rfl hversions
    | fresh unknown next => exact h.ne_nil_addVersion (by rfl) hversions
  documented := stores.documented h.documented

/-- Putting a document under an id, which may be taken, keeps the tables together. -/
theorem Intact.addSchema {memory : Memory} (h : Intact memory) (id : UInt32) (content : Json)
    (coordinate : Coordinate) : Intact (memory.addSchema id content coordinate) where
  inhabited other versions hversions := by
    rw [Memory.addSchema] at hversions
    exact h.ne_nil_addVersion (by rfl) hversions
  documented := h.documented.addSchema id content coordinate

/-! ### What there is -/

/-- The latest version of an artifact is answered with its document, and there is no other way to
fail than to have no version. -/
theorem Documented.fetchLatest_cases {memory : Memory} (h : Documented memory)
    (coordinate : Coordinate) :
    memory.versions coordinate = [] ∧
      memory.fetchLatest coordinate = .error (unknownCoordinate coordinate) ∨
    memory.versions coordinate ≠ [] ∧
      ∃ answer, memory.fetchLatest coordinate = .ok answer := by
  by_cases hversions : memory.versions coordinate = []
  · refine .inl ⟨hversions, ?_⟩
    rw [fetchLatest, hversions]
    rfl
  · exact .inr ⟨hversions, h.exists_fetchLatest hversions⟩

/-- An artifact exists if it has a version. -/
theorem checkExists_iff {memory : Memory} {coordinate : Coordinate} :
    memory.checkExists coordinate = true ↔ memory.versions coordinate ≠ [] := by
  simp [checkExists]

/-- A search for any name finds the artifacts with a version. -/
theorem mem_search_none_iff {memory : Memory} {coordinate : Coordinate} :
    coordinate ∈ memory.search none ↔ memory.versions coordinate ≠ [] := by
  simp [search, mem_coordinates_iff, Coordinate.inGroup]

end Memory

namespace Change

/-- The change neither puts a document under the id nor drops everything. -/
def Spares (id : UInt32) : Change → Prop
  | register _ => True
  | put own _ _ => own ≠ id
  | reset => False

/-- The tables belong together, after whatever changes. -/
theorem applyAll_intact (changes : List Change) : (applyAll changes .empty).Intact := by
  refine applyAll_preserves (fun change _ memory h => ?_) Memory.intact_empty
  cases change with
  | register call => exact call.preserves (fun _ stores h => stores.intact h) h
  | put id content coordinate => exact h.addSchema id content coordinate
  | reset => exact Memory.intact_empty

/-- A document stays as it is while all changes spare its id. -/
theorem applyAll_fetchById {changes : List Change} {id : UInt32}
    (h : ∀ change ∈ changes, change.Spares id) {memory : Memory} {document : Document}
    (hdocument : memory.fetchById id = .ok document) :
    (applyAll changes memory).fetchById id = .ok document := by
  refine applyAll_preserves (P := fun memory => memory.fetchById id = .ok document)
    (fun change hchange memory hmemory => ?_) hdocument
  cases change with
  | register call => exact (call.grows memory).fetchById hmemory
  | put own content coordinate =>
      have hother : id ≠ own := Ne.symm (h _ hchange)
      have hsame : (memory.addSchema own content coordinate).documents.get? id =
          memory.documents.get? id := by
        rw [Memory.addSchema, Memory.documents_addVersion, Table.get?_insert, if_neg hother]
      rw [apply, Memory.fetchById, hsame]
      exact hmemory
  | reset => exact (h _ hchange).elim

/-- After whatever changes, the tables belong together. So the three questions whether there is an
artifact have one answer, the latest version of an artifact has the document of its id, and nothing
else can go wrong than that there is no version. A document that is fetched by its id stays the same
until another one is put under this id or all are dropped. -/
theorem applyAll_integrity (changes : List Change) :
    (applyAll changes .empty).Intact ∧
      (∀ coordinate,
        ((∃ answer, (applyAll changes .empty).fetchLatest coordinate = .ok answer) ↔
          (applyAll changes .empty).checkExists coordinate = true) ∧
        ((applyAll changes .empty).checkExists coordinate = true ↔
          coordinate ∈ (applyAll changes .empty).search none) ∧
        (∀ id document, (applyAll changes .empty).fetchLatest coordinate = .ok (id, document) →
          (applyAll changes .empty).fetchById id = .ok document) ∧
        ∀ failure, (applyAll changes .empty).fetchLatest coordinate = .error failure →
          failure = Memory.unknownCoordinate coordinate) ∧
      ∀ id document, (applyAll changes .empty).fetchById id = .ok document →
        ∀ more : List Change, (∀ change ∈ more, change.Spares id) →
          (applyAll more (applyAll changes .empty)).fetchById id = .ok document := by
  have hintact := applyAll_intact changes
  refine ⟨hintact, fun coordinate => ?_, fun id document hdocument more hmore =>
    applyAll_fetchById hmore hdocument⟩
  generalize applyAll changes .empty = memory at hintact ⊢
  rw [Memory.checkExists_iff, Memory.mem_search_none_iff]
  refine ⟨?_, Iff.rfl, fun id document hlatest => ?_, fun failure hfailure => ?_⟩
  · rcases hintact.documented.fetchLatest_cases coordinate with ⟨hnone, hlatest⟩ | ⟨hsome, hlatest⟩
    · simp [hnone, hlatest]
    · exact iff_of_true hlatest hsome
  · obtain ⟨latest, -, -, hid⟩ := Memory.fetchById_of_fetchLatest hlatest
    exact hid
  · rcases hintact.documented.fetchLatest_cases coordinate with ⟨-, hlatest⟩ | ⟨-, answer, hlatest⟩
    · exact Except.error.inj (hfailure.symm.trans hlatest)
    · rw [hlatest] at hfailure
      contradiction

/-- An int that is registered, replaced under its id, and registered once more. -/
def replacedInt : List Change :=
  [.register (.register ⟨"shop", "order"⟩ "\"int\"" .avro),
    .put 1 (.string "long") ⟨"shop", "item"⟩,
    .register (.registerVersion ⟨"shop", "item"⟩ "\"int\"")]

/-- A document under another id, and a registration. -/
def floatThenDouble : List Change :=
  [.put 7 (.string "float") ⟨"shop", "item"⟩,
    .register (.register ⟨"shop", "order"⟩ "\"double\"" .avro)]

/-- A document that was put in the place of another one: its id has it from then on, whatever is put
under other ids. -/
theorem applyAll_integrity_replacedInt :
    (applyAll replacedInt .empty).fetchLatest ⟨"shop", "order"⟩ =
        .ok (1, .bare (.string "long")) ∧
      (∀ change ∈ floatThenDouble, change.Spares 1) ∧
      (applyAll floatThenDouble (applyAll replacedInt .empty)).fetchById 1 =
        .ok (.bare (.string "long")) := by
  obtain ⟨-, hartifacts, hstays⟩ := applyAll_integrity replacedInt
  have hlatest : (applyAll replacedInt .empty).fetchLatest ⟨"shop", "order"⟩ =
      .ok (1, .bare (.string "long")) := by cbv
  have hdocument := (hartifacts ⟨"shop", "order"⟩).2.2.1 _ _ hlatest
  have hspares : ∀ change ∈ floatThenDouble, change.Spares 1 := by simp [floatThenDouble, Spares]
  exact ⟨hlatest, hspares, hstays _ _ hdocument _ hspares⟩

end Change

end FramedAvro
