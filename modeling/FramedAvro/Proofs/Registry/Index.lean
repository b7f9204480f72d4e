import FramedAvro.Proofs.Registry.Search

/-!
# The index of contents

A registration asks the index whether it knows a content, and the search by content reads the texts
of all versions anew. Both give the same answer, because the index holds exactly the canonical texts
that versions have: a version is added only with content that is in the index or comes into it, and
content comes into it only with a version. This does not depend on the ids, so it holds as well when
a document was put under an id that had another one.

A text without a canonical text is in neither. It may be the text of a version all the same, when a
document is put there that cannot be read back.

## Main definitions

* `Memory.Indexed`: the index holds the canonical texts of the versions.
* `Memory.Knows`: the index holds the content of a text.

## Main results

* `Change.applyAll_indexed`: this holds in every registry.
* `Change.findByContent_iff_known`: what a search by content finds, and what registering would do.
-/

namespace FramedAvro

namespace Memory

/-- A content is in the index when some version has its canonical text, and only then. -/
def Indexed (memory : Memory) : Prop :=
  ∀ canonical, (∃ id, memory.contents.get? canonical = some id) ↔
    ∃ coordinate, ∃ version ∈ memory.versions coordinate,
      canonicalText version.schema = .ok canonical

/-- The registry with nothing in it has an index of nothing. -/
theorem indexed_empty : Indexed .empty := by
  intro canonical
  constructor
  · rintro ⟨id, hid⟩
    rw [empty, Table.get?_empty] at hid
    contradiction
  · rintro ⟨coordinate, version, hversion, -⟩
    rw [versions, empty, Table.get?_empty] at hversion
    contradiction

/-! ### What changes preserve -/

/-- The versions after one more was added have its text or one that a version had before. -/
theorem exists_version_addVersion_iff {memory : Memory} {coordinate : Coordinate} {id : UInt32}
    {schema : String} {P : String → Prop} :
    (∃ other, ∃ version ∈ (memory.addVersion coordinate id schema).versions other,
        P version.schema) ↔
      P schema ∨ ∃ other, ∃ version ∈ memory.versions other, P version.schema := by
  constructor
  · rintro ⟨other, version, hversion, hP⟩
    rcases mem_versions_addVersion hversion with rfl | hold
    · exact .inl hP
    · exact .inr ⟨other, version, hold, hP⟩
  · rintro (hP | ⟨other, version, hversion, hP⟩)
    · exact ⟨coordinate, memory.nextVersion coordinate id schema,
        by rw [versions_addVersion, if_pos rfl]; exact List.mem_concat_self, hP⟩
    · refine ⟨other, version, ?_, hP⟩
      rw [versions_addVersion]
      split
      · next hother => exact List.mem_append_left _ (hother ▸ hversion)
      · exact hversion

/-- A version is added whose content is in the index already or comes into it. -/
theorem Indexed.addVersion {memory stored : Memory} (h : Indexed memory)
    (hartifacts : stored.artifacts = memory.artifacts) {schema : String}
    (hcontents : ∀ canonical, (∃ id, stored.contents.get? canonical = some id) ↔
      canonicalText schema = .ok canonical ∨ ∃ id, memory.contents.get? canonical = some id)
    (coordinate : Coordinate) (id : UInt32) : Indexed (stored.addVersion coordinate id schema) := by
  intro canonical
  have hversions (other : Coordinate) : stored.versions other = memory.versions other := by
    rw [versions, versions, hartifacts]
  rw [contents_addVersion, hcontents, h canonical,
    exists_version_addVersion_iff (P := fun text => canonicalText text = .ok canonical)]
  simp only [hversions]

/-- What is in an index after a content came into it. -/
theorem exists_get?_insert_contents_iff {contents : Table String UInt32} {own canonical : String}
    {id : UInt32} :
    (∃ other, (contents.insert own id).get? canonical = some other) ↔
      own = canonical ∨ ∃ other, contents.get? canonical = some other := by
  rw [Table.get?_insert]
  by_cases hown : canonical = own
  · simp [hown]
  · simp [hown, Ne.symm hown]

/-- A registration enters what it stores into the index. -/
theorem Stores.indexed {memory after : Memory} {coordinate : Coordinate} {schema : String}
    {content : Json} {id : UInt32} (stores : Stores memory coordinate schema content id after)
    (hcontent : schemaJson schema = .ok content) (h : Indexed memory) : Indexed after := by
  have hcanonical := Registration.canonicalText_of_schemaJson hcontent
  cases stores with
  | present known there => exact h
  | linked known missing =>
      refine h.addVersion (by rfl) (fun canonical => ?_) coordinate id
      rw [hcanonical, Except.ok.injEq]
      exact ⟨.inr, fun hown => hown.elim (fun heq => ⟨id, heq ▸ known⟩) fun hold => hold⟩
  | fresh unknown next =>
      refine h.addVersion (by rfl) (fun canonical => ?_) coordinate id
      rw [hcanonical, Except.ok.injEq]
      exact exists_get?_insert_contents_iff

/-- A document that is put under an id brings its content into the index, if its text can be
read. -/
theorem Indexed.addSchema {memory : Memory} (h : Indexed memory) (id : UInt32) (content : Json)
    (coordinate : Coordinate) : Indexed (memory.addSchema id content coordinate) := by
  refine h.addVersion (by rfl) (fun canonical => ?_) coordinate id
  cases hcanonical : canonicalText content.text with
  | error failure => simp
  | ok own =>
      rw [Except.ok.injEq]
      exact exists_get?_insert_contents_iff

/-! ### Two ways to know a content -/

/-- The content of a text is in the index. -/
def Knows (memory : Memory) (schema : String) : Prop :=
  ∃ canonical id, canonicalText schema = .ok canonical ∧ memory.contents.get? canonical = some id

/-- A schema is known if its canonical text has an id. -/
theorem knows_iff {memory : Memory} {schema canonical : String}
    (h : canonicalText schema = .ok canonical) :
    memory.Knows schema ↔ ∃ id, memory.contents.get? canonical = some id := by
  constructor
  · rintro ⟨own, id, hown, hid⟩
    obtain rfl := Except.ok.inj (h.symm.trans hown)
    exact ⟨id, hid⟩
  · rintro ⟨id, hid⟩
    exact ⟨canonical, id, h, hid⟩

/-- What is no schema is not known. -/
theorem not_knows {memory : Memory} {schema : String} {failure : Failure}
    (h : canonicalText schema = .error failure) : ¬memory.Knows schema := by
  rintro ⟨canonical, id, hcanonical, -⟩
  rw [h] at hcanonical
  contradiction

/-- The search by content finds what is in the index. -/
theorem Indexed.findByContent_iff {memory : Memory} (h : Indexed memory) (schema : String) :
    (∃ coordinate, memory.findByContent schema none = .ok (some coordinate)) ↔
      memory.Knows schema := by
  cases hschema : canonicalText schema with
  | error failure =>
      refine iff_of_false ?_ (not_knows hschema)
      rintro ⟨coordinate, hfound⟩
      rw [findByContent, hschema] at hfound
      contradiction
  | ok canonical =>
      obtain ⟨found, hfound, hfinds⟩ := memory.findByContent_finds hschema none
      rw [hfound, knows_iff hschema, h canonical]
      cases hfinds with
      | nowhere hnowhere =>
          refine iff_of_false (by simp) ?_
          rintro ⟨coordinate, version, hversion, hcanonical⟩
          exact hnowhere coordinate rfl ⟨version, hversion, canonical, hcanonical, hschema⟩
      | @least coordinate hleast =>
          refine iff_of_true ⟨coordinate, rfl⟩ ?_
          obtain ⟨version, hversion, own, hown, hcanonical⟩ := hleast.holds
          obtain rfl := Except.ok.inj (hschema.symm.trans hcanonical)
          exact ⟨coordinate, version, hversion, hown⟩

/-- Storing adds no document exactly when the content is in the index. -/
theorem Stores.documents_eq_iff {memory after : Memory} {coordinate : Coordinate} {schema : String}
    {content : Json} {id : UInt32} (stores : Stores memory coordinate schema content id after) :
    after.documents = memory.documents ↔ ∃ own, memory.contents.get? content.text = some own := by
  cases stores with
  | present known there => exact iff_of_true rfl ⟨id, known⟩
  | linked known missing => exact iff_of_true rfl ⟨id, known⟩
  | fresh unknown next =>
      -- The new id had no document before, and has one now.
      refine iff_of_false (fun hsame => ?_) (by simp [unknown])
      have hnew := get?_documents_addDocument memory id id content
      rw [documents_addVersion] at hsame
      rw [hsame, get?_nextId next, if_pos rfl] at hnew
      contradiction

/-- Registering, under whatever coordinate, adds no document exactly when the content is in the
index. -/
theorem register_adds_nothing_iff (memory : Memory) (schema : String) (coordinate : Coordinate)
    (type : ArtifactType) :
    (∃ id after,
      (Memory.registry.register coordinate schema type).perform memory = (.ok id, after) ∧
        after.documents = memory.documents) ↔ memory.Knows schema := by
  cases hcontent : schemaJson schema with
  | error failure =>
      obtain rfl := Registration.eq_notJson hcontent
      have hrefused :=
        @Registration.perform_of_notJson (.register coordinate schema type) hcontent memory
      rw [Registration.action] at hrefused
      exact iff_of_false (by simp [hrefused])
        (not_knows (Registration.canonicalText_of_error hcontent))
  | ok content =>
      have hregister := Registration.perform_register hcontent coordinate type memory
      rw [Registration.action, Action.perform_update] at hregister
      rw [hregister, knows_iff (Registration.canonicalText_of_schemaJson hcontent)]
      cases hstore : memory.store coordinate schema content with
      | error failure => simp [(store_eq_error_iff.1 hstore).1]
      | ok stored =>
          obtain ⟨id, after⟩ := stored
          rw [← (store_eq_ok_iff.1 hstore).documents_eq_iff]
          constructor
          · rintro ⟨own, other, heq, hsame⟩
            obtain ⟨-, rfl⟩ := Prod.mk.inj heq
            exact hsame
          · exact fun hsame => ⟨id, after, rfl, hsame⟩

end Memory

namespace Change

/-- The index holds the canonical texts of the versions, after whatever changes. -/
theorem applyAll_indexed (changes : List Change) : (applyAll changes .empty).Indexed := by
  refine applyAll_preserves (fun change _ memory h => ?_) Memory.indexed_empty
  cases change with
  | register call => exact call.preserves (fun hcontent stores h => stores.indexed hcontent h) h
  | put id content coordinate => exact h.addSchema id content coordinate
  | reset => exact Memory.indexed_empty

/-- After whatever changes, a search finds an artifact exactly when the index holds the content of
the text, and then registering it under any coordinate adds no document. A search for a JSON text
does not fail, and what it finds is the least artifact with a version of this content, in a group
the least one of the group. -/
theorem findByContent_iff_known (changes : List Change) (schema : String) :
    ((∃ coordinate,
        (applyAll changes .empty).findByContent schema none = .ok (some coordinate)) ↔
      (applyAll changes .empty).Knows schema) ∧
    (∀ (coordinate : Coordinate) (type : ArtifactType),
      (∃ id after, (Memory.registry.register coordinate schema type).perform
            (applyAll changes .empty) = (.ok id, after) ∧
          after.documents = (applyAll changes .empty).documents) ↔
        (applyAll changes .empty).Knows schema) ∧
    ∀ canonical, canonicalText schema = .ok canonical → ∀ group, ∃ found,
      (applyAll changes .empty).findByContent schema group = .ok found ∧
        Coordinate.Finds group ((applyAll changes .empty).HasContent schema) found :=
  ⟨(applyAll_indexed changes).findByContent_iff schema,
    Memory.register_adds_nothing_iff _ schema,
    fun _ hcanonical group => Memory.findByContent_finds _ hcanonical group⟩

/-- An int that is registered, replaced under its id by a long, and registered once more in another
spelling and group. -/
def respelledInt : List Change :=
  [.register (.register ⟨"shop", "order"⟩ "\"int\"" .avro),
    .put 1 (.string "long") ⟨"shop", "item"⟩,
    .register (.register ⟨"bank", "sum"⟩ " \"\\u0069nt\" " .avro)]

/-- The int is found under the least of its coordinates, everywhere and within a group, and adds no
document when it is registered again. -/
theorem findByContent_iff_known_respelledInt :
    canonicalText "\"int\"" = .ok "\"int\"" ∧
      (applyAll respelledInt .empty).findByContent "\"int\"" none = .ok (some ⟨"bank", "sum"⟩) ∧
      (∃ id after, (Memory.registry.register ⟨"post", "box"⟩ "\"int\"" .avro).perform
            (applyAll respelledInt .empty) = (.ok id, after) ∧
          after.documents = (applyAll respelledInt .empty).documents) ∧
      Coordinate.Finds (some "shop") ((applyAll respelledInt .empty).HasContent "\"int\"")
        (some ⟨"shop", "order"⟩) := by
  have hcanonical : canonicalText "\"int\"" = .ok "\"int\"" := by cbv
  have hfirst : (applyAll respelledInt .empty).findByContent "\"int\"" none =
      .ok (some ⟨"bank", "sum"⟩) := by decide +kernel
  have hshop : (applyAll respelledInt .empty).findByContent "\"int\"" (some "shop") =
      .ok (some ⟨"shop", "order"⟩) := by decide +kernel
  obtain ⟨hknown, hregisters, hfinds⟩ := findByContent_iff_known respelledInt "\"int\""
  obtain ⟨found, hfound, hleast⟩ := hfinds _ hcanonical (some "shop")
  obtain rfl := Except.ok.inj (hshop.symm.trans hfound)
  exact ⟨hcanonical, hfirst, (hregisters _ _).2 (hknown.1 ⟨_, hfirst⟩), hleast⟩

end Change

end FramedAvro
