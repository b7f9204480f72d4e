import FramedAvro.Proofs.Action
import FramedAvro.Proofs.Table
import FramedAvro.Registry.Memory

/-!
# Registering

What a registration does to the tables of a registry in memory. Content that is known keeps its id
and at most becomes one more version; content that is new takes an id that no document has. So a
document, once it is stored, is never touched by a registration again.

## Main results

* `Memory.store_eq_ok_iff`: the three ways in which content is stored.
* `Registration.perform_cases`: what one call does, its failures included.
* `Memory.Grows`, `Registration.performAll_grows`: documents stay as they are.
-/

namespace FramedAvro

namespace Memory

/-! ### The next id -/

/-- The next id is past all ids that documents have. -/
theorem lt_nextId {memory : Memory} {id other : UInt32} (h : memory.nextId = .ok id)
    {document : Json} (hother : memory.documents.get? other = some document) : other < id := by
  obtain ⟨greatest, hgreatest, hle⟩ := Table.exists_greatest_of_get? hother
  rw [nextId, hgreatest] at h
  simp only at h
  split at h
  · contradiction
  · next hlast =>
      have hid := Except.ok.inj h
      have hlt : other ≤ greatest := by
        rcases hle with rfl | hlt
        · exact UInt32.le_refl _
        · exact UInt32.le_of_lt (Std.compare_eq_lt.1 hlt)
      have hne : greatest.toNat ≠ 4294967295 := fun heq => hlast (UInt32.toNat_inj.1 heq)
      have := greatest.toNat_lt
      rw [UInt32.lt_iff_toNat_lt, ← hid, UInt32.toNat_add, UInt32.toNat_one]
      rw [UInt32.le_iff_toNat_le] at hlt
      omega

/-- The next id has no document. -/
theorem get?_nextId {memory : Memory} {id : UInt32} (h : memory.nextId = .ok id) :
    memory.documents.get? id = none := by
  cases hid : memory.documents.get? id with
  | none => rfl
  | some document => exact absurd (lt_nextId h hid) (UInt32.lt_irrefl id)

/-! ### Parts of a step -/

/-- The registry with one more document, known by its content. -/
def addDocument (memory : Memory) (id : UInt32) (content : Json) : Memory :=
  { memory with
    documents := memory.documents.insert id content
    contents := memory.contents.insert content.text id }

/-- One more version changes no documents. -/
@[simp] theorem documents_addVersion (memory : Memory) (coordinate : Coordinate) (id : UInt32)
    (schema : String) : (memory.addVersion coordinate id schema).documents = memory.documents := rfl

/-- One more version changes no ids of contents. -/
@[simp] theorem contents_addVersion (memory : Memory) (coordinate : Coordinate) (id : UInt32)
    (schema : String) : (memory.addVersion coordinate id schema).contents = memory.contents := rfl

/-- One more document is found under its id, and the others under theirs. -/
theorem get?_documents_addDocument (memory : Memory) (id other : UInt32) (content : Json) :
    (memory.addDocument id content).documents.get? other =
      if other = id then some content else memory.documents.get? other :=
  Table.get?_insert _ _ _ _

/-- The content of one more document has its id, and the others have theirs. -/
theorem get?_contents_addDocument (memory : Memory) (id : UInt32) (content : Json)
    (text : String) :
    (memory.addDocument id content).contents.get? text =
      if text = content.text then some id else memory.contents.get? text :=
  Table.get?_insert _ _ _ _

/-- The version that is added to an artifact. -/
def nextVersion (memory : Memory) (coordinate : Coordinate) (id : UInt32) (schema : String) :
    Version :=
  ⟨UInt32.ofNat (memory.versions coordinate).length + 1, id, schema⟩

/-- One more version comes after the others of its artifact, and other artifacts stay as they are.
-/
theorem get?_artifacts_addVersion (memory : Memory) (coordinate other : Coordinate) (id : UInt32)
    (schema : String) :
    (memory.addVersion coordinate id schema).artifacts.get? other =
      if other = coordinate then
        some (memory.versions coordinate ++ [memory.nextVersion coordinate id schema])
      else memory.artifacts.get? other :=
  Table.get?_insert _ _ _ _

/-- The versions of an artifact after one more version, of it or of another one. -/
theorem versions_addVersion (memory : Memory) (coordinate other : Coordinate) (id : UInt32)
    (schema : String) :
    (memory.addVersion coordinate id schema).versions other =
      if other = coordinate then
        memory.versions coordinate ++ [memory.nextVersion coordinate id schema]
      else memory.versions other := by
  rw [versions, get?_artifacts_addVersion]
  split <;> rfl

/-- A version after one more was added is that one, or was there before. -/
theorem mem_versions_addVersion {memory : Memory} {coordinate other : Coordinate} {id : UInt32}
    {schema : String} {version : Version}
    (h : version ∈ (memory.addVersion coordinate id schema).versions other) :
    version = memory.nextVersion coordinate id schema ∨ version ∈ memory.versions other := by
  rw [versions_addVersion] at h
  split at h
  · next hother =>
      rw [hother]
      exact (List.mem_append.1 h).symm.imp_left List.mem_singleton.1
  · exact .inr h

/-! ### Storing content -/

/-- The ways in which content is stored under a coordinate: it is there already, it is known and
becomes a version, or it is new. -/
inductive Stores (memory : Memory) (coordinate : Coordinate) (schema : String) (content : Json) :
    UInt32 → Memory → Prop
  | present {id : UInt32} (known : memory.contents.get? content.text = some id)
      (there : ∃ version ∈ memory.versions coordinate, version.id = id) :
      Stores memory coordinate schema content id memory
  | linked {id : UInt32} (known : memory.contents.get? content.text = some id)
      (missing : ∀ version ∈ memory.versions coordinate, version.id ≠ id) :
      Stores memory coordinate schema content id (memory.addVersion coordinate id schema)
  | fresh {id : UInt32} (unknown : memory.contents.get? content.text = none)
      (next : memory.nextId = .ok id) :
      Stores memory coordinate schema content id
        ((memory.addDocument id content).addVersion coordinate id schema)

/-- Storing succeeds in exactly the three ways. -/
theorem store_eq_ok_iff {memory after : Memory} {coordinate : Coordinate} {schema : String}
    {content : Json} {id : UInt32} :
    memory.store coordinate schema content = .ok (id, after) ↔
      Stores memory coordinate schema content id after := by
  constructor
  · intro h
    rw [store] at h
    split at h
    · next known =>
        split at h
        · next hany =>
            obtain ⟨rfl, rfl⟩ := Prod.mk.inj (Except.ok.inj h)
            exact .present known (by simpa using hany)
        · next hany =>
            obtain ⟨rfl, rfl⟩ := Prod.mk.inj (Except.ok.inj h)
            exact .linked known (by simpa using hany)
    · next unknown =>
        cases hnext : memory.nextId with
        | error failure =>
            rw [hnext] at h
            contradiction
        | ok own =>
            rw [hnext] at h
            obtain ⟨rfl, rfl⟩ := Prod.mk.inj (Except.ok.inj h)
            exact .fresh unknown hnext
  · intro h
    cases h with
    | present known there =>
        have hany : (memory.versions coordinate).any (·.id == id) = true := by simpa using there
        simp [store, known, hany]
    | linked known missing =>
        have hany : (memory.versions coordinate).any (·.id == id) = false := by simpa using missing
        simp [store, known, hany]
    | fresh unknown next =>
        simp only [store, unknown, next]
        rfl

/-- Storing fails only when new content gets no id. -/
theorem store_eq_error_iff {memory : Memory} {coordinate : Coordinate} {schema : String}
    {content : Json} {failure : Failure} :
    memory.store coordinate schema content = .error failure ↔
      memory.contents.get? content.text = none ∧ memory.nextId = .error failure := by
  cases hknown : memory.contents.get? content.text with
  | some id =>
      by_cases hany : (memory.versions coordinate).any (·.id == id) = true <;>
        simp [store, hknown, hany]
  | none =>
      cases hnext : memory.nextId with
      | error own =>
          have hstore : memory.store coordinate schema content = .error own := by
            simp only [store, hknown, hnext]
            rfl
          rw [hstore, Except.error.injEq, Except.error.injEq]
          simp
      | ok id =>
          have hstores : Stores memory coordinate schema content id _ := .fresh hknown hnext
          simp [store_eq_ok_iff.2 hstores]

/-- When there is no next id, that is why. -/
theorem eq_noIdLeft {memory : Memory} {failure : Failure} (h : memory.nextId = .error failure) :
    failure = noIdLeft := by
  rw [nextId] at h
  split at h
  · contradiction
  · split at h
    · exact (Except.error.inj h).symm
    · contradiction

/-- There is no next id exactly when the greatest id has a document. -/
theorem nextId_eq_error_iff {memory : Memory} :
    memory.nextId = .error noIdLeft ↔ ∃ document, memory.documents.get? lastId = some document := by
  constructor
  · intro h
    rw [nextId] at h
    split at h
    · contradiction
    · next id hgreatest =>
        split at h
        · next hlast => exact hlast ▸ Table.exists_get?_greatest hgreatest
        · contradiction
  · rintro ⟨document, hdocument⟩
    obtain ⟨greatest, hgreatest, hle⟩ := Table.exists_greatest_of_get? hdocument
    have hlast : greatest = lastId := by
      rcases hle with heq | hlt
      · exact heq.symm
      · have hpast : lastId < greatest := Std.compare_eq_lt.1 hlt
        have hbound := greatest.toNat_lt
        have hvalue : lastId.toNat = 4294967295 := rfl
        rw [UInt32.lt_iff_toNat_lt] at hpast
        omega
    rw [nextId, hgreatest]
    exact if_pos hlast

/-! ### Documents stay -/

/-- Every document of the one registry is in the other, under the same id. -/
def Grows (memory after : Memory) : Prop :=
  ∀ id document, memory.documents.get? id = some document →
    after.documents.get? id = some document

/-- A registry that stays as it is has lost nothing. -/
theorem Grows.refl (memory : Memory) : Grows memory memory :=
  fun _ _ h => h

/-- What is not lost in either of two steps is not lost in both. -/
theorem Grows.trans {memory middle after : Memory} (h : Grows memory middle)
    (h' : Grows middle after) : Grows memory after :=
  fun id document hid => h' id document (h id document hid)

/-- A document under an id that has none leaves the others alone. -/
theorem grows_addDocument {memory : Memory} {id : UInt32} (content : Json)
    (h : memory.documents.get? id = none) : Grows memory (memory.addDocument id content) := by
  intro other document hother
  have hne : other ≠ id := by
    rintro rfl
    rw [h] at hother
    contradiction
  rw [get?_documents_addDocument, if_neg hne]
  exact hother

/-- A document that is put under an id without one leaves the others alone. -/
theorem grows_addSchema {memory : Memory} {id : UInt32} (content : Json) (coordinate : Coordinate)
    (h : memory.documents.get? id = none) :
    Grows memory (memory.addSchema id content coordinate) :=
  grows_addDocument content h

/-- A registration that stores something loses nothing. -/
theorem Stores.grows {memory after : Memory} {coordinate : Coordinate} {schema : String}
    {content : Json} {id : UInt32} (h : Stores memory coordinate schema content id after) :
    Grows memory after := by
  cases h with
  | present known there => exact Grows.refl memory
  | linked known missing => exact Grows.refl memory
  | fresh unknown next => exact grows_addDocument content (get?_nextId next)

/-- Stored content is known by its id. -/
theorem Stores.get?_contents {memory after : Memory} {coordinate : Coordinate} {schema : String}
    {content : Json} {id : UInt32} (h : Stores memory coordinate schema content id after) :
    after.contents.get? content.text = some id := by
  cases h with
  | present known there => exact known
  | linked known missing => exact known
  | fresh unknown next =>
      rw [contents_addVersion, get?_contents_addDocument, if_pos rfl]

/-- Content that is known keeps its id. -/
theorem Stores.contents_kept {memory after : Memory} {coordinate : Coordinate} {schema : String}
    {content : Json} {id : UInt32} (h : Stores memory coordinate schema content id after)
    {text : String} {own : UInt32} (hown : memory.contents.get? text = some own) :
    after.contents.get? text = some own := by
  cases h with
  | present known there => exact hown
  | linked known missing => exact hown
  | fresh unknown next =>
      have hne : text ≠ content.text := by
        rintro rfl
        rw [unknown] at hown
        contradiction
      rw [contents_addVersion, get?_contents_addDocument, if_neg hne]
      exact hown

/-- What is fetched by id is the same in a registry that has grown. -/
theorem Grows.fetchById {memory after : Memory} (h : Grows memory after) {id : UInt32}
    {document : Document} (hid : memory.fetchById id = .ok document) :
    after.fetchById id = .ok document := by
  rw [Memory.fetchById] at hid ⊢
  cases hdocument : memory.documents.get? id with
  | none =>
      rw [hdocument] at hid
      contradiction
  | some content =>
      rw [hdocument] at hid
      rw [h id content hdocument]
      exact hid

end Memory

/-! ### Calls -/

/-- A call that registers a schema: under any coordinate, or as a version of an artifact. -/
inductive Registration where
  | register (coordinate : Coordinate) (schema : String) (type : ArtifactType)
  | registerVersion (coordinate : Coordinate) (schema : String)

namespace Registration

/-- The coordinate a call names. -/
def coordinate : Registration → Coordinate
  | register coordinate _ _ => coordinate
  | registerVersion coordinate _ => coordinate

/-- The text a call registers. -/
def schema : Registration → String
  | register _ schema _ => schema
  | registerVersion _ schema => schema

/-- Whether a call makes the artifact when there is none. -/
def makesArtifact : Registration → Bool
  | register _ _ _ => true
  | registerVersion _ _ => false

/-- What a call asks of a registry in memory. -/
def action : Registration → Action Memory UInt32
  | register coordinate schema type => Memory.registry.register coordinate schema type
  | registerVersion coordinate schema =>
    .update fun memory => memory.registerVersion coordinate schema

/-- What one call does: it is refused and leaves the registry alone, or its content is stored. -/
inductive Performs (call : Registration) (memory : Memory) : Outcome UInt32 → Memory → Prop
  | notJson (h : schemaJson call.schema = .error (notJson call.schema)) :
      Performs call memory (.error (.failed (notJson call.schema))) memory
  | noArtifact {content : Json} (h : schemaJson call.schema = .ok content)
      (version : call.makesArtifact = false)
      (missing : memory.artifacts.contains call.coordinate = false) :
      Performs call memory (.error (.failed (Memory.noArtifact call.coordinate))) memory
  | noIdLeft {content : Json} (h : schemaJson call.schema = .ok content)
      (unknown : memory.contents.get? content.text = none)
      (full : memory.nextId = .error Memory.noIdLeft) :
      Performs call memory (.error (.failed Memory.noIdLeft)) memory
  | stored {content : Json} {id : UInt32} {after : Memory}
      (h : schemaJson call.schema = .ok content)
      (reached : call.makesArtifact = true ∨ memory.artifacts.contains call.coordinate = true)
      (stores : Memory.Stores memory call.coordinate call.schema content id after) :
      Performs call memory (.ok id) after

/-- A text that has no JSON value is refused as such. -/
theorem eq_notJson {schema : String} {failure : Failure}
    (h : schemaJson schema = .error failure) : failure = notJson schema := by
  rw [schemaJson] at h
  split at h
  · contradiction
  · exact (Except.error.inj h).symm

/-- The canonical text of a schema that is read is the text of its value. -/
theorem canonicalText_of_schemaJson {schema : String} {content : Json}
    (h : schemaJson schema = .ok content) : canonicalText schema = .ok content.text := by
  rw [canonicalText, h]
  rfl

/-- A schema that is not read has no canonical text, for the same reason. -/
theorem canonicalText_of_error {schema : String} {failure : Failure}
    (h : schemaJson schema = .error failure) : canonicalText schema = .error failure := by
  rw [canonicalText, h]
  rfl

/-- A text with a canonical text has a JSON value, of which this is the text. -/
theorem exists_schemaJson_of_canonicalText {schema canonical : String}
    (h : canonicalText schema = .ok canonical) :
    ∃ content, schemaJson schema = .ok content ∧ content.text = canonical := by
  cases hcontent : schemaJson schema with
  | error failure =>
      rw [canonicalText_of_error hcontent] at h
      contradiction
  | ok content =>
      rw [canonicalText_of_schemaJson hcontent] at h
      exact ⟨content, rfl, Except.ok.inj h⟩

/-- Storing the content of a call, whatever comes of it. -/
theorem performs_store {call : Registration} {memory : Memory} {content : Json}
    (hcontent : schemaJson call.schema = .ok content)
    (reached : call.makesArtifact = true ∨ memory.artifacts.contains call.coordinate = true) :
    call.Performs memory
      ((Action.update fun memory =>
        memory.store call.coordinate call.schema content).perform memory).1
      ((Action.update fun memory =>
        memory.store call.coordinate call.schema content).perform memory).2 := by
  rw [Action.perform_update]
  cases hstore : memory.store call.coordinate call.schema content with
  | ok stored => exact .stored hcontent reached (Memory.store_eq_ok_iff.1 hstore)
  | error failure =>
      obtain ⟨unknown, full⟩ := Memory.store_eq_error_iff.1 hstore
      obtain rfl := Memory.eq_noIdLeft full
      exact .noIdLeft hcontent unknown full

/-- A text that has no JSON value leaves the registry alone. -/
theorem perform_of_notJson {call : Registration} (h : schemaJson call.schema =
    .error (notJson call.schema)) (memory : Memory) :
    call.action.perform memory = (.error (.failed (notJson call.schema)), memory) := by
  cases call <;>
    simp only [action, Memory.registry, Action.perform_update, Memory.register,
      Memory.registerVersion, schema] at h ⊢ <;>
    rw [h] <;> rfl

/-- Registering under a coordinate stores the content there. -/
theorem perform_register {schema : String} {content : Json} (h : schemaJson schema = .ok content)
    (coordinate : Coordinate) (type : ArtifactType) (memory : Memory) :
    (register coordinate schema type).action.perform memory =
      (Action.update fun memory => memory.store coordinate schema content).perform memory := by
  simp only [action, Memory.registry, Action.perform_update, Memory.register]
  rw [h]
  rfl

/-- A version of an artifact that exists is stored there, and any other is refused. -/
theorem perform_registerVersion {schema : String} {content : Json}
    (h : schemaJson schema = .ok content) (coordinate : Coordinate) (memory : Memory) :
    (registerVersion coordinate schema).action.perform memory =
      if memory.artifacts.contains coordinate then
        (Action.update fun memory => memory.store coordinate schema content).perform memory
      else (.error (.failed (Memory.noArtifact coordinate)), memory) := by
  simp only [action, Action.perform_update, Memory.registerVersion]
  rw [h]
  cases hthere : memory.artifacts.contains coordinate <;> simp [bind, Except.bind]

/-- A call does one of the things that a call can do. -/
theorem performs (call : Registration) (memory : Memory) :
    call.Performs memory (call.action.perform memory).1 (call.action.perform memory).2 := by
  cases hcontent : schemaJson call.schema with
  | error failure =>
      obtain rfl := eq_notJson hcontent
      rw [perform_of_notJson hcontent]
      exact .notJson hcontent
  | ok content =>
      cases call with
      | register coordinate schema type =>
          have hschema : schemaJson schema = .ok content := hcontent
          rw [perform_register hschema]
          exact performs_store hcontent (.inl rfl)
      | registerVersion coordinate schema =>
          have hschema : schemaJson schema = .ok content := hcontent
          rw [perform_registerVersion hschema]
          cases hthere : memory.artifacts.contains coordinate with
          | true => exact performs_store hcontent (.inr hthere)
          | false => exact .noArtifact hcontent rfl hthere

/-- What holds of a registry holds after a call when storing content preserves it. -/
theorem preserves {P : Memory → Prop} (call : Registration)
    (h : ∀ {memory after : Memory} {coordinate : Coordinate} {schema : String} {content : Json}
      {id : UInt32}, schemaJson schema = .ok content →
      Memory.Stores memory coordinate schema content id after → P memory → P after)
    {memory : Memory} (hmemory : P memory) : P (call.action.perform memory).2 := by
  have hperforms := call.performs memory
  generalize (call.action.perform memory).1 = answer at hperforms
  generalize (call.action.perform memory).2 = after at hperforms ⊢
  cases hperforms with
  | notJson _ => exact hmemory
  | noArtifact _ version missing => exact hmemory
  | noIdLeft _ unknown full => exact hmemory
  | stored hcontent reached stores => exact h hcontent stores hmemory

/-- A call leaves all documents as they are, whether it fails or not. -/
theorem grows (call : Registration) (memory : Memory) :
    Memory.Grows memory (call.action.perform memory).2 :=
  call.preserves (fun _ stores h => h.trans stores.grows) (Memory.Grows.refl memory)

/-! ### Runs -/

/-- The calls with their answers, made one after the other, and the registry after them. -/
def performAll : List Registration → Memory → List (Registration × Outcome UInt32) × Memory
  | [], memory => ([], memory)
  | call :: rest, memory =>
    let (answer, next) := call.action.perform memory
    let (history, last) := performAll rest next
    ((call, answer) :: history, last)

/-- The first call of a run is performed before the rest. -/
theorem performAll_cons (call : Registration) (rest : List Registration) (memory : Memory) :
    performAll (call :: rest) memory =
      ((call, (call.action.perform memory).1) ::
          (performAll rest (call.action.perform memory).2).1,
        (performAll rest (call.action.perform memory).2).2) := rfl

/-- What holds of a registry holds after every run when storing content preserves it. -/
theorem performAll_preserves {P : Memory → Prop} (calls : List Registration)
    (h : ∀ {memory after : Memory} {coordinate : Coordinate} {schema : String} {content : Json}
      {id : UInt32}, schemaJson schema = .ok content →
      Memory.Stores memory coordinate schema content id after → P memory → P after)
    {memory : Memory} (hmemory : P memory) : P (performAll calls memory).2 := by
  induction calls generalizing memory with
  | nil => exact hmemory
  | cons call rest ih => exact ih (call.preserves h hmemory)

/-- Documents stay as they are in every run. -/
theorem performAll_grows (calls : List Registration) (memory : Memory) :
    Memory.Grows memory (performAll calls memory).2 :=
  performAll_preserves calls (fun _ stores h => h.trans stores.grows) (Memory.Grows.refl memory)

/-- Content that is known keeps its id in every run. -/
theorem performAll_contents_kept (calls : List Registration) {memory : Memory} {text : String}
    {id : UInt32} (h : memory.contents.get? text = some id) :
    (performAll calls memory).2.contents.get? text = some id :=
  performAll_preserves (P := fun memory => memory.contents.get? text = some id) calls
    (fun _ stores h => stores.contents_kept h) h

end Registration

end FramedAvro
