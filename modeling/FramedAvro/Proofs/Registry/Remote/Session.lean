import FramedAvro.Proofs.Registry.Remote.Cache

/-!
# Sessions with a remote registry

A run with one remote registry, in which anything may be asked, in any order, and all documents that
are kept may be cleared. The transport may answer anything. What is kept is known from what went
over it since all was cleared.

## Main definitions

* `Remote.Operation`: what a remote registry can be asked for.
* `Session`, `Session.applyAll`: a run.
* `Session.Keeps`: what is known of the documents that are kept.

## Main results

* `Remote.Operation.records`: an operation changes the documents by its exchanges.
* `Session.keeps_applyAll`: what is kept, in every run.
-/

namespace FramedAvro

variable {τ α : Type}

namespace Remote

/-- What a remote registry can be asked for, with the type of the answers. -/
inductive Operation : Type → Type
  | fetchById (id : UInt32) : Operation Document
  | fetchLatest (coordinate : Coordinate) : Operation (UInt32 × Document)
  | findByContent (schema : String) (group : Option String) : Operation (Option Coordinate)
  | findByFingerprint (schema : String) (group : Option String) : Operation (Option Coordinate)
  | register (coordinate : Coordinate) (schema : String) (type : ArtifactType) : Operation UInt32
  | registerVersion (coordinate : Coordinate) (schema : String) : Operation UInt32
  | search (name : Option String) (type : ArtifactType) : Operation (List Coordinate)
  | checkExists (coordinate : Coordinate) : Operation Bool

namespace Operation

/-- What an operation does over a transport. -/
def action (transport : Http.Transport τ) (settings : RemoteSettings) :
    Operation α → Action (Remote τ) α
  | fetchById id => Remote.fetchById transport settings id
  | fetchLatest coordinate => Remote.fetchLatest transport settings coordinate
  | findByContent schema group => Remote.findByContent transport settings schema group
  | findByFingerprint schema group => Remote.findByFingerprint transport settings schema group
  | register coordinate schema type => Remote.register transport settings coordinate schema type
  | registerVersion coordinate schema =>
    Remote.registerVersion transport settings coordinate schema
  | search name type => Remote.search transport settings name type
  | checkExists coordinate => Remote.checkExists transport settings coordinate

/-- What an operation exchanges over a transport. -/
def exchanges (transport : Http.Transport τ) (settings : RemoteSettings)
    (operation : Operation α) (remote : Remote τ) : List Exchange :=
  ((operation.action transport.logged settings).perform
    ⟨remote.documents, ⟨remote.transport, []⟩⟩).2.transport.log

/-- Nothing is sent for an id that has a document. -/
theorem exchanges_fetchById_of_kept {transport : Http.Transport τ} {settings : RemoteSettings}
    {id : UInt32} {remote : Remote τ} {document : Document}
    (h : remote.documents.get? id = some document) :
    (fetchById id).exchanges transport settings remote = [] := by
  have hlogged : (Remote.fetchById transport.logged settings id).perform
      ⟨remote.documents, ⟨remote.transport, []⟩⟩ =
        (.ok document, ⟨remote.documents, ⟨remote.transport, []⟩⟩) :=
    perform_fetchById_of_kept h
  rw [exchanges, action, hlogged]

/-- An operation changes the documents by its exchanges, whatever they are. -/
theorem tracks (transport : Http.Transport τ) (settings : RemoteSettings)
    (operation : Operation α) :
    Tracks settings (operation.action transport.logged settings)
      (operation.action transport settings) := by
  cases operation with
  | fetchById id => exact Tracks.fetchById transport id
  | fetchLatest coordinate => exact Tracks.fetchLatest transport coordinate
  | findByContent schema group => exact Tracks.findByContent transport schema group
  | findByFingerprint schema group => exact Tracks.findByFingerprint transport schema group
  | register coordinate schema type => exact Tracks.register transport coordinate schema type
  | registerVersion coordinate schema => exact Tracks.registerVersion transport coordinate schema
  | search name type => exact Tracks.search transport name type
  | checkExists coordinate => exact Tracks.checkExists transport coordinate

/-- An operation, whether or not it fails, changes the documents by what it exchanges. -/
theorem records (transport : Http.Transport τ) (settings : RemoteSettings)
    (operation : Operation α) (remote : Remote τ) :
    Records settings remote.documents (operation.exchanges transport settings remote)
      ((operation.action transport settings).perform remote).2.documents := by
  obtain ⟨added, hplain, hadded, hrecords⟩ := operation.tracks transport settings
    ⟨remote.documents, ⟨remote.transport, []⟩⟩
  have hforget : (forget ⟨remote.documents, ⟨remote.transport, []⟩⟩ : Remote τ) = remote := rfl
  rw [hforget] at hplain
  have hexchanges : operation.exchanges transport settings remote = added := hadded
  rw [hexchanges, hplain]
  exact hrecords

end Operation

end Remote

/-! ### Runs -/

/-- A remote registry, and what went over its transport since its documents were cleared. -/
structure Session (τ : Type) where
  remote : Remote τ
  since : List Exchange

namespace Session

/-- A step of a run. -/
inductive Step : Type 1
  | operate {α : Type} (operation : Remote.Operation α)
  | clear

/-- A registry that was asked nothing yet. -/
def start (transport : τ) : Session τ :=
  ⟨.start transport, []⟩

variable (transport : Http.Transport τ) (settings : RemoteSettings)

/-- What is there after a step. -/
def next (session : Session τ) : Step → Session τ
  | .operate operation =>
    ⟨((operation.action transport settings).perform session.remote).2,
      session.since ++ operation.exchanges transport settings session.remote⟩
  | .clear => ⟨session.remote.clear, []⟩

/-- What is there after steps, one after the other. -/
def applyAll (steps : List Step) (session : Session τ) : Session τ :=
  steps.foldl (next transport settings) session

/-- What is known of the documents that are kept. -/
structure Keeps (session : Session τ) : Prop where
  /-- There is a document for an id exactly if a request for the id succeeded since all were
  cleared, and then it is the one of the body. -/
  get?_iff : ∀ id document, session.remote.documents.get? id = some document ↔
    ∃ body ∈ fetchedBodies settings id session.since, document = .ofBody body
  /-- There are as many as there are ids for which a request succeeded. -/
  size_eq : ∃ ids : List UInt32, ids.Nodup ∧ session.remote.cacheSize = ids.length ∧
    ∀ id, id ∈ ids ↔ fetchedBodies settings id session.since ≠ []
  /-- They stay as they are until all are cleared. -/
  stays : ∀ steps : List Step, (∀ step ∈ steps, step ≠ .clear) → ∀ id document,
    session.remote.documents.get? id = some document →
      (applyAll transport settings steps session).remote.documents.get? id = some document
  /-- No more than one request for an id succeeded. -/
  once : ∀ id, (fetchedBodies settings id session.since).length ≤ 1
  /-- Nothing is sent for an id that has a document. -/
  silent : ∀ id document, session.remote.documents.get? id = some document →
    (Remote.Operation.fetchById id).exchanges transport settings session.remote = [] ∧
      (Remote.fetchById transport settings id).perform session.remote =
        (.ok document, session.remote)
  /-- An operation, also one that fails, only adds the documents that it gets on the way. -/
  adds : ∀ {α : Type} (operation : Remote.Operation α) (id : UInt32) (document : Document),
    ((operation.action transport settings).perform session.remote).2.documents.get? id =
        some document ↔
      session.remote.documents.get? id = some document ∨
        ∃ body ∈ fetchedBodies settings id (operation.exchanges transport settings session.remote),
          document = .ofBody body
  /-- The document of a latest version is the one of its id. -/
  latest : ∀ (coordinate : Coordinate) (id : UInt32) (document : Document) (after : Remote τ),
    (Remote.fetchLatest transport settings coordinate).perform session.remote =
        (.ok (id, document), after) →
      ((Remote.fetchById transport settings id).perform after).1 = .ok document

/-- What is kept is what was got since all was cleared, after every step. -/
theorem records_applyAll {session : Session τ}
    (h : Remote.Records settings .empty session.since session.remote.documents)
    (steps : List Step) :
    Remote.Records settings .empty (applyAll transport settings steps session).since
      (applyAll transport settings steps session).remote.documents := by
  induction steps generalizing session with
  | nil => exact h
  | cons step rest ih =>
      refine ih ?_
      cases step with
      | operate operation =>
          exact h.trans (operation.records transport settings session.remote)
      | clear => exact .of_silent (fun _ => rfl) .empty

/-- No operation changes a document that is kept. -/
theorem get?_applyAll {steps : List Step} (h : ∀ step ∈ steps, step ≠ .clear)
    {session : Session τ} {id : UInt32} {document : Document}
    (hid : session.remote.documents.get? id = some document) :
    (applyAll transport settings steps session).remote.documents.get? id = some document := by
  induction steps generalizing session with
  | nil => exact hid
  | cons step rest ih =>
      refine ih (fun other hmem => h other (List.mem_cons_of_mem step hmem)) ?_
      cases step with
      | operate operation =>
          exact (operation.records transport settings session.remote).get?_of_get? hid
      | clear => exact absurd rfl (h _ List.mem_cons_self)

/-- In every run over any transport, the documents that are kept are those that were got. -/
theorem keeps_applyAll (first : τ) (steps : List Step) :
    Keeps transport settings (applyAll transport settings steps (start first)) := by
  have hstart : Remote.Records settings .empty (start first).since (start first).remote.documents :=
    .of_silent (fun _ => rfl) .empty
  have hrecords := records_applyAll transport settings hstart steps
  generalize applyAll transport settings steps (start first) = session at hrecords
  exact {
    get?_iff := fun id document => by simpa using hrecords.get?_iff id document
    size_eq := hrecords.exists_ids
    stays := fun steps hsteps id document => get?_applyAll transport settings hsteps
    once := hrecords.length_fetchedBodies_le
    silent := fun id document hid =>
      ⟨Remote.Operation.exchanges_fetchById_of_kept hid, Remote.perform_fetchById_of_kept hid⟩
    adds := fun operation id document =>
      (operation.records transport settings session.remote).get?_iff id document
    latest := fun coordinate id document after h => by
      rw [Remote.perform_fetchById_of_kept (Remote.get?_of_fetchLatest h)] }

/-- A registry that is not ready at first, and is asked for an id, for the latest version of an
artifact, which has the same id, and for the id again. -/
def retried : Session Http.Script :=
  applyAll .scripted (.ofUrl "http://h")
    [.operate (.fetchById 7), .operate (.fetchLatest ⟨"shop", "order"⟩), .operate (.fetchById 7)]
    (start ⟨[], [some ⟨503, [], true⟩, some ⟨200, Utf8.encode "\"int\"", true⟩,
      some ⟨200, Utf8.encode "\x7b\"globalId\": 7\x7d", true⟩]⟩)

/-- A run in which the document of an id is got at the second attempt, and not asked for again. -/
theorem keeps_applyAll_retried :
    Keeps .scripted (.ofUrl "http://h") retried ∧ retried.remote.cacheSize = 1 ∧
      retried.since.length = 3 ∧
      fetchedBodies (.ofUrl "http://h") 7 retried.since = ["\"int\""] :=
  ⟨keeps_applyAll _ _ _ _, by decide +kernel, by decide +kernel, by decide +kernel⟩

end Session

end FramedAvro
