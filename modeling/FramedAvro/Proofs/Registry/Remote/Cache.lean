import FramedAvro.Proofs.Registry.Remote.Call
import FramedAvro.Proofs.Registry.Remote.Exchanges
import FramedAvro.Proofs.Table

/-!
# The kept documents

A remote registry keeps a document under an id exactly when it got it, and asks for no id again that
has a document. The documents change on the way of other operations too, which may get many and may
fail between them. So the law is about exchanges and not about operations: whatever an action does,
the documents change by what succeeded among its exchanges (`Remote.Tracks`). It holds of sequences
when it holds of their parts, and so of every operation.

## Main definitions

* `fetchedBodies`: the bodies that were got for an id.
* `Remote.Records`: how exchanges change documents.
* `Remote.Tracks`: an action that changes documents by its exchanges.

## Main results

* `Remote.Tracks.fetchById`: a document is got only for an id that has none.
* `Remote.Tracks.fetchLatest`, `Remote.Tracks.scan`: many documents may be got on the way.
-/

namespace FramedAvro

variable {τ α β : Type}

/-! ### Bodies for an id -/

/-- The request is for the document of an id: it goes where a call for the id is sent. -/
def Exchange.isFor (settings : RemoteSettings) (id : UInt32) (exchange : Exchange) : Bool :=
  exchange.request.method = .get &&
    settings.urls.any fun base =>
      ((RemoteCall.getById id).url base).map Http.Request.target = .ok exchange.request.url

/-- The bodies that were got for an id. -/
def fetchedBodies (settings : RemoteSettings) (id : UInt32) (exchanges : List Exchange) :
    List String :=
  (exchanges.filter (·.isFor settings id)).filterMap Exchange.body?

/-- What was got in two parts of a run was got in the one or in the other. -/
theorem fetchedBodies_append (settings : RemoteSettings) (id : UInt32)
    (exchanges later : List Exchange) :
    fetchedBodies settings id (exchanges ++ later) =
      fetchedBodies settings id exchanges ++ fetchedBodies settings id later := by
  rw [fetchedBodies, List.filter_append, List.filterMap_append]
  rfl

namespace Remote

variable {settings : RemoteSettings}

/-- Whatever succeeds in a call for an id was got for it. -/
theorem Makes.fetchedBodies_own {id : UInt32} {result : Except CallFailure String}
    {exchanges : List Exchange} (h : Makes settings (.getById id) result exchanges) :
    fetchedBodies settings id exchanges = result.toOption.toList := by
  have hall : exchanges.filter (·.isFor settings id) = exchanges := by
    refine List.filter_eq_self.2 fun exchange hmem => ?_
    obtain ⟨base, hbase, url, hurl, hrequest⟩ := h.requests exchange hmem
    rw [Exchange.isFor, hrequest, Bool.and_eq_true, List.any_eq_true]
    exact ⟨rfl, base, hbase, decide_eq_true (by rw [hurl]; rfl)⟩
  rw [fetchedBodies, hall, h.bodies]

/-- Nothing is got for an id by another call. -/
theorem Makes.fetchedBodies_other {call : RemoteCall} {id : UInt32}
    {result : Except CallFailure String} {exchanges : List Exchange}
    (h : Makes settings call result exchanges)
    (hother : call ≠ .getById id) : fetchedBodies settings id exchanges = [] := by
  have hnone : exchanges.filter (·.isFor settings id) = [] := by
    refine List.filter_eq_nil_iff.2 fun exchange hmem hfor => hother ?_
    obtain ⟨base, -, url, hurl, hrequest⟩ := h.requests exchange hmem
    rw [Exchange.isFor, hrequest, Bool.and_eq_true, List.any_eq_true] at hfor
    obtain ⟨hmethod, own, -, hown⟩ := hfor
    have hbody : call.body? = none := by
      cases hbody : call.body? with
      | none => rfl
      | some body => simp [Http.Request.make, hbody] at hmethod
    -- The two URLs may differ in who they log in, but not in their paths.
    have hends : url.EndsWith ["globalIds", toString id] := by
      have hsame := of_decide_eq_true hown
      cases hownUrl : (RemoteCall.getById id).url own with
      | error failure =>
          rw [hownUrl] at hsame
          contradiction
      | ok ownUrl =>
          rw [hownUrl] at hsame
          have hpath : ownUrl.path = url.path := by
            simpa [Http.Request.make] using congrArg Url.path (Except.ok.inj hsame)
          rw [Url.EndsWith, ← hpath]
          exact RemoteCall.endsWith_getById hownUrl
    exact RemoteCall.eq_getById hbody hurl hends
  rw [fetchedBodies, hnone]
  rfl

/-! ### How documents change -/

/-- Exchanges turn documents into others: an id for which nothing was got has the document that it
had, and one body at most was got for any other, which had none before. -/
def Records (settings : RemoteSettings) (before : Table UInt32 Document)
    (exchanges : List Exchange) (after : Table UInt32 Document) : Prop :=
  ∀ id, fetchedBodies settings id exchanges = [] ∧ after.get? id = before.get? id ∨
    ∃ body, fetchedBodies settings id exchanges = [body] ∧ before.get? id = none ∧
      after.get? id = some (.ofBody body)

namespace Records

variable {before middle after : Table UInt32 Document} {exchanges later : List Exchange}

/-- Exchanges that get nothing for any id leave the documents as they are. -/
theorem of_silent (h : ∀ id, fetchedBodies settings id exchanges = [])
    (documents : Table UInt32 Document) : Records settings documents exchanges documents :=
  fun id => .inl ⟨h id, rfl⟩

/-- Changes by exchanges one after the other are changes by all of them. -/
theorem trans (h : Records settings before exchanges middle)
    (h' : Records settings middle later after) :
    Records settings before (exchanges ++ later) after := by
  intro id
  rw [fetchedBodies_append]
  rcases h id with ⟨hnone, hsame⟩ | ⟨body, hbody, hbefore, hmiddle⟩ <;>
    rcases h' id with ⟨hnone', hsame'⟩ | ⟨body', hbody', hmiddle', hafter⟩
  · exact .inl ⟨by rw [hnone, hnone']; rfl, hsame'.trans hsame⟩
  · exact .inr ⟨body', by rw [hnone, hbody']; rfl, hsame.symm.trans hmiddle', hafter⟩
  · exact .inr ⟨body, by rw [hbody, hnone']; rfl, hbefore, hsame'.trans hmiddle⟩
  · -- A document that was got in the first part is there in the second.
    rw [hmiddle] at hmiddle'
    contradiction

/-- A document is there if it was before or was got. -/
theorem get?_iff (h : Records settings before exchanges after) (id : UInt32)
    (document : Document) :
    after.get? id = some document ↔ before.get? id = some document ∨
      ∃ body ∈ fetchedBodies settings id exchanges, document = .ofBody body := by
  rcases h id with ⟨hnone, hsame⟩ | ⟨body, hbody, hbefore, hafter⟩
  · simp [hnone, hsame]
  · simp [hbody, hbefore, hafter, eq_comm]

/-- No more than one body is got for an id. -/
theorem length_fetchedBodies_le (h : Records settings before exchanges after) (id : UInt32) :
    (fetchedBodies settings id exchanges).length ≤ 1 := by
  rcases h id with ⟨hnone, -⟩ | ⟨body, hbody, -⟩
  · simp [hnone]
  · simp [hbody]

/-- Documents stay. -/
theorem get?_of_get? (h : Records settings before exchanges after) {id : UInt32}
    {document : Document} (hid : before.get? id = some document) :
    after.get? id = some document :=
  (h.get?_iff id document).2 (.inl hid)

/-- The documents that were got from the start on are as many as the ids for which there is one. -/
theorem exists_ids (h : Records settings .empty exchanges after) :
    ∃ ids : List UInt32, ids.Nodup ∧ after.size = ids.length ∧
      ∀ id, id ∈ ids ↔ fetchedBodies settings id exchanges ≠ [] := by
  refine ⟨after.keys, after.nodup_keys, (List.length_map _).symm, fun id => ?_⟩
  rw [Table.mem_keys_iff]
  constructor
  · rintro ⟨document, hdocument⟩
    obtain hempty | ⟨body, hbody, -⟩ := (h.get?_iff id document).1 hdocument
    · contradiction
    · exact List.ne_nil_of_mem hbody
  · intro hne
    obtain ⟨body, hbody⟩ := List.exists_mem_of_ne_nil _ hne
    exact ⟨_, (h.get?_iff id _).2 (.inr ⟨body, hbody, rfl⟩)⟩

end Records

/-! ### Actions -/

/-- A registry over a transport, without the log of the transport. -/
def forget (remote : Remote (Logged Exchange τ)) : Remote τ :=
  ⟨remote.documents, remote.transport.inner⟩

/-- An action over a transport with a log does what the action over the plain one does, and the
documents change by its exchanges. -/
def Tracks (settings : RemoteSettings) (logged : Action (Remote (Logged Exchange τ)) α)
    (plain : Action (Remote τ) α) : Prop :=
  ∀ remote, ∃ added,
    plain.perform remote.forget = ((logged.perform remote).1, (logged.perform remote).2.forget) ∧
      (logged.perform remote).2.transport.log = remote.transport.log ++ added ∧
      Records settings remote.documents added (logged.perform remote).2.documents

namespace Tracks

/-- An outcome that is there already exchanges nothing. -/
theorem ofOutcome (outcome : Outcome α) :
    Tracks (τ := τ) settings (Action.ofOutcome outcome) (Action.ofOutcome outcome) :=
  fun remote => ⟨[], rfl, (List.append_nil _).symm, .of_silent (fun _ => rfl) remote.documents⟩

/-- A result that is there already exchanges nothing. -/
theorem ofExcept (result : Except Failure α) :
    Tracks (τ := τ) settings (Action.ofExcept result) (Action.ofExcept result) :=
  ofOutcome (.ofExcept result)

/-- A value exchanges nothing. -/
theorem pure (a : α) : Tracks (τ := τ) settings (Pure.pure a) (Pure.pure a) :=
  ofOutcome (.ok a)

/-- A failure exchanges nothing. -/
theorem fail (failure : Failure) :
    Tracks (τ := τ) (α := α) settings (Action.fail failure) (Action.fail failure) :=
  ofOutcome (.error (.failed failure))

/-- Of two actions one after the other, the exchanges of both change the documents. When the first
one fails, it is only its own. -/
theorem bind {first : Action (Remote (Logged Exchange τ)) α} {first' : Action (Remote τ) α}
    {next : α → Action (Remote (Logged Exchange τ)) β} {next' : α → Action (Remote τ) β}
    (h : Tracks settings first first') (h' : ∀ a, Tracks settings (next a) (next' a)) :
    Tracks settings (first >>= next) (first' >>= next') := by
  intro remote
  obtain ⟨added, hplain, hadded, hrecords⟩ := h remote
  rw [Action.perform_bind, Action.perform_bind, hplain]
  rcases hfirst : first.perform remote with ⟨result, after⟩
  rw [hfirst] at hadded hrecords
  cases result with
  | error stop => exact ⟨added, rfl, hadded, hrecords⟩
  | ok a =>
      obtain ⟨later, hplain', hlater, hrecords'⟩ := h' a after
      refine ⟨added ++ later, hplain', ?_, hrecords.trans hrecords'⟩
      exact hlater.trans (by rw [hadded, List.append_assoc])

/-- An action whose failures are taken for answers. -/
theorem caught {logged : Action (Remote (Logged Exchange τ)) α} {plain : Action (Remote τ) α}
    (h : Tracks settings logged plain) : Tracks settings logged.caught plain.caught := by
  intro remote
  obtain ⟨added, hplain, hadded, hrecords⟩ := h remote
  rw [Action.perform_caught, Action.perform_caught, hplain]
  exact ⟨added, rfl, hadded, hrecords⟩

variable (transport : Http.Transport τ)

/-- A call that is not for an id changes no document. Here its failure is an answer, which has the
status. -/
theorem status {call : RemoteCall} (hother : ∀ id, call ≠ .getById id) :
    Tracks settings (ExceptT.lift (lift (performWithStatus transport.logged settings call)))
      (ExceptT.lift (lift (performWithStatus transport settings call))) := by
  intro remote
  obtain ⟨added, hplain, hadded, hmakes⟩ :=
    performWithStatus_exchanges transport settings call remote.transport
  have hlift {σ : Type} (own : Http.Transport σ) (state : Remote σ) :
      Action.perform (ExceptT.lift (lift (performWithStatus own settings call))) state =
        (.ok ((performWithStatus own settings call).run state.transport).1,
          ⟨state.documents, ((performWithStatus own settings call).run state.transport).2⟩) := rfl
  rw [hlift, hlift, forget, hplain]
  exact ⟨added, rfl, hadded, .of_silent (fun id => hmakes.fetchedBodies_other (hother id)) _⟩

/-- A call that is not for an id changes no document. -/
theorem call {call : RemoteCall} (hother : ∀ id, call ≠ .getById id) :
    Tracks settings (perform transport.logged settings call) (perform transport settings call) := by
  intro remote
  exact (status transport hother).bind (fun result => ofExcept (result.mapError (·.failure))) remote

end Tracks

/-! ### Operations -/

/-- The document of an id is the one that is kept, or else it is got and kept. -/
theorem perform_fetchById (transport : Http.Transport τ) (settings : RemoteSettings) (id : UInt32)
    (remote : Remote τ) :
    (fetchById transport settings id).perform remote =
      match remote.documents.get? id with
      | some document => (.ok document, remote)
      | none =>
        match (performWithStatus transport settings (.getById id)).run remote.transport with
        | (.ok body, after) =>
          (.ok (.ofBody body), ⟨remote.documents.insert id (.ofBody body), after⟩)
        | (.error failure, after) =>
          (.error (.failed failure.failure), ⟨remote.documents, after⟩) := by
  rw [fetchById, Action.perform_bind, Action.perform_get]
  cases hkept : remote.documents.get? id with
  | some document => simp [hkept]
  | none =>
      simp only [hkept, Action.perform_bind]
      have hperform : (perform transport settings (.getById id)).perform remote =
          (.ofExcept (((performWithStatus transport settings (.getById id)).run
              remote.transport).1.mapError CallFailure.failure),
            ⟨remote.documents,
              ((performWithStatus transport settings (.getById id)).run remote.transport).2⟩) := rfl
      rw [hperform]
      rcases (performWithStatus transport settings (.getById id)).run remote.transport with
        ⟨result, after⟩
      cases result <;> rfl

/-- A document that is kept is answered without a call. -/
theorem perform_fetchById_of_kept {transport : Http.Transport τ} {settings : RemoteSettings}
    {id : UInt32} {remote : Remote τ} {document : Document}
    (h : remote.documents.get? id = some document) :
    (fetchById transport settings id).perform remote = (.ok document, remote) := by
  rw [perform_fetchById, h]

/-- What is answered for an id is kept for it. -/
theorem get?_of_fetchById {transport : Http.Transport τ} {settings : RemoteSettings} {id : UInt32}
    {remote after : Remote τ} {document : Document}
    (h : (fetchById transport settings id).perform remote = (.ok document, after)) :
    after.documents.get? id = some document := by
  rw [perform_fetchById] at h
  split at h
  · next own hown =>
    obtain ⟨hdocument, rfl⟩ := Prod.mk.inj h
    rw [hown, Except.ok.inj hdocument]
  · split at h
    · obtain ⟨hdocument, rfl⟩ := Prod.mk.inj h
      rw [← Except.ok.inj hdocument, Table.get?_insert, if_pos rfl]
    · cases h

/-- The document that is answered for a latest version is kept for its id. -/
theorem get?_of_fetchLatest {transport : Http.Transport τ} {settings : RemoteSettings}
    {coordinate : Coordinate} {id : UInt32} {remote after : Remote τ} {document : Document}
    (h : (fetchLatest transport settings coordinate).perform remote = (.ok (id, document), after)) :
    after.documents.get? id = some document := by
  rw [fetchLatest, Action.perform_bind] at h
  split at h
  · next body middle _ =>
    rw [Action.perform_bind, Action.perform_ofExcept] at h
    cases hid : Answer.versionId body with
    | error failure =>
        rw [hid] at h
        cases h
    | ok id? =>
        rw [hid, Outcome.ofExcept_ok] at h
        cases id? with
        | none => cases h
        | some own =>
            simp only [Action.perform_bind] at h
            split at h
            · next got later hgot =>
              cases h
              exact get?_of_fetchById hgot
            · cases h
  · cases h

namespace Tracks

variable (transport : Http.Transport τ)

/-- A document is got only for an id that has none, and then it is kept. -/
theorem fetchById (id : UInt32) :
    Tracks settings (Remote.fetchById transport.logged settings id)
      (Remote.fetchById transport settings id) := by
  intro remote
  rw [perform_fetchById, perform_fetchById, forget]
  cases hkept : remote.documents.get? id with
  | some document =>
      exact ⟨[], rfl, (List.append_nil _).symm, .of_silent (fun _ => rfl) remote.documents⟩
  | none =>
      obtain ⟨added, hplain, hadded, hmakes⟩ :=
        performWithStatus_exchanges transport settings (.getById id) remote.transport
      rw [hplain]
      rcases hresult : (performWithStatus transport.logged settings (.getById id)).run
        remote.transport with ⟨result, after⟩
      rw [hresult] at hadded hmakes
      have hother (other : UInt32) (hne : other ≠ id) : fetchedBodies settings other added = [] :=
        hmakes.fetchedBodies_other fun h => hne (RemoteCall.getById.inj h).symm
      cases result with
      | error failure =>
          refine ⟨added, rfl, hadded, .of_silent (fun other => ?_) remote.documents⟩
          by_cases hsame : other = id
          · exact hsame ▸ hmakes.fetchedBodies_own
          · exact hother other hsame
      | ok body =>
          refine ⟨added, rfl, hadded, fun other => ?_⟩
          by_cases hsame : other = id
          · subst hsame
            refine .inr ⟨body, hmakes.fetchedBodies_own, hkept, ?_⟩
            rw [Table.get?_insert, if_pos rfl]
          · exact .inl ⟨hother other hsame, by rw [Table.get?_insert, if_neg hsame]⟩

/-- Asking for the latest version may get the document of its id. -/
theorem fetchLatest (coordinate : Coordinate) :
    Tracks settings (Remote.fetchLatest transport.logged settings coordinate)
      (Remote.fetchLatest transport settings coordinate) := by
  refine (call transport fun _ h => by contradiction).bind fun body =>
    (ofExcept _).bind fun id => ?_
  cases id with
  | some id => exact (fetchById transport id).bind fun _ => pure _
  | none => exact fail (noLatestId coordinate)

/-- A scan gets documents until it finds one with the fingerprint or comes to one that breaks it. -/
theorem scan (target : Fingerprint) (candidates : List Coordinate) :
    Tracks settings (target.scan (Remote.fetchLatest transport.logged settings) candidates)
      (target.scan (Remote.fetchLatest transport settings) candidates) := by
  induction candidates with
  | nil => exact pure none
  | cons candidate rest ih =>
      refine (fetchLatest transport candidate).caught.bind fun latest =>
        (ofOutcome _).bind fun comparison => ?_
      cases comparison with
      | found => exact pure (some candidate)
      | different => exact ih
      | skipped _ => exact ih

/-- A search by content gets no document. -/
theorem findByContent (schema : String) (group : Option String) :
    Tracks settings (Remote.findByContent transport.logged settings schema group)
      (Remote.findByContent transport settings schema group) :=
  (call transport fun _ h => by contradiction).bind fun _ => (ofExcept _).bind fun _ => pure _

/-- A search by fingerprint may get the documents of all artifacts that it looks at. -/
theorem findByFingerprint (schema : String) (group : Option String) :
    Tracks settings (Remote.findByFingerprint transport.logged settings schema group)
      (Remote.findByFingerprint transport settings schema group) :=
  (ofOutcome _).bind fun target => (call transport fun _ h => by contradiction).bind fun _ =>
    (ofExcept _).bind fun _ => scan transport target _

/-- A listing of artifacts gets no document. -/
theorem search (name : Option String) (type : ArtifactType) :
    Tracks settings (Remote.search transport.logged settings name type)
      (Remote.search transport settings name type) :=
  (call transport fun _ h => by contradiction).bind fun _ => (ofExcept _).bind fun _ => pure _

/-- What was registered has the id in the answer, if there is one. -/
theorem registeredId (coordinate : Coordinate) (id? : Option UInt32) :
    Tracks (τ := τ) settings
      (match id? with
        | some id => return id
        | none => Action.fail (noRegisteredId coordinate))
      (match id? with
        | some id => return id
        | none => Action.fail (noRegisteredId coordinate)) := by
  cases id? with
  | some id => exact pure id
  | none => exact fail (noRegisteredId coordinate)

/-- Registering a version gets no document. -/
theorem registerVersion (coordinate : Coordinate) (schema : String) :
    Tracks settings (Remote.registerVersion transport.logged settings coordinate schema)
      (Remote.registerVersion transport settings coordinate schema) :=
  (call transport fun _ h => by contradiction).bind fun _ =>
    (ofExcept _).bind fun id? => registeredId coordinate id?

/-- Registering an artifact gets no document, whether or not it comes to a version of one that
exists. -/
theorem register (coordinate : Coordinate) (schema : String) (type : ArtifactType) :
    Tracks settings (Remote.register transport.logged settings coordinate schema type)
      (Remote.register transport settings coordinate schema type) := by
  refine (status transport fun _ h => by contradiction).bind fun result => ?_
  cases result with
  | ok body => exact (ofExcept _).bind fun id? => registeredId coordinate id?
  | error failure =>
      dsimp only
      split
      · exact registerVersion transport coordinate schema
      · exact fail failure.failure

/-- Asking whether an artifact exists gets no document, and is answered even if the call fails. -/
theorem checkExists (coordinate : Coordinate) :
    Tracks settings (Remote.checkExists transport.logged settings coordinate)
      (Remote.checkExists transport settings coordinate) := by
  refine (call transport fun _ h => by contradiction).caught.bind fun result => ?_
  cases result with
  | ok body => exact pure true
  | error failure => exact pure false

end Tracks

end Remote

end FramedAvro
