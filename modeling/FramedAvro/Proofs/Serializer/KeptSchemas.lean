import FramedAvro.Proofs.Serializer.Source

/-!
# How schemas come to be kept

A serializer comes to keep a schema on two paths: the document of an id is fetched, or a schema is
looked up and its document comes with the id. On both paths the operation may still fail afterwards,
and the registry may answer otherwise the next time.

What a serializer asks is written down beside the state of the registry, with the answers
(`Registry.asked`). One law then covers both paths (`Serializer.Learns`): an operation asks until it
has a document or has to stop, never for the document of an id that a schema is kept for, and what
it leaves kept depends on that document alone, whatever becomes of the operation.

## Main definitions

* `Inquiry`: a question to a registry, with the answer.
* `Leads`: how inquiries follow each other, and what they lead to.
* `Serializer.Learns`: the law of one operation.

## Main results

* `Serializing.Step.learns`: the law holds of every step of a run.
* `Serializing.remembers_performAll`: what is kept after a run, and what a later step adds to it.
-/

namespace FramedAvro

open Avro

variable {σ α β : Type}

/-! ### Inquiries -/

/-- A question to a registry, with the answer. -/
inductive Inquiry where
  | byId (id : UInt32) (answer : Outcome Document)
  | latest (coordinate : Coordinate) (answer : Outcome (UInt32 × Document))
  | byContent (schema : String) (group : Option String)
      (answer : Outcome (Option Coordinate))
  | byFingerprint (schema : String) (group : Option String)
      (answer : Outcome (Option Coordinate))
  | register (coordinate : Coordinate) (schema : String) (type : ArtifactType)
      (answer : Outcome UInt32)
  | checkExists (coordinate : Coordinate) (answer : Outcome Bool)

namespace Inquiry

/-- Whether the registry answered, instead of failing or not returning. -/
def answered : Inquiry → Bool
  | byId _ answer => answer.isOk
  | latest _ answer => answer.isOk
  | byContent _ _ answer => answer.isOk
  | byFingerprint _ _ answer => answer.isOk
  | register _ _ _ answer => answer.isOk
  | checkExists _ answer => answer.isOk

/-- The document that the registry answered with, and the id that it is the document of. -/
def document? : Inquiry → Option (UInt32 × Document)
  | byId id (.ok document) => some (id, document)
  | latest _ (.ok found) => some found
  | _ => none

/-- An inquiry that got a document was answered. -/
theorem answered_of_document? {inquiry : Inquiry} {found : UInt32 × Document}
    (h : inquiry.document? = some found) : inquiry.answered = true := by
  unfold document? at h
  split at h
  · rfl
  · rfl
  · contradiction

end Inquiry

/-- The registry whose inquiries are written down. -/
def Registry.asked (registry : Registry σ) : Registry (Logged Inquiry σ) where
  fetchById id := (registry.fetchById id).log fun answer => [.byId id answer]
  fetchLatest coordinate :=
    (registry.fetchLatest coordinate).log fun answer => [.latest coordinate answer]
  findByContent schema group :=
    (registry.findByContent schema group).log fun answer => [.byContent schema group answer]
  findByFingerprint schema group :=
    (registry.findByFingerprint schema group).log fun answer => [.byFingerprint schema group answer]
  register coordinate schema type :=
    (registry.register coordinate schema type).log
      fun answer => [.register coordinate schema type answer]
  checkExists coordinate :=
    (registry.checkExists coordinate).log fun answer => [.checkExists coordinate answer]

/-- A registry answers the same when its inquiries are written down. -/
theorem Registry.asked_forgets (registry : Registry σ) :
    registry.asked.Forgets Logged.inner registry where
  fetchById _ := Action.log_forgets _ _
  fetchLatest _ := Action.log_forgets _ _
  findByContent _ _ := Action.log_forgets _ _
  findByFingerprint _ _ := Action.log_forgets _ _
  register _ _ _ := Action.log_forgets _ _
  checkExists _ := Action.log_forgets _ _

/-! ### What inquiries lead to -/

/-- The inquiries lead to a document, to none, or to an end without either. Each but the last is
answered, and with no document. -/
inductive Leads : List Inquiry → Outcome (Option (UInt32 × Document)) → Prop
  /-- Nothing more is asked, and there is no document. -/
  | nothing : Leads [] (.ok none)
  /-- Nothing more is asked, since the answers so far are of no use. -/
  | refused (stop : Stop) : Leads [] (.error stop)
  /-- The registry does not answer. -/
  | failed {inquiry : Inquiry} (h : inquiry.answered = false) (stop : Stop) :
      Leads [inquiry] (.error stop)
  /-- The registry answers with a document. -/
  | found {inquiry : Inquiry} {document : UInt32 × Document}
      (hdocument : inquiry.document? = some document) : Leads [inquiry] (.ok (some document))
  /-- The registry answers with no document, and more may be asked. -/
  | more {inquiry : Inquiry} {rest : List Inquiry}
      {result : Outcome (Option (UInt32 × Document))} (hanswered : inquiry.answered = true)
      (hdocument : inquiry.document? = none) (hrest : Leads rest result) :
      Leads (inquiry :: rest) result

namespace Leads

variable {inquiries : List Inquiry} {result : Outcome (Option (UInt32 × Document))}

/-- Where there is no document yet, more may be asked. -/
theorem append {later : List Inquiry} (h : Leads inquiries (.ok none)) (h' : Leads later result) :
    Leads (inquiries ++ later) result := by
  generalize hnone : (.ok none : Outcome (Option (UInt32 × Document))) = first at h
  induction h with
  | nothing => exact h'
  | refused stop => contradiction
  | failed _ stop => contradiction
  | found _ => simp at hnone
  | more hanswered hdocument _ ih => exact .more hanswered hdocument (ih hnone)

/-- A document that is answered is the one that the inquiries lead to. -/
theorem eq_of_document? (h : Leads inquiries result) {inquiry : Inquiry}
    (hmem : inquiry ∈ inquiries) {document : UInt32 × Document}
    (hdocument : inquiry.document? = some document) : result = .ok (some document) := by
  induction h with
  | nothing => contradiction
  | refused stop => contradiction
  | failed hfailed stop =>
      obtain rfl := List.mem_singleton.1 hmem
      have hanswered := Inquiry.answered_of_document? hdocument
      rw [hfailed] at hanswered
      contradiction
  | found hown =>
      obtain rfl := List.mem_singleton.1 hmem
      rw [← hdocument, hown]
  | more _ hnone _ ih =>
      rcases List.mem_cons.1 hmem with rfl | hrest
      · rw [hnone] at hdocument
        contradiction
      · exact ih hrest

/-- A document that the inquiries lead to is answered, and no inquiry failed. -/
theorem exists_document? {document : UInt32 × Document}
    (h : Leads inquiries (.ok (some document))) :
    (∀ inquiry ∈ inquiries, inquiry.answered = true) ∧
      ∃ inquiry ∈ inquiries, inquiry.document? = some document := by
  generalize hsome : (.ok (some document) : Outcome (Option (UInt32 × Document))) = last at h
  induction h with
  | nothing => simp at hsome
  | refused stop => contradiction
  | failed _ stop => contradiction
  | @found inquiry own hown =>
      obtain rfl := Option.some.inj (Except.ok.inj hsome)
      refine ⟨fun other hother => ?_, inquiry, List.mem_singleton_self inquiry, hown⟩
      obtain rfl := List.mem_singleton.1 hother
      exact Inquiry.answered_of_document? hown
  | @more inquiry rest _ hanswered _ _ ih =>
      obtain ⟨hall, own, hmem, hdocument⟩ := ih hsome
      exact ⟨List.forall_mem_cons.2 ⟨hanswered, hall⟩, own, List.mem_cons_of_mem _ hmem, hdocument⟩

end Leads

/-- What an action asks leads to the document in its answer, by allowed inquiries. -/
def Action.Asks (action : Action (Logged Inquiry σ) α) (document? : α → Option (UInt32 × Document))
    (allowed : Inquiry → Prop) : Prop :=
  ∀ state, ∃ added, (action.perform state).2.log = state.log ++ added ∧
    Leads added ((action.perform state).1.map document?) ∧ ∀ inquiry ∈ added, allowed inquiry

namespace Action.Asks

variable {allowed : Inquiry → Prop}

/-- An outcome that is there already asks for nothing, and leads to no document. -/
theorem ofOutcome (outcome : Outcome α) {document? : α → Option (UInt32 × Document)}
    (h : ∀ a, outcome = .ok a → document? a = none) :
    Asks (σ := σ) (Action.ofOutcome outcome) document? allowed := by
  refine fun state => ⟨[], (List.append_nil _).symm, ?_, fun _ hmem => by contradiction⟩
  rw [perform_ofOutcome]
  cases outcome with
  | ok a =>
      rw [Except.map, h a rfl]
      exact .nothing
  | error stop => exact .refused stop

/-- An inquiry that is written down with its answer. -/
theorem log {action : Action σ α} {inquiry : Outcome α → Inquiry}
    {document? : α → Option (UInt32 × Document)}
    (hanswered : ∀ result, (inquiry result).answered = result.isOk)
    (hdocument : ∀ a, (inquiry (.ok a)).document? = document? a)
    (hallowed : ∀ result, allowed (inquiry result)) :
    Asks (action.log fun result => [inquiry result]) document? allowed := by
  intro state
  refine ⟨[inquiry (action.perform state.inner).1], rfl, ?_, List.forall_mem_singleton.2
    (hallowed _)⟩
  have hresult : ((action.log fun result => [inquiry result]).perform state).1 =
      (action.perform state.inner).1 := rfl
  rw [hresult]
  cases (action.perform state.inner).1 with
  | error stop => exact .failed (hanswered _) stop
  | ok a =>
      rw [Except.map]
      cases hown : document? a with
      | none => exact .more (hanswered _) ((hdocument a).trans hown) .nothing
      | some document => exact .found ((hdocument a).trans hown)

/-- A sequence whose first action answers no document. -/
theorem bind {first : Action (Logged Inquiry σ) α} {next : α → Action (Logged Inquiry σ) β}
    {document? : β → Option (UInt32 × Document)} (h : Asks first (fun _ => none) allowed)
    (h' : ∀ a, Asks (next a) document? allowed) : Asks (first >>= next) document? allowed := by
  intro state
  obtain ⟨added, hadded, hleads, hallowed⟩ := h state
  rw [perform_bind]
  rcases hfirst : first.perform state with ⟨result, after⟩
  rw [hfirst] at hadded hleads
  cases result with
  | error stop => exact ⟨added, hadded, hleads, hallowed⟩
  | ok a =>
      obtain ⟨later, hlater, hleads', hallowed'⟩ := h' a after
      exact ⟨added ++ later, by rw [hlater, hadded, List.append_assoc], hleads.append hleads',
        List.forall_mem_append.2 ⟨hallowed, hallowed'⟩⟩

end Action.Asks

/-- A lookup searches for an artifact and fetches its latest version, so it leads to the document of
that version. It fetches no document by its id. -/
theorem Registry.findSchema_asks (registry : Registry σ) (schema : String)
    (group : Option String) :
    (registry.asked.findSchema schema group).Asks some
      fun inquiry => ∀ id answer, inquiry ≠ .byId id answer := by
  have hartifact : (registry.asked.findArtifact schema group).Asks (fun _ => none)
      fun inquiry => ∀ id answer, inquiry ≠ .byId id answer := by
    refine Action.Asks.bind (Action.Asks.log (fun _ => rfl) (fun _ => rfl)
      fun _ _ _ h => by contradiction) fun found => ?_
    cases found with
    | some coordinate => exact Action.Asks.ofOutcome (.ok (some coordinate)) fun _ _ => rfl
    | none => exact Action.Asks.log (fun _ => rfl) (fun _ => rfl) fun _ _ _ h => by contradiction
  refine hartifact.bind fun found => ?_
  cases found with
  | none =>
      exact Action.Asks.ofOutcome (.error (.failed noMatchingSchema)) fun _ h => by contradiction
  | some coordinate =>
      exact Action.Asks.log (fun _ => rfl) (fun _ => rfl) fun _ _ _ h => by contradiction

/-! ### What a serializer learns -/

namespace Serializer

/-- The serializer after it was given the document of an id. It learns the schema of the document,
unless a schema is kept for the id or the document has none. -/
def learn (serializer : Serializer) (id : UInt32) (document : Document) : Serializer :=
  match serializer.kept? id with
  | some _ => serializer
  | none =>
    match ParsedSchema.parse id document with
    | .ok schema => serializer.keep schema
    | .error _ => serializer

/-- The serializer after inquiries that led to a result. -/
def learnFrom (serializer : Serializer) :
    Outcome (Option (UInt32 × Document)) → Serializer
  | .ok (some (id, document)) => serializer.learn id document
  | _ => serializer

/-- From one serializer to another by inquiries. The document they lead to is learned and nothing
else, and the document of an id is only asked for when no schema is kept for it. -/
def Learns (before : Serializer) (inquiries : List Inquiry) (after : Serializer) : Prop :=
  ∃ result, Leads inquiries result ∧ after = before.learnFrom result ∧
    ∀ id answer, .byId id answer ∈ inquiries → before.kept? id = none

/-- Nothing is learned from no inquiries. -/
theorem learns_self (serializer : Serializer) : serializer.Learns [] serializer :=
  ⟨.ok none, .nothing, rfl, fun _ _ h => by contradiction⟩

/-- What is learned is nothing, or the schema of the document under an id that had none. -/
theorem schemas_learn (serializer : Serializer) (id : UInt32) (document : Document) :
    (serializer.learn id document).schemas = serializer.schemas ∨
      ∃ schema, ParsedSchema.parse id document = .ok schema ∧ serializer.keepsSchemas = true ∧
        serializer.schemas.get? id = none ∧
        (serializer.learn id document).schemas = serializer.schemas.insert id schema := by
  rw [learn]
  cases hkept : serializer.kept? id with
  | some schema => exact .inl rfl
  | none =>
      cases hparse : ParsedSchema.parse id document with
      | error failure => exact .inl rfl
      | ok schema =>
          simp only [keep]
          split
          · next hkeeps =>
              rw [kept?, if_pos hkeeps] at hkept
              exact .inr ⟨schema, rfl, hkeeps, hkept, by rw [ParsedSchema.id_of_parse hparse]⟩
          · exact .inl rfl

/-- Learning changes what is kept, but not whether schemas are kept. -/
theorem keepsSchemas_learnFrom (serializer : Serializer)
    (result : Outcome (Option (UInt32 × Document))) :
    (serializer.learnFrom result).keepsSchemas = serializer.keepsSchemas := by
  unfold learnFrom
  split
  · rw [learn]
    split
    · rfl
    · split
      · exact (serializer.sameSettings_keep _).1.symm
      · rfl
  · rfl

/-- One schema more is kept, under an id that had none. The registry never failed, and the only
document that it answered with is the one that the schema was parsed from. -/
structure Gains (before : Serializer) (inquiries : List Inquiry) (schema : ParsedSchema)
    (after : Serializer) : Prop where
  on : before.keepsSchemas = true
  fresh : before.schemas.get? schema.id = none
  schemas : after.schemas = before.schemas.insert schema.id schema
  parsed : ParsedSchema.parse schema.id schema.document = .ok schema
  answered : ∀ inquiry ∈ inquiries, inquiry.answered = true
  document : ∃ inquiry ∈ inquiries, inquiry.document? = some (schema.id, schema.document)
  only : ∀ inquiry ∈ inquiries, ∀ found, inquiry.document? = some found →
    found = (schema.id, schema.document)

/-- What is kept stays as it is, or one schema more is kept. -/
theorem Learns.eq_or_gains {before after : Serializer} {inquiries : List Inquiry}
    (h : before.Learns inquiries after) :
    after.schemas = before.schemas ∨ ∃ schema, before.Gains inquiries schema after := by
  obtain ⟨result, hleads, rfl, -⟩ := h
  unfold learnFrom
  split
  · next id document =>
      rcases before.schemas_learn id document with hsame | ⟨schema, hparse, hkeeps, hfresh, hinsert⟩
      · exact .inl hsame
      · obtain rfl := ParsedSchema.id_of_parse hparse
        obtain rfl := ParsedSchema.document_of_parse hparse
        obtain ⟨hanswered, hdocument⟩ := hleads.exists_document?
        refine .inr ⟨schema, hkeeps, hfresh, hinsert, hparse, hanswered, hdocument, ?_⟩
        intro inquiry hmem found hfound
        exact (Option.some.inj (Except.ok.inj (hleads.eq_of_document? hmem hfound))).symm
  · exact .inl rfl

/-- The registry does not answer, answers with no document, or answers with one that has no
schema. -/
def Fruitless (inquiries : List Inquiry) : Prop :=
  (∃ inquiry ∈ inquiries, inquiry.answered = false) ∨
    (∀ inquiry ∈ inquiries, inquiry.document? = none) ∨
    ∃ inquiry ∈ inquiries, ∃ id document,
      inquiry.document? = some (id, document) ∧
        ∀ schema, Schema.parse? document.text ≠ .ok schema

/-- Inquiries by which a schema was gained were not fruitless. -/
theorem Gains.not_fruitless {before after : Serializer} {inquiries : List Inquiry}
    {schema : ParsedSchema} (h : before.Gains inquiries schema after) : ¬Fruitless inquiries := by
  rintro (⟨inquiry, hmem, hfailed⟩ | hnone | ⟨inquiry, hmem, id, document, hfound, hbad⟩)
  · rw [h.answered inquiry hmem] at hfailed
    contradiction
  · obtain ⟨inquiry, hmem, hfound⟩ := h.document
    rw [hnone inquiry hmem] at hfound
    contradiction
  · obtain ⟨rfl, rfl⟩ := Prod.mk.inj (h.only inquiry hmem _ hfound)
    exact hbad schema.schema (ParsedSchema.parse?_of_parse h.parsed)

/-- What is kept is never changed or removed. -/
theorem Learns.get? {before after : Serializer} {inquiries : List Inquiry}
    (h : before.Learns inquiries after) {id : UInt32} {schema : ParsedSchema}
    (hkept : before.schemas.get? id = some schema) : after.schemas.get? id = some schema := by
  rcases h.eq_or_gains with hsame | ⟨own, hgains⟩
  · rw [hsame, hkept]
  · have hne : id ≠ own.id := by
      rintro rfl
      rw [hgains.fresh] at hkept
      contradiction
    rw [hgains.schemas, Table.get?_insert, if_neg hne, hkept]

/-- A serializer that keeps schemas keeps one for the id of a document that has a schema. -/
theorem Learns.exists_get? {before after : Serializer} {inquiries : List Inquiry}
    (h : before.Learns inquiries after) (hkeeps : before.keepsSchemas = true) {inquiry : Inquiry}
    (hmem : inquiry ∈ inquiries) {id : UInt32} {document : Document}
    (hfound : inquiry.document? = some (id, document)) {schema : Schema}
    (hschema : Schema.parse? document.text = .ok schema) :
    ∃ own, after.schemas.get? id = some own := by
  obtain ⟨result, hleads, rfl, -⟩ := h
  obtain rfl := hleads.eq_of_document? hmem hfound
  have hparse : ParsedSchema.parse id document = .ok ⟨id, document, schema⟩ :=
    ParsedSchema.parse_eq_ok_iff.2 ⟨rfl, rfl, hschema⟩
  rw [learnFrom, learn]
  cases hkept : before.kept? id with
  | some own =>
      rw [kept?, if_pos hkeeps] at hkept
      exact ⟨own, hkept⟩
  | none =>
      refine ⟨⟨id, document, schema⟩, ?_⟩
      rw [hparse]
      simp only [keep, hkeeps, if_true]
      rw [Table.get?_insert, if_pos rfl]

/-- Nothing is kept, unless the serializer keeps schemas. -/
def Proper (serializer : Serializer) : Prop :=
  serializer.keepsSchemas = false → serializer.schemas = .empty

/-- A proper serializer has the schemas that it keeps, and looks for no others. -/
theorem Proper.kept? {serializer : Serializer} (h : serializer.Proper) (id : UInt32) :
    serializer.kept? id = serializer.schemas.get? id := by
  rw [Serializer.kept?]
  split
  · rfl
  · next hoff => rw [h (Bool.eq_false_iff.2 hoff), Table.get?_empty]

/-- A serializer that keeps no schemas learns none. -/
theorem Learns.proper {before after : Serializer} {inquiries : List Inquiry}
    (h : before.Learns inquiries after) (hproper : before.Proper) : after.Proper := by
  intro hoff
  have hsettings : after.keepsSchemas = before.keepsSchemas := by
    obtain ⟨result, -, rfl, -⟩ := h
    exact before.keepsSchemas_learnFrom result
  rw [hsettings] at hoff
  rcases h.eq_or_gains with hsame | ⟨schema, hgains⟩
  · rw [hsame, hproper hoff]
  · rw [hgains.on] at hoff
    contradiction

end Serializer

/-! ### What an operation learns -/

/-- What an action asks, and what the serializer learns by that. -/
def Action.Learns (action : Action (Serializing (Logged Inquiry σ)) α) : Prop :=
  ∀ state, ∃ added, (action.perform state).2.registry.log = state.registry.log ++ added ∧
    state.serializer.Learns added (action.perform state).2.serializer

/-- The action leaves everything as it is. -/
def Action.Quiet (action : Action (Serializing (Logged Inquiry σ)) α) : Prop :=
  ∀ state, (action.perform state).2 = state

/-- The action makes the serializer learn a document, and leaves the registry as it is. -/
def Action.Takes (id : UInt32) (document : Document)
    (action : Action (Serializing (Logged Inquiry σ)) α) : Prop :=
  ∀ state, (action.perform state).2 =
    { state with serializer := state.serializer.learn id document }

namespace Action

/-- An outcome that is there already leaves everything as it is. -/
theorem Quiet.ofOutcome (outcome : Outcome α) :
    Quiet (σ := σ) (Action.ofOutcome outcome) :=
  fun _ => rfl

/-- Two quiet actions one after the other are quiet. -/
theorem Quiet.bind {first : Action (Serializing (Logged Inquiry σ)) α}
    {next : α → Action (Serializing (Logged Inquiry σ)) β} (h : Quiet first)
    (h' : ∀ a, Quiet (next a)) : Quiet (first >>= next) := by
  intro state
  have hfirst := h state
  rw [perform_bind]
  rcases hperform : first.perform state with ⟨result, after⟩
  rw [hperform] at hfirst
  obtain rfl : after = state := hfirst
  cases result with
  | error stop => rfl
  | ok a => exact h' a after

/-- What comes after an action and leaves everything as it is might as well not be there. -/
theorem perform_bind_quiet {first : Action (Serializing (Logged Inquiry σ)) α}
    {next : α → Action (Serializing (Logged Inquiry σ)) β} (h : ∀ a, Quiet (next a))
    (state : Serializing (Logged Inquiry σ)) :
    ((first >>= next).perform state).2 = (first.perform state).2 := by
  rw [perform_bind]
  rcases first.perform state with ⟨result, after⟩
  cases result with
  | error stop => rfl
  | ok a => exact h a after

/-- A document is parsed, unless a schema is kept for its id. -/
theorem Takes.parse (id : UInt32) (document : Document) :
    Takes (σ := σ) id document (Serializing.parse id document) := by
  intro state
  rw [Serializing.perform_parse, Serializer.learn]
  cases state.serializer.kept? id with
  | some schema => rfl
  | none => cases ParsedSchema.parse id document <;> rfl

/-- What is learned first stays when only quiet actions follow. -/
theorem Takes.bind {id : UInt32} {document : Document}
    {first : Action (Serializing (Logged Inquiry σ)) α}
    {next : α → Action (Serializing (Logged Inquiry σ)) β} (h : Takes id document first)
    (h' : ∀ a, Quiet (next a)) : Takes id document (first >>= next) :=
  fun state => (perform_bind_quiet h' state).trans (h state)

namespace Learns

/-- What goes wrong after something was learned changes nothing of it. -/
theorem bind_quiet {first : Action (Serializing (Logged Inquiry σ)) α}
    {next : α → Action (Serializing (Logged Inquiry σ)) β} (h : Learns first)
    (h' : ∀ a, Quiet (next a)) : Learns (first >>= next) := by
  intro state
  rw [perform_bind_quiet h']
  exact h state

/-- After a quiet action, the one that follows learns what it learns. -/
theorem quiet_bind {first : Action (Serializing (Logged Inquiry σ)) α}
    {next : α → Action (Serializing (Logged Inquiry σ)) β} (h : Quiet first)
    (h' : ∀ a, Learns (next a)) : Learns (first >>= next) := by
  intro state
  have hfirst := h state
  rw [perform_bind]
  rcases hperform : first.perform state with ⟨result, after⟩
  rw [hperform] at hfirst
  obtain rfl : after = state := hfirst
  cases result with
  | error stop => exact ⟨[], (List.append_nil _).symm, after.serializer.learns_self⟩
  | ok a => exact h' a after

/-- A boundary changes what is answered, but not what is learned. -/
theorem wrapping {action : Action (Serializing (Logged Inquiry σ)) α} (h : Learns action)
    (kind : FailureKind) (pass : List FailureKind) (message : String) :
    Learns (Serializing.wrapping kind pass message action) :=
  h

/-- The registry is asked for a document, and the serializer learns what it answers. -/
theorem ask_take {question : Action (Logged Inquiry σ) α} (found : α → UInt32 × Document)
    {next : α → Action (Serializing (Logged Inquiry σ)) β} {allowed : Inquiry → Prop}
    (h : question.Asks (fun a => some (found a)) allowed)
    (h' : ∀ a, Takes (found a).1 (found a).2 (next a))
    {state : Serializing (Logged Inquiry σ)}
    (hallowed : ∀ id answer, allowed (.byId id answer) → state.serializer.kept? id = none) :
    ∃ added, ((Serializing.ask question >>= next).perform state).2.registry.log =
        state.registry.log ++ added ∧
      state.serializer.Learns added
        ((Serializing.ask question >>= next).perform state).2.serializer := by
  obtain ⟨added, hadded, hleads, hall⟩ := h state.registry
  have hkept (id : UInt32) (answer : Outcome Document)
      (hmem : .byId id answer ∈ added) : state.serializer.kept? id = none :=
    hallowed id answer (hall _ hmem)
  rw [perform_bind, Serializing.ask, perform_onPart]
  rcases hquestion : question.perform state.registry with ⟨result, after⟩
  rw [hquestion] at hadded hleads
  cases result with
  | error stop => exact ⟨added, hadded, .error stop, hleads, rfl, hkept⟩
  | ok a =>
      rw [h' a]
      exact ⟨added, hadded, .ok (some (found a)), hleads, rfl, hkept⟩

/-- The document of an id is fetched when no schema is kept for it. -/
theorem schemaOf (registry : Registry σ) (id : UInt32) :
    Learns (Serializing.schemaOf registry.asked id) := by
  intro state
  rw [Serializing.perform_schemaOf]
  cases hkept : state.serializer.kept? id with
  | some schema => exact ⟨[], (List.append_nil _).symm, state.serializer.learns_self⟩
  | none =>
      have hasks : (registry.asked.fetchById id).Asks (fun document => some (id, document))
          fun inquiry => ∃ answer, inquiry = .byId id answer :=
        Asks.log (fun _ => rfl) (fun _ => rfl) fun answer => ⟨answer, rfl⟩
      refine ask_take (fun document => (id, document)) hasks
        (fun document => Takes.parse id document) ?_
      rintro other answer ⟨own, hown⟩
      obtain ⟨rfl, -⟩ := Inquiry.byId.inj hown
      exact hkept

/-- A schema is looked up, whatever is kept. -/
theorem lookup (registry : Registry σ) (model : Model α) (item : α) :
    Learns (Serializing.serializeByLookup registry.asked model item) := by
  refine wrapping (fun state => ?_) _ _ _
  refine ask_take id (registry.findSchema_asks model.schema state.serializer.lookupGroup)
    (fun found => (Takes.parse found.1 found.2).bind fun schema =>
      Quiet.ofOutcome (schema.frameItem model item)) ?_
  exact fun id answer hallowed => absurd rfl (hallowed id answer)

/-- Opening a message learns the document of its id, if there is one to learn. -/
theorem openMessage (registry : Registry σ) (message : Bytes) :
    Learns (Serializing.openMessage registry.asked message) :=
  quiet_bind (Quiet.ofOutcome _) fun frame =>
    (schemaOf registry frame.1).bind_quiet fun _ => Quiet.ofOutcome _

end Learns

end Action

/-- Every operation learns by what it asks. -/
theorem Operation.learns (registry : Registry σ) (operation : Operation β) :
    (operation.action registry.asked).Learns := by
  have hread (message : Bytes) {α : Type}
      {next : ParsedSchema × Bytes → Action (Serializing (Logged Inquiry σ)) α}
      (h : ∀ opened, (next opened).Quiet) :
      (Serializing.reading (Serializing.openMessage registry.asked message >>= next)).Learns :=
    ((Action.Learns.openMessage registry message).bind_quiet h).wrapping _ _ _
  cases operation with
  | serialize model item id =>
      cases id with
      | some id =>
          exact ((Action.Learns.schemaOf registry id).bind_quiet fun _ =>
            Action.Quiet.ofOutcome _).wrapping _ _ _
      | none => exact Action.Learns.lookup registry model item
  | serializeValue v id =>
      exact ((Action.Learns.schemaOf registry id).bind_quiet fun _ =>
        Action.Quiet.ofOutcome _).wrapping _ _ _
  | deserialize model message =>
      exact hread message fun _ => (Action.Quiet.ofOutcome _).bind fun _ =>
        (Action.Quiet.ofOutcome _).bind fun _ => Action.Quiet.ofOutcome _
  | deserializeWithSchema model message =>
      exact hread message fun _ => (Action.Quiet.ofOutcome _).bind fun _ =>
        (Action.Quiet.ofOutcome _).bind fun _ => Action.Quiet.ofOutcome _
  | deserializeValue message =>
      exact hread message fun _ => (Action.Quiet.ofOutcome _).bind fun _ => Action.Quiet.ofOutcome _

/-! ### Runs -/

namespace Serializing

/-- A serializer on a registry, with nothing asked yet. -/
def asked (state : Serializing σ) : Serializing (Logged Inquiry σ) :=
  ⟨state.serializer, ⟨state.registry, []⟩⟩

namespace Step

/-- The step on a registry whose inquiries are written down. -/
def asked : Step σ → Step (Logged Inquiry σ)
  | operate operation => operate operation
  | registerSchema coordinate => registerSchema coordinate
  | change become => change fun logged => { logged with inner := become logged.inner }

/-- What the registry is asked in a step. -/
def inquiries (registry : Registry σ) (step : Step σ) (state : Serializing σ) : List Inquiry :=
  (step.asked.next registry.asked state.asked).registry.log

/-- Every step learns by what is asked in it. -/
theorem learns (registry : Registry σ) (step : Step σ) (state : Serializing σ) :
    state.serializer.Learns (step.inquiries registry state)
      (step.next registry state).serializer := by
  cases step with
  | operate operation =>
      obtain ⟨added, hadded, hlearns⟩ := operation.learns registry state.asked
      have hforgets := operation.forgets_onRegistry registry.asked_forgets state.asked
      have hinquiries : inquiries registry (operate operation) state = added := hadded
      have hafter : (next registry (operate operation) state).serializer =
          ((operation.action registry.asked).perform state.asked).2.serializer :=
        congrArg (fun performed => performed.2.serializer) hforgets
      rw [hinquiries, hafter]
      exact hlearns
  | registerSchema coordinate => exact state.serializer.learns_self
  | change become => exact state.serializer.learns_self

end Step

/-- Steps one after the other are performed one after the other. -/
theorem performAll_append (registry : Registry σ) (steps later : List (Step σ))
    (state : Serializing σ) :
    performAll registry (steps ++ later) state =
      performAll registry later (performAll registry steps state) :=
  List.foldl_append

/-- What is kept stays through every run. -/
theorem get?_performAll (registry : Registry σ) (steps : List (Step σ)) {state : Serializing σ}
    {id : UInt32} {schema : ParsedSchema} (h : state.serializer.schemas.get? id = some schema) :
    (performAll registry steps state).serializer.schemas.get? id = some schema := by
  induction steps generalizing state with
  | nil => exact h
  | cons step rest ih => exact ih ((step.learns registry state).get? h)

/-- A run that starts with a proper serializer leaves one. -/
theorem proper_performAll (registry : Registry σ) (steps : List (Step σ)) {state : Serializing σ}
    (h : state.serializer.Proper) : (performAll registry steps state).serializer.Proper := by
  induction steps generalizing state with
  | nil => exact h
  | cons step rest ih => exact ih ((step.learns registry state).proper h)

/-- Whether schemas are kept is decided once for a run. -/
theorem keepsSchemas_performAll (registry : Registry σ) (steps : List (Step σ))
    (state : Serializing σ) :
    (performAll registry steps state).serializer.keepsSchemas = state.serializer.keepsSchemas := by
  induction steps generalizing state with
  | nil => rfl
  | cons step rest ih =>
      obtain ⟨result, -, hafter, -⟩ := step.learns registry state
      refine (ih (step.next registry state)).trans ?_
      rw [hafter, Serializer.keepsSchemas_learnFrom]

/-- A schema that is kept after a run was parsed from a document that the registry answered with for
its id. -/
theorem stems_performAll (registry : Registry σ) (steps : List (Step σ)) (keepsSchemas : Bool)
    (group : Option String) (start : σ) {id : UInt32} {schema : ParsedSchema}
    (h : (performAll registry steps ⟨.make keepsSchemas group, start⟩).serializer.kept? id =
      some schema) :
    Stems (receipts registry steps ⟨.make keepsSchemas group, start⟩) id schema := by
  have hsourced := sourced_performAll registry steps (sourced_noted_make keepsSchemas group start)
  have hforget : (performAll registry.noted (steps.map Step.noted)
      (noted ⟨.make keepsSchemas group, start⟩)).serializer =
        (performAll registry steps ⟨.make keepsSchemas group, start⟩).serializer :=
    congrArg serializer (forget_performAll registry steps (noted ⟨.make keepsSchemas group, start⟩))
  rw [← hforget] at h
  exact hsourced id schema h

/-- What a serializer keeps after a run, and what becomes of it in every later step. -/
structure Remembers (registry : Registry σ) (steps : List (Step σ)) (start : Serializing σ) :
    Prop where
  /-- Nothing is kept, unless schemas are to be kept. -/
  off : start.serializer.keepsSchemas = false →
    (performAll registry steps start).serializer.schemas = .empty
  /-- A schema is kept under its own id. It was parsed from its document, which the registry
  answered with for this id in the run. -/
  right : ∀ id schema, (performAll registry steps start).serializer.schemas.get? id = some schema →
    schema.id = id ∧ Schema.parse? schema.document.text = .ok schema.schema ∧
      ∃ receipt ∈ receipts registry steps start,
        receipt.id = id ∧ receipt.document = schema.document
  /-- What is kept stays as it is, through all that comes later. -/
  stays : ∀ id schema, (performAll registry steps start).serializer.schemas.get? id = some schema →
    ∀ later, (performAll registry (steps ++ later) start).serializer.schemas.get? id = some schema
  /-- In a step one schema more is kept at most, under an id that had none. -/
  one : ∀ step : Step σ,
    let before := performAll registry steps start
    (step.next registry before).serializer.schemas = before.serializer.schemas ∨
      ∃ schema, before.serializer.Gains (step.inquiries registry before) schema
        (step.next registry before).serializer
  /-- In a step without a document, or with one that has no schema, nothing more is kept. -/
  fruitless : ∀ step : Step σ,
    let before := performAll registry steps start
    Serializer.Fruitless (step.inquiries registry before) →
      (step.next registry before).serializer.schemas = before.serializer.schemas
  /-- In a step with a document that has a schema, one comes to be kept for its id, if schemas are
  to be kept. -/
  learned : start.serializer.keepsSchemas = true → ∀ step : Step σ,
    let before := performAll registry steps start
    ∀ inquiry ∈ step.inquiries registry before, ∀ id document schema,
      inquiry.document? = some (id, document) → Schema.parse? document.text = .ok schema →
        ∃ own, (step.next registry before).serializer.schemas.get? id = some own
  /-- The document of an id under which a schema is kept is not asked for again. -/
  once : ∀ id schema, (performAll registry steps start).serializer.schemas.get? id = some schema →
    ∀ later (step : Step σ) answer,
      .byId id answer ∉ step.inquiries registry (performAll registry (steps ++ later) start)

/-- In every run of a serializer on any registry, what is kept is right and stays, and an operation
keeps one schema more at most, whatever else becomes of it. -/
theorem remembers_performAll (registry : Registry σ) (keepsSchemas : Bool) (group : Option String)
    (start : σ) (steps : List (Step σ)) :
    Remembers registry steps ⟨.make keepsSchemas group, start⟩ := by
  have hproper (steps : List (Step σ)) :
      (performAll registry steps ⟨.make keepsSchemas group, start⟩).serializer.Proper :=
    proper_performAll registry steps fun _ => rfl
  have hstays (id : UInt32) (schema : ParsedSchema)
      (h : (performAll registry steps
        ⟨.make keepsSchemas group, start⟩).serializer.schemas.get? id = some schema)
      (later : List (Step σ)) :
      (performAll registry (steps ++ later)
        ⟨.make keepsSchemas group, start⟩).serializer.schemas.get? id = some schema := by
    rw [performAll_append]
    exact get?_performAll registry later h
  constructor
  case off =>
      exact fun hoff => hproper steps ((keepsSchemas_performAll registry steps _).trans hoff)
  case right =>
    intro id schema h
    rw [← (hproper steps).kept? id] at h
    obtain ⟨receipt, hreceipt, hid, hparse⟩ :=
      stems_performAll registry steps keepsSchemas group start h
    have hdocument := ParsedSchema.document_of_parse hparse
    refine ⟨ParsedSchema.id_of_parse hparse, ?_, receipt, hreceipt, hid, hdocument.symm⟩
    rw [hdocument]
    exact ParsedSchema.parse?_of_parse hparse
  case stays => exact hstays
  case one => exact fun step => (step.learns registry _).eq_or_gains
  case fruitless =>
    intro step before hfruitless
    rcases (step.learns registry before).eq_or_gains with hsame | ⟨schema, hgains⟩
    · exact hsame
    · exact absurd hfruitless hgains.not_fruitless
  case learned =>
    intro hkeeps step before inquiry hmem id document schema hfound hschema
    exact (step.learns registry before).exists_get?
      ((keepsSchemas_performAll registry steps _).trans hkeeps) hmem hfound hschema
  case once =>
    intro id schema h later step answer hmem
    obtain ⟨-, -, -, hunkept⟩ := step.learns registry
      (performAll registry (steps ++ later) ⟨.make keepsSchemas group, start⟩)
    have hkept := hunkept id answer hmem
    rw [(hproper (steps ++ later)).kept? id, hstays id schema h later] at hkept
    contradiction

end Serializing

end FramedAvro
