import FramedAvro.Model.Samples
import FramedAvro.Proofs.Serializer.Receipts
import FramedAvro.Proofs.Serializer.RoundTrip

/-!
# Where messages come from

Every message starts with the id of the schema that it was written with. The schema may have been
kept by an earlier operation, on another path and after an answer of the registry that it would not
give again, so this rests on an invariant of whole runs: a schema that is kept under an id was
parsed from a document that the registry answered with for this id (`Serializing.Sourced`).

`Serializing.Triple` says of an action on a registry that notes what it does to receipts and to what
is kept, with a precondition on the receipts before it and a postcondition on its answer and the
receipts after it.

## Main definitions

* `Serializing.Sourced`: what is kept was answered for its id.
* `Writing`: an operation that writes a message.

## Main results

* `Serializing.sourced_performAll`: the invariant holds after every run.
* `Writing.decode_message`: the id and the payload of every message that is written.
-/

namespace FramedAvro

open Avro

variable {σ α β : Type}

/-- The registry answered for an id with a document that parses to a schema. -/
def Stems (receipts : List Receipt) (id : UInt32) (schema : ParsedSchema) : Prop :=
  ∃ receipt ∈ receipts, receipt.id = id ∧ ParsedSchema.parse id receipt.document = .ok schema

/-- More answers leave it so that a schema stems from one of them. -/
theorem Stems.append {receipts : List Receipt} {id : UInt32} {schema : ParsedSchema}
    (h : Stems receipts id schema) (added : List Receipt) :
    Stems (receipts ++ added) id schema := by
  obtain ⟨receipt, hreceipt, hid, hparse⟩ := h
  exact ⟨receipt, List.mem_append_left added hreceipt, hid, hparse⟩

/-! ### What a registry answers with -/

/-- An action adds receipts, which are as the postcondition says when it does not fail. -/
def Action.Receives (action : Action (Noted σ) α) (post : α → List Receipt → Prop) : Prop :=
  ∀ noted, ∃ added, (action.perform noted).2.receipts = noted.receipts ++ added ∧
    ∀ a, (action.perform noted).1 = .ok a → post a added

namespace Action.Receives

/-- An outcome that is there already receives nothing. -/
theorem ofOutcome (outcome : Outcome α) :
    Receives (Action.ofOutcome outcome : Action (Noted σ) α)
      fun a added => outcome = .ok a ∧ added = [] :=
  fun _ => ⟨[], (List.append_nil _).symm, fun _ h => ⟨h, rfl⟩⟩

/-- What is noted of an answer is what is received with it. -/
theorem note (receipts : α → List Receipt) (action : Action σ α) :
    Receives (action.note receipts) fun a added => added = receipts a := by
  intro noted
  refine ⟨receiptsOf receipts (action.perform noted.inner).1, rfl, fun a h => ?_⟩
  have hresult : (action.perform noted.inner).1 = .ok a := h
  rw [hresult, receiptsOf]

/-- What is known of answers and receipts may be said with less. -/
theorem mono {action : Action (Noted σ) α} {post post' : α → List Receipt → Prop}
    (h : Receives action post) (himp : ∀ a added, post a added → post' a added) :
    Receives action post' := by
  intro noted
  obtain ⟨added, hadded, hpost⟩ := h noted
  exact ⟨added, hadded, fun a ha => himp a added (hpost a ha)⟩

/-- Of two actions one after the other, the receipts of the second come after those of the first. -/
theorem bind {first : Action (Noted σ) α} {next : α → Action (Noted σ) β}
    {middle : α → List Receipt → Prop} {post : β → List Receipt → Prop}
    (h : Receives first middle)
    (h' : ∀ a, Receives (next a) fun b later => ∀ added, middle a added → post b (added ++ later)) :
    Receives (first >>= next) post := by
  intro noted
  obtain ⟨added, hadded, hmiddle⟩ := h noted
  rw [Action.perform_bind]
  rcases hfirst : first.perform noted with ⟨result, after⟩
  rw [hfirst] at hadded hmiddle
  cases result with
  | error failure => exact ⟨added, hadded, fun _ hfailure => by contradiction⟩
  | ok a =>
      obtain ⟨later, hlater, hpost⟩ := h' a after
      refine ⟨added ++ later, ?_, fun b hb => hpost b hb added (hmiddle a rfl)⟩
      rw [hlater, hadded, List.append_assoc]

end Action.Receives

/-- A lookup that finds a schema was answered with the latest version of one artifact. -/
theorem Registry.findSchema_receives (registry : Registry σ) (schema : String)
    (group : Option String) :
    (registry.noted.findSchema schema group).Receives fun found added =>
      ∃ coordinate, added = [.latest coordinate found.1 found.2] := by
  have hartifact : (registry.noted.findArtifact schema group).Receives
      fun _ added => added = [] := by
    refine (Action.Receives.note _ _).bind fun found => ?_
    cases found with
    | some coordinate =>
        refine (Action.Receives.ofOutcome (.ok (some coordinate))).mono
          fun _ later hlater added h => ?_
        rw [h, hlater.2, List.append_nil]
    | none =>
        refine (Action.Receives.note _ _).mono fun _ later hlater added h => ?_
        rw [h, hlater, List.append_nil]
  refine hartifact.bind fun found => ?_
  cases found with
  | none =>
      refine (Action.Receives.ofOutcome (.error (.failed noMatchingSchema))).mono
        fun _ later hfailure => ?_
      exact absurd hfailure.1 (by simp)
  | some coordinate =>
      refine (Action.Receives.note _ _).mono fun found later hlater added h => ⟨coordinate, ?_⟩
      rw [h, hlater, List.nil_append]

namespace Serializing

/-! ### What is kept -/

/-- Every schema that is kept under an id was parsed from a document that the registry answered with
for this id. -/
def Sourced (state : Serializing (Noted σ)) : Prop :=
  ∀ id schema, state.serializer.kept? id = some schema → Stems state.registry.receipts id schema

/-- A new serializer keeps nothing, so nothing without a source. -/
theorem sourced_noted_make (keepsSchemas : Bool) (group : Option String) (start : σ) :
    Sourced (noted ⟨.make keepsSchemas group, start⟩) := by
  intro id schema h
  cases keepsSchemas <;> simp [noted, Serializer.kept?, Serializer.make] at h

/-- From a state with the precondition on its receipts in which all that is kept is sourced, the
action leads to one in which all that is kept is sourced, with the postcondition unless it fails. -/
def Triple (pre : List Receipt → Prop) (action : Action (Serializing (Noted σ)) α)
    (post : α → List Receipt → Prop) : Prop :=
  ∀ state, state.Sourced → pre state.registry.receipts →
    (action.perform state).2.Sourced ∧
      ∀ a, (action.perform state).1 = .ok a → post a (action.perform state).2.registry.receipts

namespace Triple

variable {pre : List Receipt → Prop}

/-- An outcome that is there already changes nothing. -/
theorem ofOutcome (outcome : Outcome α) :
    Triple (σ := σ) pre (Action.ofOutcome outcome)
      fun a receipts => outcome = .ok a ∧ pre receipts :=
  fun _ hsourced hpre => ⟨hsourced, fun _ h => ⟨h, hpre⟩⟩

/-- An answer that asks nothing of the registry leaves everything as it is. -/
theorem silent (outcome : Outcome α) :
    Triple (σ := σ) pre (Action.ofOutcome outcome) fun _ _ => True :=
  fun _ hsourced _ => ⟨hsourced, fun _ _ => trivial⟩

/-- A value changes nothing. -/
theorem pure (a : α) : Triple (σ := σ) pre (Pure.pure a) fun _ _ => True :=
  silent (.ok a)

/-- A postcondition may be said with less. -/
theorem mono {action : Action (Serializing (Noted σ)) α} {post post' : α → List Receipt → Prop}
    (h : Triple pre action post) (himp : ∀ a receipts, post a receipts → post' a receipts) :
    Triple pre action post' :=
  fun state hsourced hpre => (h state hsourced hpre).imp id fun hpost a ha =>
    himp a _ (hpost a ha)

/-- What the first action leaves is what the second one starts with. -/
theorem bind {first : Action (Serializing (Noted σ)) α}
    {next : α → Action (Serializing (Noted σ)) β} {middle : α → List Receipt → Prop}
    {post : β → List Receipt → Prop} (h : Triple pre first middle)
    (h' : ∀ a, Triple (middle a) (next a) post) : Triple pre (first >>= next) post := by
  intro state hsourced hpre
  obtain ⟨hafter, hmiddle⟩ := h state hsourced hpre
  rw [Action.perform_bind]
  rcases hfirst : first.perform state with ⟨result, after⟩
  rw [hfirst] at hafter hmiddle
  cases result with
  | error failure => exact ⟨hafter, fun _ hfailure => by contradiction⟩
  | ok a => exact h' a after hafter (hmiddle a rfl)

/-- A boundary changes failures only, of which a postcondition says nothing. -/
theorem wrapping {action : Action (Serializing (Noted σ)) α} {post : α → List Receipt → Prop}
    (h : Triple pre action post) (kind : FailureKind) (pass : List FailureKind)
    (message : String) : Triple pre (Serializing.wrapping kind pass message action) post := by
  intro state hsourced hpre
  obtain ⟨hafter, hpost⟩ := h state hsourced hpre
  refine ⟨hafter, fun a ha => hpost a ?_⟩
  have hmapped : (action.perform state).1.mapError
      (Stop.mapFailure fun failure => failure.wrapUnless kind pass message) = .ok a := ha
  cases hresult : (action.perform state).1 with
  | error stop =>
      rw [hresult] at hmapped
      contradiction
  | ok b =>
      rw [hresult] at hmapped
      exact hmapped

/-- The group of the serializer may be any. -/
theorem lookupGroup {next : Option String → Action (Serializing (Noted σ)) α}
    {post : α → List Receipt → Prop} (h : ∀ group, Triple pre (next group) post) :
    Triple pre (get >>= fun state => next state.serializer.lookupGroup) post :=
  fun state => h state.serializer.lookupGroup state

/-- What the registry answers with is added to the receipts. -/
theorem ask {action : Action (Noted σ) α} {post : α → List Receipt → Prop}
    (h : action.Receives post) :
    Triple pre (Serializing.ask action) fun a receipts =>
      ∃ before added, pre before ∧ post a added ∧ receipts = before ++ added := by
  intro state hsourced hpre
  obtain ⟨added, hadded, hpost⟩ := h state.registry
  rw [Serializing.ask, Action.perform_onPart]
  refine ⟨fun id schema hkept => ?_, fun a ha => ⟨_, added, hpre, hpost a ha, hadded⟩⟩
  have hstems := (hsourced id schema hkept).append added
  rwa [← hadded] at hstems

/-- A document that the registry answered with is parsed, or a schema is there that is kept for its
id. -/
theorem parse {id : UInt32} {document : Document}
    (h : ∀ receipts, pre receipts → ∃ receipt ∈ receipts, receipt.id = id ∧
      receipt.document = document) :
    Triple (σ := σ) pre (Serializing.parse id document) fun schema receipts =>
      pre receipts ∧ Stems receipts id schema := by
  intro state hsourced hpre
  rw [perform_parse]
  cases hkept : state.serializer.kept? id with
  -- A schema that is kept counts before the document, and has a receipt of its own.
  | some schema =>
      refine ⟨hsourced, fun own hown => ⟨hpre, ?_⟩⟩
      obtain rfl := Except.ok.inj hown
      exact hsourced id schema hkept
  | none =>
      cases hparse : ParsedSchema.parse id document with
      | error failure => exact ⟨hsourced, fun _ hfailure => by contradiction⟩
      | ok schema =>
          obtain ⟨receipt, hreceipt, hid, rfl⟩ := h _ hpre
          have hstems : Stems state.registry.receipts id schema := ⟨receipt, hreceipt, hid, hparse⟩
          refine ⟨fun other own hown => ?_, fun own hown => ⟨hpre, ?_⟩⟩
          · have hkeep : (state.serializer.keep schema).kept? other = some own := hown
            rw [Serializer.kept?_keep, ParsedSchema.id_of_parse hparse] at hkeep
            split at hkeep
            · next hboth =>
                obtain rfl := Option.some.inj hkeep
                rw [hboth.2]
                exact hstems
            · exact hsourced other own hkeep
          · obtain rfl := Except.ok.inj hown
            exact hstems

/-- The schema of an id stems from a document that was answered for it. -/
theorem schemaOf (registry : Registry σ) (id : UInt32) :
    Triple pre (Serializing.schemaOf registry.noted id) fun schema receipts =>
      Stems receipts id schema := by
  have hfetched : Triple pre (Serializing.ask (registry.noted.fetchById id) >>=
      Serializing.parse id) fun schema receipts => Stems receipts id schema := by
    refine (ask (Action.Receives.note (fun document => [.byId id document])
      (registry.fetchById id))).bind fun document => (parse ?_).mono fun _ _ h => h.2
    rintro receipts ⟨before, added, -, rfl, rfl⟩
    exact ⟨.byId id document, by simp, rfl, rfl⟩
  intro state hsourced hpre
  rw [perform_schemaOf]
  cases hkept : state.serializer.kept? id with
  | some schema =>
      refine ⟨hsourced, fun own hown => ?_⟩
      obtain rfl := Except.ok.inj hown
      exact hsourced id schema hkept
  | none => exact hfetched state hsourced hpre

/-- Opening a message keeps what is kept sourced. -/
theorem openMessage (registry : Registry σ) (message : Bytes) :
    Triple pre (Serializing.openMessage registry.noted message) fun _ _ => True :=
  (ofOutcome _).bind fun frame => (schemaOf registry frame.1).bind fun _ =>
    pure _

end Triple

end Serializing

/-! ### Messages -/

/-- An item is written by writing its value. -/
theorem ParsedSchema.frameItem_eq_ok {schema : ParsedSchema} {model : Model α} {item : α}
    {message : Bytes} (h : schema.frameItem model item = .ok message) :
    ∃ v, model.toValue item = some v ∧ schema.frameValue v = .ok message := by
  rw [frameItem] at h
  split at h
  · next v hv => exact ⟨v, hv, h⟩
  · contradiction

/-- An operation that writes a message. -/
inductive Writing : Type 1
  | item {α : Type} (model : Model α) (item : α) (id : Option UInt32)
  | value (v : Value) (id : UInt32)

namespace Writing

/-- The operation of a serializer. -/
def operation : Writing → Operation Bytes
  | item model i id => .serialize model i id
  | value v id => .serializeValue v id

/-- The id that is given for the schema, unless the schema is to be looked up. -/
def id? : Writing → Option UInt32
  | item _ _ id => id
  | value _ id => some id

/-- The value that is written. An item may have none. -/
def value? : Writing → Option Value
  | item model i _ => model.toValue i
  | value v _ => some v

/-- The id is the one that was given, or else the one that the registry answered with last, as the
id of the latest version of an artifact. -/
def Names (writing : Writing) (before after : List Receipt) (id : UInt32) : Prop :=
  match writing.id? with
  | some own => id = own
  | none => ∃ coordinate document, after = before ++ [.latest coordinate id document]

/-- The payload is the encoding of the value, resolved against the schema of a document. -/
def Encodes (writing : Writing) (document : Document) (payload : Bytes) : Prop :=
  ∃ schema v resolved, Schema.parse? document.text = .ok schema ∧ writing.value? = some v ∧
    schema.resolve? v = .ok resolved ∧ schema.encode? resolved = .ok payload

/-- A message is the frame of the id that is named and of an encoding for a document that the
registry answered with for this id, where `before` and `after` are its answers so far. -/
def Carries (writing : Writing) (before after : List Receipt) (message : Bytes) : Prop :=
  ∃ id payload, Frame.decode message = .ok (id, payload) ∧ writing.Names before after id ∧
    ∃ receipt ∈ after, receipt.id = id ∧ writing.Encodes receipt.document payload

/-- What is framed with a schema that stems from an answer for the named id is such a message. -/
theorem carries_of_frameValue {writing : Writing} {before after : List Receipt} {id : UInt32}
    {schema : ParsedSchema} {v : Value} {message : Bytes} (hstems : Stems after id schema)
    (hnames : writing.Names before after id) (hv : writing.value? = some v)
    (hframe : schema.frameValue v = .ok message) : writing.Carries before after message := by
  obtain ⟨receipt, hreceipt, hid, hparse⟩ := hstems
  obtain ⟨resolved, payload, hresolved, hpayload, rfl⟩ := ParsedSchema.frameValue_eq_ok hframe
  refine ⟨id, payload, ?_, hnames, receipt, hreceipt, hid, schema.schema, v, resolved,
    ParsedSchema.parse?_of_parse hparse, hv, hresolved, hpayload⟩
  rw [Frame.decode_encode, ParsedSchema.id_of_parse hparse]

/-- An item that is written with the schema of an id. -/
theorem triple_itemById (registry : Registry σ) (model : Model α) (i : α) (id : UInt32)
    (before : List Receipt) :
    Serializing.Triple (· = before)
      (Serializing.serializeById registry.noted model i id)
      fun message after => (item model i (some id)).Carries before after message := by
  refine Serializing.Triple.wrapping ((Serializing.Triple.schemaOf registry id).bind fun schema =>
    (Serializing.Triple.ofOutcome _).mono fun message after h => ?_) _ _ _
  obtain ⟨hframe, hstems⟩ := h
  obtain ⟨v, hv, hvalue⟩ := ParsedSchema.frameItem_eq_ok hframe
  exact carries_of_frameValue hstems rfl hv hvalue

/-- A value that is written with the schema of an id. -/
theorem triple_value (registry : Registry σ) (v : Value) (id : UInt32) (before : List Receipt) :
    Serializing.Triple (· = before) (Serializing.serializeValue registry.noted v id)
      fun message after => (value v id).Carries before after message := by
  refine Serializing.Triple.wrapping ((Serializing.Triple.schemaOf registry id).bind fun schema =>
    (Serializing.Triple.ofOutcome _).mono fun message after h => ?_) _ _ _
  exact carries_of_frameValue h.2 rfl rfl h.1

/-- An item that is written with the schema that is found for its model. -/
theorem triple_itemByLookup (registry : Registry σ) (model : Model α) (i : α)
    (before : List Receipt) :
    Serializing.Triple (· = before) (Serializing.serializeByLookup registry.noted model i)
      fun message after => (item model i none).Carries before after message := by
  have hwrite (group : Option String) : Serializing.Triple (· = before)
      (Serializing.ask (registry.noted.findSchema model.schema group) >>= fun found =>
        Serializing.parse found.1 found.2 >>= fun schema =>
          Action.ofOutcome (schema.frameItem model i))
      fun message after => (item model i none).Carries before after message := by
    refine (Serializing.Triple.ask (registry.findSchema_receives _ _)).bind fun found =>
      (Serializing.Triple.parse ?_).bind fun schema =>
        (Serializing.Triple.ofOutcome _).mono fun message after h => ?_
    · rintro receipts ⟨_, added, rfl, ⟨coordinate, rfl⟩, rfl⟩
      exact ⟨.latest coordinate found.1 found.2, by simp, rfl, rfl⟩
    · obtain ⟨hframe, ⟨_, added, rfl, ⟨coordinate, rfl⟩, hafter⟩, hstems⟩ := h
      obtain ⟨v, hv, hvalue⟩ := ParsedSchema.frameItem_eq_ok hframe
      exact carries_of_frameValue hstems ⟨coordinate, found.2, hafter⟩ hv hvalue
  exact (Serializing.Triple.lookupGroup hwrite).wrapping _ _ _

/-- Whatever the registry answers, what is written carries the id that is named. -/
theorem triple (registry : Registry σ) (writing : Writing) (before : List Receipt) :
    Serializing.Triple (· = before) (writing.operation.action registry.noted)
      fun message after => writing.Carries before after message := by
  cases writing with
  | value v id => exact triple_value registry v id before
  | item model i id =>
      cases id with
      | some id => exact triple_itemById registry model i id before
      | none => exact triple_itemByLookup registry model i before

end Writing

/-! ### Runs -/

/-- Every operation keeps what is kept sourced. -/
theorem Operation.sourced (registry : Registry σ) (operation : Operation β)
    {state : Serializing (Noted σ)} (h : state.Sourced) :
    ((operation.action registry.noted).perform state).2.Sourced := by
  have hopened (message : Bytes) : Serializing.Triple (fun _ => True)
      (Serializing.openMessage registry.noted message) fun _ _ => True :=
    Serializing.Triple.openMessage registry message
  cases operation with
  | serialize model item id =>
      exact ((Writing.item model item id).triple registry _ state h rfl).1
  | serializeValue v id => exact ((Writing.value v id).triple registry _ state h rfl).1
  | deserialize model message =>
      exact (((hopened message).bind fun _ => (Serializing.Triple.silent _).bind fun _ =>
        (Serializing.Triple.silent _).bind fun _ =>
          Serializing.Triple.silent _).wrapping _ _ _ state h trivial).1
  | deserializeWithSchema model message =>
      exact (((hopened message).bind fun _ => (Serializing.Triple.silent _).bind fun _ =>
        (Serializing.Triple.silent _).bind fun _ =>
          Serializing.Triple.pure _).wrapping _ _ _ state h trivial).1
  | deserializeValue message =>
      exact (((hopened message).bind fun _ => (Serializing.Triple.silent _).bind fun _ =>
        Serializing.Triple.pure _).wrapping _ _ _ state h trivial).1

namespace Serializing

/-- A step of a run, of the registry or of the serializer, keeps everything sourced. -/
theorem Step.sourced (registry : Registry σ) (step : Step σ) {state : Serializing (Noted σ)}
    (h : state.Sourced) : (step.noted.next registry.noted state).Sourced := by
  cases step with
  | operate operation => exact operation.sourced registry h
  | registerSchema coordinate => exact h
  | change become => exact h

/-- In every run, all that is kept is sourced. -/
theorem sourced_performAll (registry : Registry σ) (steps : List (Step σ))
    {state : Serializing (Noted σ)} (h : state.Sourced) :
    (performAll registry.noted (steps.map Step.noted) state).Sourced := by
  induction steps generalizing state with
  | nil => exact h
  | cons step rest ih => exact ih (step.sourced registry h)

end Serializing

namespace Writing

open Serializing

/-- After any run of a serializer on any registry, a message that is written starts with the id that
was given or found, and the rest of it is the encoding of the value for a document that the registry
answered with for this id, in this operation or before. -/
theorem decode_message (registry : Registry σ) (keepsSchemas : Bool) (group : Option String)
    (start : σ) (steps : List (Step σ)) (writing : Writing) {message : Bytes}
    (h : ((writing.operation.action registry).perform
      (performAll registry steps ⟨.make keepsSchemas group, start⟩)).1 = .ok message) :
    writing.Carries (receipts registry steps ⟨.make keepsSchemas group, start⟩)
      (receipts registry (steps ++ [.operate writing.operation]) ⟨.make keepsSchemas group, start⟩)
      message := by
  have hsourced := sourced_performAll registry steps (sourced_noted_make keepsSchemas group start)
  have hforget := forget_performAll registry steps (noted ⟨.make keepsSchemas group, start⟩)
  have hafter : receipts registry (steps ++ [.operate writing.operation])
      ⟨.make keepsSchemas group, start⟩ = ((writing.operation.action registry.noted).perform
        (performAll registry.noted (steps.map Step.noted)
          (noted ⟨.make keepsSchemas group, start⟩))).2.registry.receipts := by
    rw [receipts, performAll, List.map_append, List.foldl_append]
    rfl
  have hplain : (noted (⟨.make keepsSchemas group, start⟩ : Serializing σ)).forget =
      ⟨.make keepsSchemas group, start⟩ := rfl
  -- The run that notes answers as the plain one, so the triple for it speaks about this message.
  rw [hplain] at hforget
  rw [← hforget, writing.operation.forgets registry] at h
  rw [hafter]
  exact (writing.triple registry _ _ hsourced rfl).2 message h

/-- A registry that answers every question for a document, in turns with an int and with a long. -/
def fickle : Registry Bool where
  fetchById _ := .update fun turn => .ok (.bare (.string (if turn then "int" else "long")), !turn)
  fetchLatest _ :=
    .update fun turn => .ok ((7, .bare (.string (if turn then "int" else "long"))), !turn)
  findByContent _ _ := .answer fun _ => .ok (some ⟨"shop", "order"⟩)
  findByFingerprint _ _ := .answer fun _ => .ok none
  register _ _ _ := .answer fun _ => .ok 7
  checkExists _ := .answer fun _ => .ok true

/-- A value is written with the int of an id, and the registry is disturbed. -/
def intThenDisturbed : List (Step Bool) :=
  [.operate (.serializeValue (.int 1) 7), .change fun _ => false]

/-- A registry that answers differently later on: the message was encoded with the schema that it
answered with for the id, not with the one that is latest in the end. -/
theorem decode_message_fickle :
    (((Writing.item Sample.long 5 none).operation.action fickle).perform
        (performAll fickle intThenDisturbed ⟨.make true none, true⟩)).1 =
          .ok [0, 0, 0, 0, 7, 10] ∧
      (Writing.item Sample.long 5 none).Carries
        [.byId 7 (.bare (.string "int"))]
        [.byId 7 (.bare (.string "int")),
          .latest ⟨"shop", "order"⟩ 7 (.bare (.string "long"))]
        [0, 0, 0, 0, 7, 10] := by
  have h : (((Writing.item Sample.long 5 none).operation.action fickle).perform
      (performAll fickle intThenDisturbed ⟨.make true none, true⟩)).1 =
        .ok [0, 0, 0, 0, 7, 10] := by cbv
  have hbefore : receipts fickle intThenDisturbed ⟨.make true none, true⟩ =
      [.byId 7 (.bare (.string "int"))] := by cbv
  have hafter : receipts fickle
      (intThenDisturbed ++ [.operate (Writing.item Sample.long 5 none).operation])
      ⟨.make true none, true⟩ = [.byId 7 (.bare (.string "int")),
        .latest ⟨"shop", "order"⟩ 7 (.bare (.string "long"))] := by cbv
  have hcarries := decode_message fickle true none true intThenDisturbed
    (Writing.item Sample.long 5 none) h
  rw [hbefore, hafter] at hcarries
  exact ⟨h, hcarries⟩

end Writing

end FramedAvro
