import FramedAvro.Proofs.Json.RoundTrip
import FramedAvro.Proofs.Registry.Remote.Answer
import FramedAvro.Proofs.Registry.Remote.Sending
import FramedAvro.Proofs.Registry.Remote.Session

/-!
# Registering at a remote registry

A schema is registered with one call or with two: the artifact is posted, and a version of it if
that failed with a conflict in the end. Which attempt of the call met the conflict matters: one at
an earlier URL is forgotten when a later URL answers something else, and only the last of all says
what follows. After the second call nothing follows, so a second conflict is a failure.

The two answers have different forms. The id is read from the last answer that was received, and a
success that names no id is a failure that will not pass.

## Main definitions

* `Exchange.Succeeds`: an answer that is a success, with its body.
* `Remote.Registers`: what a registration sends and answers.

## Main results

* `Remote.perform_register`, `Remote.perform_registerVersion`: registrations by their calls.
* `Remote.names_of_reads`: what a body names is what its member says, whatever the others hold.
* `Remote.registers`: every registration over any transport.
-/

namespace FramedAvro

/-- The request was answered with success and this body. -/
def Exchange.Succeeds (exchange : Exchange) (body : String) : Prop :=
  ∃ reply, exchange.reply = some reply ∧ Http.Status.isSuccess reply.status = true ∧
    reply.text? = some body

/-- The request is one of a call. -/
def Exchange.IsOf (settings : RemoteSettings) (call : RemoteCall) (exchange : Exchange) : Prop :=
  ∃ base ∈ settings.urls, ∃ url, call.url base = .ok url ∧
    exchange.request = Http.Request.make url settings.authorization settings.headers call.body?

namespace Remote

variable {τ : Type}

/-! ### Answers -/

/-- An exchange is judged a success exactly if it has one. -/
theorem judge_eq_ok_iff {exchange : Exchange} {body : String} :
    judge exchange.reply = .ok body ↔ exchange.Succeeds body := by
  rw [Exchange.Succeeds, judge.eq_def]
  cases exchange.reply with
  | none => simp
  | some reply =>
      by_cases hsuccess : Http.Status.isSuccess reply.status = true
      · cases htext : reply.text? <;> simp [hsuccess, htext]
      · simp [hsuccess]

/-- A call in which an exchange succeeds comes to the body of it. -/
theorem Makes.result_eq_of_succeeds {settings : RemoteSettings} {call : RemoteCall}
    {result : Except CallFailure String} {exchanges : List Exchange}
    (h : Makes settings call result exchanges) {exchange : Exchange} (hmem : exchange ∈ exchanges)
    {body : String} (hsucceeds : exchange.Succeeds body) : result = .ok body := by
  have hbody : exchange.body? = some body := by
    rw [Exchange.body?, judge_eq_ok_iff.2 hsucceeds]
    rfl
  have hown := List.mem_filterMap.2 ⟨exchange, hmem, hbody⟩
  rw [h.bodies] at hown
  cases result with
  | ok own => rw [List.mem_singleton.1 hown]
  | error failure => contradiction

/-- A call comes to a body exactly if its last exchange succeeded with it. -/
theorem ending_eq_ok_iff {transport : Http.Transport τ} {settings : RemoteSettings}
    {call : RemoteCall} {state : τ} {body : String} :
    (∃ exchange, (ending transport settings call state).exchanges.getLast? = some exchange ∧
        exchange.Succeeds body) ↔
      (ending transport settings call state).result = .ok body := by
  constructor
  · rintro ⟨exchange, hlast, hsucceeds⟩
    exact (makes_ending transport settings call state).result_eq_of_succeeds
      (List.mem_of_getLast? hlast) hsucceeds
  · intro hok
    obtain ⟨exchange, hlast, hjudged⟩ := exists_last_of_ending hok fun _ => nofun
    exact ⟨exchange, hlast, judge_eq_ok_iff.1 hjudged⟩

/-- An answer with the status of a conflict is a failure that will not pass. -/
theorem judge_conflict {reply : Option Http.Reply} {failure : CallFailure}
    (h : judge reply = .error failure) (hconflict : failure.status = some Http.Status.conflict) :
    failure.failure.kind = .registry ∧ failure.failure.retriable = false := by
  have hfails : Fails "" failure := fails_of_judge h
  cases hfails with
  | refused status detail =>
      obtain rfl := Option.some.inj hconflict
      exact ⟨rfl, rfl⟩
  | _ => contradiction

/-- A call that ends in a conflict fails with a failure of the registry that will not pass. -/
theorem ending_conflict {transport : Http.Transport τ} {settings : RemoteSettings}
    {call : RemoteCall} {state : τ} {failure : CallFailure}
    (h : (ending transport settings call state).result = .error failure)
    (hconflict : failure.status = some Http.Status.conflict) :
    failure.failure.kind = .registry ∧ failure.failure.retriable = false := by
  obtain ⟨exchange, -, hjudged⟩ := exists_last_of_status h hconflict
  exact judge_conflict hjudged hconflict

/-- A call failed with a conflict in the end. -/
def Ending.conflicts (ending : Ending τ) : Bool :=
  match ending.result with
  | .ok _ => false
  | .error failure => failure.status = some Http.Status.conflict

/-- An ending is a conflict exactly if the failure has the status of one. -/
theorem Ending.conflicts_iff {ending : Ending τ} :
    ending.conflicts = true ↔ ∃ failure, ending.result = .error failure ∧
      failure.status = some Http.Status.conflict := by
  rw [conflicts]
  cases ending.result <;> simp

/-! ### The calls of a registration -/

/-- The call that creates an artifact. -/
def artifactCall (coordinate : Coordinate) (schema : String) (type : ArtifactType) : RemoteCall :=
  .postArtifact coordinate.group (createArtifactBody coordinate.name type schema)

/-- The call that creates a version of an artifact. -/
def versionCall (coordinate : Coordinate) (schema : String) : RemoteCall :=
  .postVersion coordinate (createVersionBody schema)

/-- What posts an artifact posts no version. -/
theorem body?_artifactCall_ne (coordinate : Coordinate) (schema : String) (type : ArtifactType) :
    (artifactCall coordinate schema type).body? ≠ (versionCall coordinate schema).body? := by
  intro h
  have hbodies := Json.text_injective (Option.some.inj h)
  simp at hbodies

/-- What a registration answers when a call ends: the id that is read in a body. -/
def registered (coordinate : Coordinate) (read : String → Except Failure (Option UInt32)) :
    Except CallFailure String → Outcome UInt32
  | .error failure => .error (.failed failure.failure)
  | .ok body =>
    match read body with
    | .ok (some id) => .ok id
    | .ok none => .error (.failed (noRegisteredId coordinate))
    | .error failure => .error (.failed failure)

/-- A registration comes to an id exactly if the call has a body that names the id. -/
theorem registered_eq_ok_iff {coordinate : Coordinate}
    {read : String → Except Failure (Option UInt32)} {result : Except CallFailure String}
    {id : UInt32} :
    registered coordinate read result = .ok id ↔
      ∃ body, result = .ok body ∧ read body = .ok (some id) := by
  cases result with
  | error failure => simp [registered]
  | ok body =>
      rw [registered]
      rcases hread : read body with failure | _ | own <;> simp [hread]

/-! ### What a registration does -/

/-- The same documents with the transport as a call left it. -/
def after (remote : Remote τ) (ending : Ending τ) : Remote τ :=
  ⟨remote.documents, ending.transport⟩

section Calls

variable (transport : Http.Transport τ) (settings : RemoteSettings)

/-- A call whose failure is an answer. -/
theorem perform_call (call : RemoteCall) (remote : Remote τ) :
    Action.perform (ExceptT.lift (lift (performWithStatus transport settings call))) remote =
      (.ok (ending transport settings call remote.transport).result,
        remote.after (ending transport settings call remote.transport)) := by
  have hrun := run_performWithStatus transport settings call remote.transport
  change (Except.ok ((performWithStatus transport settings call).run remote.transport).1,
    Remote.mk remote.documents
      ((performWithStatus transport settings call).run remote.transport).2) = _
  rw [hrun]
  rfl

variable (coordinate : Coordinate) (schema : String) (type : ArtifactType) (remote : Remote τ)

/-- How the call that creates a version ends. -/
def versioning : Ending τ :=
  ending transport settings (versionCall coordinate schema) remote.transport

/-- How the call that creates an artifact ends. -/
def posting : Ending τ :=
  ending transport settings (artifactCall coordinate schema type) remote.transport

/-- Registering a version comes to what its one call does, and leaves what the call leaves. -/
theorem perform_registerVersion :
    (registerVersion transport settings coordinate schema).perform remote =
      (registered coordinate Answer.versionId
          (versioning transport settings coordinate schema remote).result,
        remote.after (versioning transport settings coordinate schema remote)) := by
  have hcall : perform transport settings (versionCall coordinate schema) =
      ExceptT.lift (lift (performWithStatus transport settings (versionCall coordinate schema))) >>=
        fun result => Action.ofExcept (result.mapError CallFailure.failure) := rfl
  rw [registerVersion, ← versionCall, hcall, Action.perform_bind, Action.perform_bind,
    perform_call, ← versioning]
  rcases (versioning transport settings coordinate schema remote).result with failure | body
  · rfl
  · simp only [Except.mapError, registered, Action.perform_bind, Action.perform_ofExcept,
      Outcome.ofExcept_ok]
    rcases Answer.versionId body with failure | _ | id <;> rfl

/-- After a conflict a registration does what registering a version does, with the transport as the
first call left it. -/
theorem perform_register :
    (register transport settings coordinate schema type).perform remote =
      if (posting transport settings coordinate schema type remote).conflicts then
        (registerVersion transport settings coordinate schema).perform
          (remote.after (posting transport settings coordinate schema type remote))
      else
        (registered coordinate Answer.createdId
            (posting transport settings coordinate schema type remote).result,
          remote.after (posting transport settings coordinate schema type remote)) := by
  rw [register, ← artifactCall, Action.perform_bind, perform_call, ← posting, Ending.conflicts]
  dsimp only
  rcases (posting transport settings coordinate schema type remote).result with failure | body
  · dsimp only
    by_cases hconflict : failure.status = some Http.Status.conflict
    · rw [if_pos hconflict, if_pos (decide_eq_true hconflict)]
    · rw [if_neg hconflict, if_neg (by simpa using hconflict)]
      rfl
  · simp only [registered, Action.perform_bind, Action.perform_ofExcept]
    rcases Answer.createdId body with failure | _ | id <;> rfl

/-- The call that a registration ends with. -/
def final : Ending τ :=
  if (posting transport settings coordinate schema type remote).conflicts then
    versioning transport settings coordinate schema
      (remote.after (posting transport settings coordinate schema type remote))
  else posting transport settings coordinate schema type remote

/-- How a registration reads the id. -/
def reader (conflicts : Bool) : String → Except Failure (Option UInt32) :=
  if conflicts then Answer.versionId else Answer.createdId

/-- A registration answers what is read from the answer to its last call, and leaves the transport
as that call left it. -/
theorem perform_register_eq_final :
    (register transport settings coordinate schema type).perform remote =
      (registered coordinate
          (reader (posting transport settings coordinate schema type remote).conflicts)
          (final transport settings coordinate schema type remote).result,
        remote.after (final transport settings coordinate schema type remote)) := by
  rw [perform_register, final, reader]
  split
  · rw [perform_registerVersion]
    rfl
  · rfl

/-- Registering a version exchanges what its one call does. -/
theorem exchanges_registerVersion :
    (Operation.registerVersion coordinate schema).exchanges transport settings remote =
      (versioning transport settings coordinate schema remote).exchanges := by
  have hlogged := (ending_logged transport settings (versionCall coordinate schema)
    ⟨remote.transport, []⟩).2
  rw [Operation.exchanges, Operation.action, perform_registerVersion]
  exact congrArg Logged.log hlogged

/-- Registering an artifact exchanges what its call does, and after a conflict what registering a
version does from there on. -/
theorem exchanges_register :
    (Operation.register coordinate schema type).exchanges transport settings remote =
      (posting transport settings coordinate schema type remote).exchanges ++
        if (posting transport settings coordinate schema type remote).conflicts then
          (versioning transport settings coordinate schema
            (remote.after (posting transport settings coordinate schema type remote))).exchanges
        else [] := by
  obtain ⟨hresult, htransport⟩ := ending_logged transport settings
    (artifactCall coordinate schema type) ⟨remote.transport, []⟩
  have hconflicts : (posting transport.logged settings coordinate schema type
      ⟨remote.documents, ⟨remote.transport, []⟩⟩).conflicts =
        (posting transport settings coordinate schema type remote).conflicts := by
    rw [Ending.conflicts, Ending.conflicts, posting, hresult]
    rfl
  have hafter : Remote.after ⟨remote.documents, ⟨remote.transport, []⟩⟩
      (posting transport.logged settings coordinate schema type
        ⟨remote.documents, ⟨remote.transport, []⟩⟩) =
      ⟨remote.documents, ⟨(posting transport settings coordinate schema type remote).transport,
        (posting transport settings coordinate schema type remote).exchanges⟩⟩ :=
    congrArg (Remote.mk remote.documents) htransport
  rw [Operation.exchanges, Operation.action, perform_register, hconflicts, hafter]
  split
  · rw [perform_registerVersion]
    exact congrArg Logged.log (ending_logged transport settings (versionCall coordinate schema)
      ⟨_, (posting transport settings coordinate schema type remote).exchanges⟩).2
  · exact (List.append_nil _).symm

/-- A body names an id, in what is wanted of it: in the form of a new artifact, or of a version
after a conflict. -/
def Names (conflicts : Bool) (id : UInt32) (body : String) : Prop :=
  if conflicts then
    ∃ j, Json.parseWanted? Answer.versionWanted body = some j ∧ Answer.NamesVersion id j
  else ∃ j, Json.parseWanted? Answer.createdWanted body = some j ∧ Answer.NamesCreated id j

/-- A body that is JSON, however deep, names the id that its value names. -/
theorem names_of_reads {conflicts : Bool} {id : UInt32} {body : String} {j : Json}
    (h : Json.Reads body j)
    (hid : if conflicts then Answer.NamesVersion id j else Answer.NamesCreated id j) :
    Names conflicts id body := by
  cases conflicts with
  | true =>
      have hshallow : (j.only Answer.versionWanted).depth ≤ Json.maxDepth := by
        rw [Answer.NamesVersion.depth_only hid]
        decide
      exact ⟨_, Json.parseWanted?_of_reads h hshallow, Answer.namesVersion_only_iff.2 hid⟩
  | false =>
      have hshallow : (j.only Answer.createdWanted).depth ≤ Json.maxDepth := by
        rw [Answer.NamesCreated.depth_only hid]
        decide
      exact ⟨_, Json.parseWanted?_of_reads h hshallow, Answer.namesCreated_only_iff.2 hid⟩

/-- A body that can be read as a whole names no other id than its value does. -/
theorem names_iff_of_parse? {conflicts : Bool} {id : UInt32} {body : String} {j : Json}
    (h : Json.parse? body = some j) : Names conflicts id body ↔
      if conflicts then Answer.NamesVersion id j else Answer.NamesCreated id j := by
  refine ⟨fun hnames => ?_, names_of_reads (Json.parse?_eq_some_iff.1 h).1⟩
  cases conflicts with
  | true =>
      obtain ⟨own, hown, hid⟩ := hnames
      obtain rfl := Option.some.inj ((Json.parseWanted?_of_parse? h).symm.trans hown)
      exact Answer.namesVersion_only_iff.1 hid
  | false =>
      obtain ⟨own, hown, hid⟩ := hnames
      obtain rfl := Option.some.inj ((Json.parseWanted?_of_parse? h).symm.trans hown)
      exact Answer.namesCreated_only_iff.1 hid

/-- A body names an id beside a text that is not JSON: half of a pair of escapes is in it. -/
example : Names true 7 "\x7b\"globalId\":7,\"name\":\"\\ud800\"\x7d" :=
  Answer.versionId_eq_some_iff.1 (by decide +kernel)

/-- What went over the transport ends with the exchanges of the last call, and a call before it
failed. -/
theorem getLast?_exchanges_iff {body : String} :
    (∃ exchange, ((Operation.register coordinate schema type).exchanges transport settings
        remote).getLast? = some exchange ∧ exchange.Succeeds body) ↔
      (final transport settings coordinate schema type remote).result = .ok body := by
  rw [exchanges_register, final]
  split
  case isTrue hconflicts =>
    obtain ⟨failure, hfailure, -⟩ := Ending.conflicts_iff.1 hconflicts
    constructor
    · rintro ⟨exchange, hlast, hsucceeds⟩
      rcases List.mem_append.1 (List.mem_of_getLast? hlast) with hfirst | hsecond
      · have hok := (makes_ending transport settings _ _).result_eq_of_succeeds hfirst hsucceeds
        rw [← posting, hfailure] at hok
        contradiction
      · exact (makes_ending transport settings _ _).result_eq_of_succeeds hsecond hsucceeds
    · intro hok
      obtain ⟨exchange, hlast, hsucceeds⟩ := ending_eq_ok_iff.2 hok
      refine ⟨exchange, ?_, hsucceeds⟩
      rw [List.getLast?_append, versioning, hlast]
      rfl
  case isFalse =>
    rw [List.append_nil]
    exact ending_eq_ok_iff

/-- After a conflict a version is sent, since the artifact was: both go to the same server. -/
theorem versioning_exchanges_ne_nil {other : Remote τ}
    (h : (posting transport settings coordinate schema type remote).conflicts = true) :
    (versioning transport settings coordinate schema other).exchanges ≠ [] := by
  obtain ⟨failure, hfailure, hstatus⟩ := Ending.conflicts_iff.1 h
  obtain ⟨exchange, hlast, -⟩ := exists_last_of_status hfailure hstatus
  obtain ⟨base, hbase, hsends⟩ := ending_exchanges_ne_nil_iff.1
    (List.ne_nil_of_mem (List.mem_of_getLast? hlast))
  have hartifact : (artifactCall coordinate schema type).body?.isSome = true := rfl
  have hversion : (versionCall coordinate schema).body?.isSome = true := rfl
  exact ending_exchanges_ne_nil_iff.2
    ⟨base, hbase, sends_congr (hartifact.trans hversion.symm) hsends⟩

/-- A read that fails fails for good. -/
theorem registered_error {coordinate : Coordinate} {conflicts : Bool} {body : String}
    (h : ∀ id, reader conflicts body ≠ .ok (some id)) :
    ∃ failure, registered coordinate (reader conflicts) (.ok body) = .error (.failed failure) ∧
      failure.kind = .registry ∧ failure.retriable = false := by
  rw [registered]
  rcases hread : reader conflicts body with failure | _ | id
  · refine ⟨failure, rfl, ?_⟩
    cases conflicts <;>
      · obtain rfl := Answer.eq_unreadable_of_read hread
        exact ⟨rfl, rfl⟩
  · exact ⟨noRegisteredId coordinate, rfl, rfl, rfl⟩
  · exact absurd hread (h id)

/-- Whether or not there was a conflict, the id that is read is the one that the body names. -/
theorem reader_eq_some_iff {conflicts : Bool} {id : UInt32} {body : String} :
    reader conflicts body = .ok (some id) ↔ Names conflicts id body := by
  cases conflicts
  · exact Answer.createdId_eq_some_iff
  · exact Answer.versionId_eq_some_iff

/-! ### What a registration sends -/

/-- All that posting the artifact sends is of this call. -/
theorem isOf_posting :
    ∀ exchange ∈ (posting transport settings coordinate schema type remote).exchanges,
      exchange.IsOf settings (artifactCall coordinate schema type) :=
  (makes_ending transport settings (artifactCall coordinate schema type) remote.transport).requests

/-- All that posting a version sends is of this call. -/
theorem isOf_versioning :
    ∀ exchange ∈ (versioning transport settings coordinate schema remote).exchanges,
      exchange.IsOf settings (versionCall coordinate schema) :=
  (makes_ending transport settings (versionCall coordinate schema) remote.transport).requests

/-- A version is posted exactly after a conflict: the bodies of the two calls differ. -/
theorem exists_isOf_versionCall_iff :
    (∃ exchange ∈ (Operation.register coordinate schema type).exchanges transport settings remote,
        exchange.IsOf settings (versionCall coordinate schema)) ↔
      (posting transport settings coordinate schema type remote).conflicts = true := by
  rw [exchanges_register]
  constructor
  · rintro ⟨exchange, hmem, base, -, url, -, hrequest⟩
    by_contra hconflicts
    rw [if_neg hconflicts, List.append_nil] at hmem
    obtain ⟨_, -, _, -, hown⟩ :=
      isOf_posting transport settings coordinate schema type remote exchange hmem
    exact body?_artifactCall_ne coordinate schema type
      (congrArg Http.Request.body (hown.symm.trans hrequest))
  · intro hconflicts
    rw [if_pos hconflicts]
    obtain ⟨exchange, hmem⟩ := List.exists_mem_of_ne_nil _
      (versioning_exchanges_ne_nil transport settings coordinate schema type remote hconflicts)
    exact ⟨exchange, List.mem_append_right _ hmem,
      isOf_versioning transport settings coordinate schema _ exchange hmem⟩

/-! ### What a registration answers -/

/-- What the last call fails with is what the registration fails with. -/
theorem perform_register_fails {failure : CallFailure}
    (h : (final transport settings coordinate schema type remote).result = .error failure) :
    ((register transport settings coordinate schema type).perform remote).1 =
      .error (.failed failure.failure) := by
  rw [perform_register_eq_final, h]
  rfl

/-- A last call that fails with a conflict fails for good. -/
theorem final_conflict {failure : CallFailure}
    (h : (final transport settings coordinate schema type remote).result = .error failure)
    (hconflict : failure.status = some Http.Status.conflict) :
    failure.failure.kind = .registry ∧ failure.failure.retriable = false := by
  rw [final] at h
  split at h
  · exact ending_conflict h hconflict
  · exact ending_conflict h hconflict

/-- The answer is an id exactly if the last answer that was received is a success that names it. -/
theorem perform_register_eq_ok_iff {id : UInt32} :
    ((register transport settings coordinate schema type).perform remote).1 = .ok id ↔
      ∃ exchange body, ((Operation.register coordinate schema type).exchanges transport settings
          remote).getLast? = some exchange ∧ exchange.Succeeds body ∧
        Names (posting transport settings coordinate schema type remote).conflicts id body := by
  rw [perform_register_eq_final, registered_eq_ok_iff]
  simp only [reader_eq_some_iff, ← getLast?_exchanges_iff]
  constructor
  · rintro ⟨body, ⟨exchange, hlast, hsucceeds⟩, hnames⟩
    exact ⟨exchange, body, hlast, hsucceeds, hnames⟩
  · rintro ⟨exchange, body, hlast, hsucceeds, hnames⟩
    exact ⟨body, ⟨exchange, hlast, hsucceeds⟩, hnames⟩

/-- A last answer that is a success, with a body that names no id, is a failure that will not
pass. -/
theorem perform_register_nameless {exchange : Exchange} {body : String}
    (hlast : ((Operation.register coordinate schema type).exchanges transport settings
      remote).getLast? = some exchange) (hsucceeds : exchange.Succeeds body)
    (hnames : ∀ id,
      ¬Names (posting transport settings coordinate schema type remote).conflicts id body) :
    ∃ failure, ((register transport settings coordinate schema type).perform remote).1 =
      .error (.failed failure) ∧ failure.kind = .registry ∧ failure.retriable = false := by
  have hfinal := (getLast?_exchanges_iff transport settings coordinate schema type remote).1
    ⟨exchange, hlast, hsucceeds⟩
  rw [perform_register_eq_final, hfinal]
  exact registered_error fun id hread => hnames id (reader_eq_some_iff.1 hread)

end Calls

/-- What a registration does, by how posting the artifact ends, how its last call ends, what goes
over the transport, and what it answers and leaves. -/
structure Registers (transport : Http.Transport τ) (settings : RemoteSettings)
    (coordinate : Coordinate) (schema : String) (type : ArtifactType) (remote : Remote τ)
    (posting final : Ending τ) (exchanges : List Exchange)
    (answer : Outcome UInt32 × Remote τ) : Prop where
  /-- First the artifact is posted. After a conflict a version is registered, and else nothing is
  sent any more. -/
  exchanges_eq : exchanges = posting.exchanges ++
    if posting.conflicts then
      (Operation.registerVersion coordinate schema).exchanges transport settings
        (remote.after posting)
    else []
  /-- All that is sent at first posts the artifact. -/
  posts : ∀ exchange ∈ posting.exchanges,
    exchange.IsOf settings (artifactCall coordinate schema type)
  /-- All that is sent to register a version posts the version. -/
  versions : ∀ other, ∀ exchange ∈
    (Operation.registerVersion coordinate schema).exchanges transport settings other,
      exchange.IsOf settings (versionCall coordinate schema)
  /-- A version is posted exactly if posting the artifact failed with a conflict in the end. -/
  version_iff : (∃ exchange ∈ exchanges, exchange.IsOf settings (versionCall coordinate schema)) ↔
    ∃ failure, posting.result = .error failure ∧ failure.status = some Http.Status.conflict
  /-- Then a registration answers and leaves what registering a version does. -/
  conflict : posting.conflicts = true →
    answer = (registerVersion transport settings coordinate schema).perform (remote.after posting)
  /-- If that fails with a conflict too, then so does the registration, and it will not pass. -/
  again : ∀ failure, final.result = .error failure → failure.status = some Http.Status.conflict →
    answer.1 = .error (.failed failure.failure) ∧ failure.failure.kind = .registry ∧
      failure.failure.retriable = false
  /-- The answer is an id exactly if the last answer that was received is a success that names
  it. -/
  ok_iff : ∀ id, answer.1 = .ok id ↔ ∃ exchange body, exchanges.getLast? = some exchange ∧
    exchange.Succeeds body ∧ Names posting.conflicts id body
  /-- A success from which no id can be read is a failure that will not pass. Where its body breaks
  off, only if no other answer was hoped for after it. -/
  unreadable : ∀ exchange reply, exchanges.getLast? = some exchange → exchange.reply = some reply →
    Http.Status.isSuccess reply.status = true →
    (reply.complete = false → final.result = judge exchange.reply) →
    (∀ body id, reply.text? = some body → ¬Names posting.conflicts id body) →
      ∃ failure, answer.1 = .error (.failed failure) ∧ failure.kind = .registry ∧
        failure.retriable = false
  /-- What the last call fails with is what the registration fails with. -/
  fails : ∀ failure, final.result = .error failure →
    answer.1 = .error (.failed failure.failure)
  /-- The documents stay as they are. -/
  documents : answer.2.documents = remote.documents

/-- Every registration, over any transport and with any settings. -/
theorem registers (transport : Http.Transport τ) (settings : RemoteSettings)
    (coordinate : Coordinate) (schema : String) (type : ArtifactType) (remote : Remote τ) :
    Registers transport settings coordinate schema type remote
      (posting transport settings coordinate schema type remote)
      (final transport settings coordinate schema type remote)
      ((Operation.register coordinate schema type).exchanges transport settings remote)
      ((register transport settings coordinate schema type).perform remote) := by
  refine ⟨?exchanges_eq, isOf_posting _ _ _ _ _ _, ?versions, ?version_iff, ?conflict, ?again,
    fun _ => perform_register_eq_ok_iff _ _ _ _ _ _, ?unreadable,
    fun _ => perform_register_fails _ _ _ _ _ _, ?documents⟩
  case exchanges_eq => rw [exchanges_register, exchanges_registerVersion]
  case versions =>
    intro other
    rw [exchanges_registerVersion]
    exact isOf_versioning transport settings coordinate schema other
  case version_iff => rw [exists_isOf_versionCall_iff, Ending.conflicts_iff]
  case conflict =>
    intro hconflicts
    rw [perform_register, if_pos hconflicts]
  case again =>
    intro failure hfailure hstatus
    exact ⟨perform_register_fails _ _ _ _ _ _ hfailure,
      final_conflict _ _ _ _ _ _ hfailure hstatus⟩
  case unreadable =>
    intro exchange reply hlast hreply hsuccess hbroken hnames
    cases hcomplete : reply.complete with
    | true =>
        have htext : reply.text? = some (Utf8.decodeLossy reply.body) := by
          rw [Http.Reply.text?, hcomplete, if_pos rfl]
        exact perform_register_nameless _ _ _ _ _ _ hlast ⟨reply, hreply, hsuccess, htext⟩
          fun id => hnames _ id htext
    | false =>
        have hjudged : judge exchange.reply = .error ⟨none, brokenBody⟩ := by
          rw [hreply, judge, if_pos hsuccess, Http.Reply.text?, hcomplete,
            if_neg Bool.false_ne_true]
        exact ⟨brokenBody, perform_register_fails _ _ _ _ _ _ ((hbroken hcomplete).trans hjudged),
          rfl, rfl⟩
  case documents => rw [perform_register_eq_final]; rfl

/-- Two servers that are tried twice. -/
def twoServers : RemoteSettings :=
  ⟨"http://a", ["http://b"], .none, [], 1⟩

/-- A conflict at the first server is forgotten when the second one is not ready. In the next round
it is the other way around, and so a version is posted. -/
def lateConflict : Remote Http.Script :=
  .start ⟨[], [some ⟨409, [], true⟩, some ⟨503, [], true⟩, some ⟨503, [], true⟩,
    some ⟨409, [], true⟩, some ⟨200, Utf8.encode "\x7b\"globalId\": 8\x7d", true⟩]⟩

/-- Two servers, of which the first is not there and the second answers with a conflict: the id is
that of the version that is registered then. -/
theorem registers_lateConflict :
    let posting := posting .scripted twoServers ⟨"shop", "order"⟩ "\"int\"" .avro lateConflict
    let final := final .scripted twoServers ⟨"shop", "order"⟩ "\"int\"" .avro lateConflict
    let exchanges := (Operation.register ⟨"shop", "order"⟩ "\"int\"" .avro).exchanges .scripted
      twoServers lateConflict
    let answer := (register .scripted twoServers ⟨"shop", "order"⟩ "\"int\"" .avro).perform
      lateConflict
    Registers .scripted twoServers ⟨"shop", "order"⟩ "\"int\"" .avro lateConflict posting final
        exchanges answer ∧
      posting.conflicts = true ∧ posting.exchanges.length = 4 ∧ exchanges.length = 5 ∧
      answer.1.toOption = some 8 :=
  ⟨registers _ _ _ _ _ _, by decide +kernel, by decide +kernel, by decide +kernel,
    by decide +kernel⟩

end Remote

end FramedAvro
