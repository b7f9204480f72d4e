import FramedAvro.Proofs.Registry.Remote.Exchanges
import FramedAvro.Proofs.Registry.Remote.Failover
import FramedAvro.Proofs.Registry.Remote.Queries

/-!
# What attempts send

An attempt sends one request or none at all, and it sends none exactly when there is no request for
its URL. So of the attempts of a call one can tell what went over the transport: the exchanges are
those of the attempts that had something to send, in their order, and a call that comes to a body or
to a failure with a status has it from the last of them.

What went over before a call has no say in it. So a call is described by its `Ending` at a state of
the transport, and what a longer run exchanges is put together from the endings of its calls.

## Main definitions

* `Remote.Sends`: there is a request for a URL.
* `Remote.Sent`: what attempts exchanged.
* `Remote.ending`: the result of a call, its exchanges and the transport after it.

## Main results

* `Remote.attempted_sent`: the exchanges of attempts.
* `Remote.ending_exchanges_ne_nil_iff`: when a call sends something.
* `Remote.exists_last_of_ending`: the exchange that a call has its result from.
-/

namespace FramedAvro.Remote

variable {τ : Type}

/-- The request of a call to a URL. -/
def request (settings : RemoteSettings) (call : RemoteCall) (url : Url) : Http.Request :=
  .make url settings.authorization settings.headers call.body?

/-- There is a request to send when a call is attempted at a URL. -/
def Sends (settings : RemoteSettings) (call : RemoteCall) (base : String) : Prop :=
  ∃ url, call.url base = .ok url ∧ (request settings call url).isSendable = true

/-- Whether a request is sent depends on the registry and on whether something is posted, but not on
what is asked for. -/
theorem sends_congr {settings : RemoteSettings} {call other : RemoteCall} {base : String}
    (h : call.body?.isSome = other.body?.isSome) (hsends : Sends settings call base) :
    Sends settings other base := by
  obtain ⟨url, hurl, hsendable⟩ := hsends
  obtain ⟨parsed, parts, hparse, hpath, rfl⟩ := RemoteCall.url_eq_ok_iff.1 hurl
  have hserver := (parsed.sameServer_withQuery (RemoteCall.apiSegments ++ call.segments)
    call.parameters).1
  have hother := (parsed.sameServer_withQuery (RemoteCall.apiSegments ++ other.segments)
    other.parameters).1
  refine ⟨_, RemoteCall.url_eq_ok_iff.2 ⟨parsed, parts, hparse, hpath, rfl⟩, ?_⟩
  simp only [Http.Request.isSendable, request, Http.Request.make, Http.Request.ownHeaders, h,
    Http.Request.scheme_target, Http.Request.host_target, Http.Authorization.ofUrl,
    hserver.scheme, hserver.host, hserver.user, hserver.password] at hsendable
  simpa only [Http.Request.isSendable, request, Http.Request.make, Http.Request.ownHeaders,
    Http.Request.scheme_target, Http.Request.host_target, Http.Authorization.ofUrl,
    hother.scheme, hother.host, hother.user, hother.password] using hsendable

/-! ### Attempts -/

/-- What attempts exchanged: each that has a request sends it, and is judged by the reply. -/
inductive Sent (settings : RemoteSettings) (call : RemoteCall) : List Attempt → List Exchange → Prop
  | nil : Sent settings call [] []
  | silent {base : String} {failure : Failure} {attempts : List Attempt}
      {exchanges : List Exchange} (h : ¬Sends settings call base)
      (rest : Sent settings call attempts exchanges) :
      Sent settings call (⟨base, .error ⟨none, failure⟩⟩ :: attempts) exchanges
  | sends {base : String} {url : Url} {attempts : List Attempt} {exchanges : List Exchange}
      (reply : Option Http.Reply) (hurl : call.url base = .ok url)
      (h : (request settings call url).isSendable = true)
      (rest : Sent settings call attempts exchanges) :
      Sent settings call (⟨base, judge reply⟩ :: attempts)
        (⟨request settings call url, reply⟩ :: exchanges)

namespace Sent

variable {settings : RemoteSettings} {call : RemoteCall} {attempts : List Attempt}
  {exchanges : List Exchange}

/-- An attempt that has a request sends it. -/
theorem ne_nil (h : Sent settings call attempts exchanges) {attempt : Attempt}
    (hmem : attempt ∈ attempts) (hsends : Sends settings call attempt.base) : exchanges ≠ [] := by
  induction h with
  | nil => contradiction
  | silent hsilent rest ih =>
      rcases List.mem_cons.1 hmem with rfl | hmem
      · exact absurd hsends hsilent
      · exact ih hmem
  | sends reply hurl hsendable rest ih => exact List.cons_ne_nil _ _

/-- Only attempts that have a request send something. -/
theorem exists_sends (h : Sent settings call attempts exchanges) (hne : exchanges ≠ []) :
    ∃ attempt ∈ attempts, Sends settings call attempt.base := by
  induction h with
  | nil => contradiction
  | silent hsilent rest ih =>
      obtain ⟨attempt, hmem, hsends⟩ := ih hne
      exact ⟨attempt, List.mem_cons_of_mem _ hmem, hsends⟩
  | sends reply hurl hsendable rest ih => exact ⟨_, List.mem_cons_self, _, hurl, hsendable⟩

/-- If the last attempt got an answer, then in the last exchange. -/
theorem getLast? (h : Sent settings call attempts exchanges) {attempt : Attempt}
    (hlast : attempts.getLast? = some attempt)
    (hanswered : ∀ failure, attempt.outcome ≠ .error ⟨none, failure⟩) :
    ∃ exchange, exchanges.getLast? = some exchange ∧ judge exchange.reply = attempt.outcome := by
  induction h with
  | nil => contradiction
  | @silent base failure attempts exchanges hsilent rest ih =>
      cases attempts with
      | nil =>
          obtain rfl := Option.some.inj hlast
          exact absurd rfl (hanswered failure)
      | cons next more => exact ih (List.getLast?_cons_cons.symm.trans hlast)
  | @sends base url attempts exchanges reply hurl hsendable rest ih =>
      cases attempts with
      | nil =>
          obtain rfl := Option.some.inj hlast
          cases rest
          exact ⟨_, rfl, rfl⟩
      | cons next more =>
          obtain ⟨exchange, hexchange, hjudged⟩ := ih (List.getLast?_cons_cons.symm.trans hlast)
          refine ⟨exchange, ?_, hjudged⟩
          rw [List.getLast?_cons, hexchange]
          rfl

end Sent

/-- Attempts over a transport with a log exchange what they send. -/
theorem attempted_sent {transport : Http.Transport τ} {settings : RemoteSettings}
    {call : RemoteCall} {state after : Logged Exchange τ} {attempts : List Attempt}
    (h : Attempted (attempt transport.logged settings call) state attempts after) :
    ∃ exchanges, Sent settings call attempts exchanges ∧ after.log = state.log ++ exchanges := by
  induction h with
  | nil state => exact ⟨[], .nil, (List.append_nil _).symm⟩
  | @cons state middle after base outcome more made rest ih =>
      obtain ⟨exchanges, hsent, hlog⟩ := ih
      rw [attempt] at made
      cases hurl : call.url base with
      | error failure =>
          rw [hurl] at made
          obtain ⟨rfl, rfl⟩ := Prod.mk.inj made
          refine ⟨exchanges, .silent ?_ hsent, hlog⟩
          rintro ⟨url, hother, -⟩
          rw [hurl] at hother
          contradiction
      | ok url =>
          rw [hurl] at made
          dsimp only at made
          split at made
          · next hsendable =>
            obtain ⟨rfl, rfl⟩ := Prod.mk.inj made
            refine ⟨_, .sends _ hurl hsendable hsent, hlog.trans ?_⟩
            exact List.append_assoc _ _ _
          · next hsendable =>
            obtain ⟨rfl, rfl⟩ := Prod.mk.inj made
            refine ⟨exchanges, .silent ?_ hsent, hlog⟩
            rintro ⟨own, hown, hownSendable⟩
            obtain rfl := Except.ok.inj (hurl.symm.trans hown)
            exact hsendable hownSendable

/-! ### What was exchanged before -/

/-- A step does the same whatever was written down before it, and writes down the same. -/
def Appends {ρ σ α : Type} (step : StateM (Logged ρ σ) α) : Prop :=
  ∀ inner log, step.run ⟨inner, log⟩ =
    ((step.run ⟨inner, []⟩).1,
      ⟨(step.run ⟨inner, []⟩).2.inner, log ++ (step.run ⟨inner, []⟩).2.log⟩)

namespace Appends

variable {ρ σ α β : Type}

/-- A value writes nothing down. -/
theorem pure (a : α) : Appends (Pure.pure a : StateM (Logged ρ σ) α) := by
  intro inner log
  change (a, Logged.mk inner log) = (a, Logged.mk inner (log ++ []))
  rw [List.append_nil]

/-- Two steps one after the other write down what each of them does, in this order. -/
theorem bind {first : StateM (Logged ρ σ) α} {next : α → StateM (Logged ρ σ) β}
    (h : Appends first) (h' : ∀ a, Appends (next a)) : Appends (first >>= next) := by
  intro inner log
  rw [StateT.run_bind, StateT.run_bind, h inner log]
  rcases first.run ⟨inner, []⟩ with ⟨a, middle⟩
  change (next a).run ⟨middle.inner, log ++ middle.log⟩ =
    (((next a).run middle).1, ⟨((next a).run middle).2.inner, log ++ ((next a).run middle).2.log⟩)
  have hmiddle := h' a middle.inner middle.log
  rw [h' a middle.inner (log ++ middle.log), List.append_assoc, hmiddle]

variable {transport : Http.Transport τ} {settings : RemoteSettings} {call : RemoteCall}

/-- An attempt writes down its exchange, if it makes one, after what is there. -/
theorem attempt (base : String) : Appends (attempt transport.logged settings call base) := by
  rw [Remote.attempt]
  split
  · exact .pure _
  · dsimp only
    split
    · exact .bind (fun inner log => rfl) fun reply => .pure _
    · exact .pure _

/-- A round writes down the exchanges of its attempts after what is there. -/
theorem round {make : String → StateM (Logged ρ σ) (Except CallFailure String)}
    (h : ∀ base, Appends (make base)) (first : String) (rest : List String) :
    Appends (round make first rest) := by
  induction rest generalizing first with
  | nil => exact h first
  | cons next rest ih =>
      refine (h first).bind fun result => ?_
      cases result with
      | ok body => exact .pure _
      | error failure => exact ih next

/-- Rounds write down the exchanges of all of them after what is there. -/
theorem rounds {once : StateM (Logged ρ σ) (Except CallFailure String)} (h : Appends once)
    (retries : Nat) : Appends (rounds once retries) := by
  induction retries with
  | zero => exact h
  | succ retries ih =>
      refine h.bind fun result => ?_
      cases result with
      | ok body => exact .pure _
      | error failure =>
          dsimp only
          split
          · exact ih
          · exact .pure _

end Appends

/-! ### Endings -/

/-- How a call ends: with what it comes to, what went over the transport for it, and the transport
after it. -/
structure Ending (τ : Type) where
  result : Except CallFailure String
  exchanges : List Exchange
  transport : τ

/-- How a call ends at a state of the transport. -/
def ending (transport : Http.Transport τ) (settings : RemoteSettings) (call : RemoteCall)
    (state : τ) : Ending τ :=
  let (result, after) := (performWithStatus transport.logged settings call).run ⟨state, []⟩
  ⟨result, after.log, after.inner⟩

variable (transport : Http.Transport τ) (settings : RemoteSettings) (call : RemoteCall)

/-- A call comes to its ending after whatever was exchanged before. -/
theorem run_performWithStatus_logged (state : Logged Exchange τ) :
    (performWithStatus transport.logged settings call).run state =
      ((ending transport settings call state.inner).result,
        ⟨(ending transport settings call state.inner).transport,
          state.log ++ (ending transport settings call state.inner).exchanges⟩) :=
  (Appends.round Appends.attempt settings.firstUrl settings.otherUrls).rounds settings.maxRetries
    state.inner state.log

/-- A call comes to its ending over the plain transport too. -/
theorem run_performWithStatus (state : τ) :
    (performWithStatus transport settings call).run state =
      ((ending transport settings call state).result,
        (ending transport settings call state).transport) := by
  obtain ⟨_, hplain, -⟩ := performWithStatus_exchanges transport settings call ⟨state, []⟩
  exact hplain

/-- Writing exchanges down once more changes nothing. -/
theorem ending_logged (state : Logged Exchange τ) :
    (ending transport.logged settings call state).result =
        (ending transport settings call state.inner).result ∧
      (ending transport.logged settings call state).transport =
        ⟨(ending transport settings call state.inner).transport,
          state.log ++ (ending transport settings call state.inner).exchanges⟩ :=
  Prod.mk.inj <| (run_performWithStatus transport.logged settings call state).symm.trans
    (run_performWithStatus_logged transport settings call state)

/-- The requests of a call are those of its ending, and at most the last one succeeded. -/
theorem makes_ending (state : τ) :
    Makes settings call (ending transport settings call state).result
      (ending transport settings call state).exchanges := by
  obtain ⟨added, -, hlog, hmakes⟩ :=
    performWithStatus_exchanges transport settings call ⟨state, []⟩
  have hadded : (ending transport settings call state).exchanges = added := hlog
  rw [hadded]
  exact hmakes

/-- The exchanges of a call are those of its attempts. -/
theorem exists_sent (state : τ) : ∃ attempts,
    Sent settings call attempts (ending transport settings call state).exchanges ∧
      Failover settings.urls settings.maxRetries attempts
        (ending transport settings call state).result := by
  obtain ⟨attempts, hattempted, hfailover⟩ := rounds_failover
    (attempt transport.logged settings call) settings.firstUrl settings.otherUrls
    settings.maxRetries ⟨state, []⟩
  obtain ⟨exchanges, hsent, hlog⟩ := attempted_sent hattempted
  have hexchanges : (ending transport settings call state).exchanges = exchanges := hlog
  exact ⟨attempts, hexchanges ▸ hsent, hfailover⟩

variable {transport settings call}

/-- What a call comes to is what its last exchange is judged as, unless there is no answer that says
so. -/
theorem exists_last_of_ending {state : τ} {result : Except CallFailure String}
    (hresult : (ending transport settings call state).result = result)
    (hanswered : ∀ failure, result ≠ .error ⟨none, failure⟩) :
    ∃ exchange, (ending transport settings call state).exchanges.getLast? = some exchange ∧
      judge exchange.reply = result := by
  obtain ⟨attempts, hsent, hfailover⟩ := exists_sent transport settings call state
  obtain ⟨attempt, hattempt, houtcome⟩ := Option.map_eq_some_iff.1 hfailover.last
  obtain rfl := houtcome.trans hresult
  exact hsent.getLast? hattempt hanswered

/-- A call that failed with a status got it in its last exchange. -/
theorem exists_last_of_status {state : τ} {failure : CallFailure} {status : Nat}
    (hresult : (ending transport settings call state).result = .error failure)
    (hstatus : failure.status = some status) :
    ∃ exchange, (ending transport settings call state).exchanges.getLast? = some exchange ∧
      judge exchange.reply = .error failure := by
  refine exists_last_of_ending hresult fun own heq => ?_
  obtain rfl := Except.error.inj heq
  contradiction

/-- A call that is not over before has been attempted at all URLs. -/
theorem Failover.mem_bases {urls : List String} {retries : Nat} {attempts : List Attempt}
    {failure : CallFailure} (h : Failover urls retries attempts (.error failure)) {base : String}
    (hbase : base ∈ urls) : ∃ attempt ∈ attempts, attempt.base = base := by
  obtain ⟨count, hpos, -, hcount⟩ := h.whole failure rfl
  have hurls : urls <+: (List.replicate (retries + 1) urls).flatten := by
    rw [List.replicate_succ, List.flatten_cons]
    exact List.prefix_append urls _
  have hbases : urls <+: attempts.map Attempt.base := by
    refine List.prefix_of_prefix_length_le hurls h.order ?_
    rw [List.length_map, hcount]
    exact Nat.le_mul_of_pos_left _ hpos
  exact List.mem_map.1 (hbases.subset hbase)

/-- A call sends something exactly if it has a request for one of the URLs. -/
theorem ending_exchanges_ne_nil_iff {state : τ} :
    (ending transport settings call state).exchanges ≠ [] ↔
      ∃ base ∈ settings.urls, Sends settings call base := by
  obtain ⟨attempts, hsent, hfailover⟩ := exists_sent transport settings call state
  constructor
  · intro hne
    obtain ⟨attempt, hattempt, hsends⟩ := hsent.exists_sends hne
    have hbase := hfailover.order.subset (List.mem_map_of_mem hattempt)
    obtain ⟨urls, hurls, hmem⟩ := List.mem_flatten.1 hbase
    exact ⟨attempt.base, List.eq_of_mem_replicate hurls ▸ hmem, hsends⟩
  · rintro ⟨base, hbase, hsends⟩ hnil
    cases hresult : (ending transport settings call state).result with
    | ok body =>
        obtain ⟨exchange, hlast, -⟩ := exists_last_of_ending hresult fun _ => nofun
        rw [hnil] at hlast
        contradiction
    | error failure =>
        rw [hresult] at hfailover
        obtain ⟨attempt, hattempt, rfl⟩ := hfailover.mem_bases hbase
        exact hsent.ne_nil hattempt hsends hnil

end FramedAvro.Remote
