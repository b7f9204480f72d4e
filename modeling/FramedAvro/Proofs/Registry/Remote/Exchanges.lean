import FramedAvro.Proofs.Action
import FramedAvro.Registry.Remote.Basic

/-!
# Exchanges

A call may take many exchanges, with one URL after the other and again. It is over with the first
that succeeds, so among all its exchanges at most one is a success, and it is the one that the call
is answered with.

What goes over a transport cannot be told from what it leads to. So it is written down beside the
state, by a transport that does nothing else in addition, and each step is compared with the same
step over the plain transport.

## Main definitions

* `Exchange`, `Http.Transport.logged`: what goes over a transport, written down.
* `Remote.Makes`: the exchanges of a call.

## Main results

* `Remote.performWithStatus_exchanges`: what a call exchanges.
-/

namespace FramedAvro

variable {τ α : Type}

/-- A request, and the reply to it if there was one. -/
structure Exchange where
  request : Http.Request
  reply : Option Http.Reply

/-- The body of the reply, if it is a success. -/
def Exchange.body? (exchange : Exchange) : Option String :=
  (Remote.judge exchange.reply).toOption

/-- The transport whose exchanges are written down. -/
def Http.Transport.logged (transport : Http.Transport τ) :
    Http.Transport (Logged Exchange τ) where
  send request := fun state =>
    let (reply, inner) := (transport.send request).run state.inner
    (reply, ⟨inner, state.log ++ [⟨request, reply⟩]⟩)

namespace Remote

/-- Exchanges are of a call, and what succeeded among them is what the call is answered with. -/
structure Makes (settings : RemoteSettings) (call : RemoteCall)
    (result : Except CallFailure String) (exchanges : List Exchange) : Prop where
  requests : ∀ exchange ∈ exchanges, ∃ base ∈ settings.urls, ∃ url, call.url base = .ok url ∧
    exchange.request =
      Http.Request.make url settings.authorization settings.headers call.body?
  bodies : exchanges.filterMap Exchange.body? = result.toOption.toList

namespace Makes

variable {settings : RemoteSettings} {call : RemoteCall}

/-- A call that fails without an exchange. -/
theorem failed (failure : CallFailure) : Makes settings call (.error failure) [] :=
  ⟨fun _ h => by contradiction, rfl⟩

/-- A call with one exchange is answered as its reply is judged. -/
theorem single {base : String} {url : Url} (hbase : base ∈ settings.urls)
    (hurl : call.url base = .ok url) (reply : Option Http.Reply) :
    Makes settings call (judge reply)
      [⟨Http.Request.make url settings.authorization settings.headers call.body?, reply⟩] := by
  refine ⟨fun exchange hmem => ?_, ?_⟩
  · obtain rfl := List.mem_singleton.1 hmem
    exact ⟨base, hbase, url, hurl, rfl⟩
  · rw [List.filterMap_cons, Exchange.body?]
    cases judge reply <;> rfl

/-- After exchanges that failed, others decide. -/
theorem append {failure : CallFailure} {result : Except CallFailure String}
    {exchanges later : List Exchange} (h : Makes settings call (.error failure) exchanges)
    (h' : Makes settings call result later) : Makes settings call result (exchanges ++ later) := by
  refine ⟨fun exchange hmem => ?_, ?_⟩
  · rcases List.mem_append.1 hmem with hmem | hmem
    · exact h.requests exchange hmem
    · exact h'.requests exchange hmem
  · rw [List.filterMap_append, h.bodies, h'.bodies]
    rfl

end Makes

/-- A step over a transport with a log does what the step over the plain one does, and writes down
exchanges as the postcondition says of what it answers. -/
def Exchanges (logged : StateM (Logged Exchange τ) α) (plain : StateM τ α)
    (post : α → List Exchange → Prop) : Prop :=
  ∀ state, ∃ added,
    plain.run state.inner = ((logged.run state).1, (logged.run state).2.inner) ∧
      (logged.run state).2.log = state.log ++ added ∧ post (logged.run state).1 added

namespace Exchanges

variable {settings : RemoteSettings} {call : RemoteCall}

/-- A step that fails without a request exchanges nothing. -/
theorem failed (failure : CallFailure) :
    Exchanges (τ := τ) (return .error failure) (return .error failure) (Makes settings call) :=
  fun state => ⟨[], rfl, (List.append_nil state.log).symm, .failed failure⟩

/-- A step that is followed by another one only if it fails. -/
theorem unlessFailed {first : StateM (Logged Exchange τ) (Except CallFailure String)}
    {first' : StateM τ (Except CallFailure String)}
    {next : CallFailure → StateM (Logged Exchange τ) (Except CallFailure String)}
    {next' : CallFailure → StateM τ (Except CallFailure String)}
    (h : Exchanges first first' (Makes settings call))
    (h' : ∀ failure, Exchanges (next failure) (next' failure) (Makes settings call)) :
    Exchanges
      (first >>= fun result => match result with
        | .ok body => return .ok body
        | .error failure => next failure)
      (first' >>= fun result => match result with
        | .ok body => return .ok body
        | .error failure => next' failure)
      (Makes settings call) := by
  intro state
  obtain ⟨added, hplain, hadded, hmakes⟩ := h state
  rw [StateT.run_bind, StateT.run_bind, hplain]
  rcases hfirst : first.run state with ⟨result, after⟩
  rw [hfirst] at hadded hmakes
  cases result with
  | ok body => exact ⟨added, rfl, hadded, hmakes⟩
  | error failure =>
      obtain ⟨later, hplain', hlater, hmakes'⟩ := h' failure after
      refine ⟨added ++ later, hplain', ?_, hmakes.append hmakes'⟩
      exact hlater.trans (by rw [hadded, List.append_assoc])

end Exchanges

variable (transport : Http.Transport τ) (settings : RemoteSettings) (call : RemoteCall)

/-- An attempt makes one exchange, unless there is no request to send. -/
theorem attempt_exchanges {base : String} (hbase : base ∈ settings.urls) :
    Exchanges (attempt transport.logged settings call base) (attempt transport settings call base)
      (Makes settings call) := by
  rw [attempt, attempt]
  cases hurl : call.url base with
  | error failure => exact .failed _
  | ok url =>
      dsimp only
      split
      · intro state
        exact ⟨_, rfl, rfl, .single hbase hurl _⟩
      · exact .failed _

/-- A round makes exchanges until one succeeds. -/
theorem round_exchanges {first : String} {rest : List String}
    (h : ∀ base ∈ first :: rest, base ∈ settings.urls) :
    Exchanges (round (attempt transport.logged settings call) first rest)
      (round (attempt transport settings call) first rest) (Makes settings call) := by
  induction rest generalizing first with
  | nil => exact attempt_exchanges transport settings call (h first List.mem_cons_self)
  | cons next rest ih =>
      exact (attempt_exchanges transport settings call (h first List.mem_cons_self)).unlessFailed
        fun _ => ih fun base hmem => h base (List.mem_cons_of_mem first hmem)

/-- Rounds make exchanges until one succeeds. -/
theorem rounds_exchanges {once : StateM (Logged Exchange τ) (Except CallFailure String)}
    {once' : StateM τ (Except CallFailure String)}
    (h : Exchanges once once' (Makes settings call)) (retries : Nat) :
    Exchanges (rounds once retries) (rounds once' retries) (Makes settings call) := by
  induction retries with
  | zero => exact h
  | succ retries ih =>
      refine h.unlessFailed fun failure => ?_
      split
      · exact ih
      · exact .failed failure

/-- A call makes exchanges until one succeeds, whatever comes back in between. -/
theorem performWithStatus_exchanges :
    Exchanges (performWithStatus transport.logged settings call)
      (performWithStatus transport settings call) (Makes settings call) :=
  rounds_exchanges settings call
    (round_exchanges transport settings call fun _ hmem => hmem) settings.maxRetries

end Remote

end FramedAvro
