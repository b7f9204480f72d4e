import FramedAvro.Registry.Remote.Basic
import Mathlib.Data.List.Basic

/-!
# Failover and retries

A call is attempted at one URL after the other, round after round, until an attempt succeeds. Only
the last attempt of a round says whether there is another round, and only the last of all says what
the call fails with: a failure that may pass is forgotten when the next URL fails for good, and the
other way around.

The attempts of a call cannot be told from what it leads to, since an attempt may send nothing. So
they are listed beside it: `Attempted` says of a list that each attempt in it is made where the one
before it left the transport. The rounds are looked at for attempts of any kind, which may come to
anything.

## Main definitions

* `Remote.Attempted`: attempts, one after the other.
* `Remote.Failover`: which attempts a call makes, and what it comes to.

## Main results

* `Remote.rounds_failover`: what rounds of any attempts do.
* `Remote.performWithStatus_failover`: what a call does.
-/

namespace FramedAvro.Remote

variable {τ : Type}

/-- An attempt at a URL, and what it came to. -/
structure Attempt where
  base : String
  outcome : Except CallFailure String

/-- The attempt failed. -/
def Attempt.Failed (attempt : Attempt) : Prop :=
  ∃ failure, attempt.outcome = .error failure

/-- Attempts are made one after the other, each where the one before it left the transport. -/
inductive Attempted (make : String → StateM τ (Except CallFailure String)) :
    τ → List Attempt → τ → Prop
  | nil (state : τ) : Attempted make state [] state
  | cons {state middle after : τ} {base : String} {outcome : Except CallFailure String}
      {more : List Attempt} (made : (make base).run state = (outcome, middle))
      (rest : Attempted make middle more after) :
      Attempted make state (⟨base, outcome⟩ :: more) after

/-- Attempts after attempts are attempts, with the state of the transport in between. -/
theorem Attempted.append {make : String → StateM τ (Except CallFailure String)}
    {state middle after : τ} {attempts more : List Attempt}
    (h : Attempted make state attempts middle) (h' : Attempted make middle more after) :
    Attempted make state (attempts ++ more) after := by
  induction h with
  | nil state => exact h'
  | cons made rest ih => exact .cons made (ih h')

/-- Which attempts a call makes at URLs, where it may do more rounds than one, and what it comes
to. -/
structure Failover (urls : List String) (retries : Nat) (attempts : List Attempt)
    (result : Except CallFailure String) : Prop where
  /-- The URLs are tried in their order, round after round. -/
  order : attempts.map Attempt.base <+: (List.replicate (retries + 1) urls).flatten
  /-- The first success ends the call. -/
  failed : ∀ attempt ∈ attempts.dropLast, attempt.Failed
  /-- The call comes to what its last attempt came to. -/
  last : attempts.getLast?.map Attempt.outcome = some result
  /-- A call that fails has tried all the URLs, and as often each. -/
  whole : ∀ failure, result = .error failure →
    ∃ count, 1 ≤ count ∧ count ≤ retries + 1 ∧ attempts.length = count * urls.length
  /-- After rounds without a success there is another one exactly if the last failure may pass and
  not all retries were used. -/
  again : ∀ count done left failure, attempts = done ++ left →
    done.length = count * urls.length → done.getLast?.map Attempt.outcome = some (.error failure) →
      (left ≠ [] ↔ failure.failure.retriable = true ∧ count ≤ retries)

/-! ### One round -/

/-- The attempts of one round: at the URLs in their order up to the first success, or at all of
them. -/
structure Round (urls : List String) (attempts : List Attempt)
    (result : Except CallFailure String) : Prop where
  order : attempts.map Attempt.base <+: urls
  failed : ∀ attempt ∈ attempts.dropLast, attempt.Failed
  last : attempts.getLast?.map Attempt.outcome = some result
  whole : ∀ failure, result = .error failure → attempts.length = urls.length

namespace Round

variable {urls : List String} {attempts : List Attempt} {result : Except CallFailure String}

/-- A round has an attempt. -/
theorem ne_nil (h : Round urls attempts result) : attempts ≠ [] := by
  rintro rfl
  cases h.last

/-- A round has no more attempts than there are URLs. -/
theorem length_le (h : Round urls attempts result) : attempts.length ≤ urls.length := by
  simpa using h.order.length_le

/-- All attempts of a round that fails failed. -/
theorem forall_failed {failure : CallFailure} (h : Round urls attempts (.error failure)) :
    ∀ attempt ∈ attempts, attempt.Failed := by
  intro attempt hmem
  rw [← List.dropLast_concat_getLast h.ne_nil] at hmem
  rcases List.mem_append.1 hmem with hmem | hmem
  · exact h.failed attempt hmem
  · obtain rfl := List.mem_singleton.1 hmem
    have hlast := h.last
    rw [List.getLast?_eq_some_getLast h.ne_nil] at hlast
    exact ⟨failure, Option.some.inj hlast⟩

/-- A round with one attempt, which succeeds or is at the only URL. -/
theorem single {base : String} {rest : List String}
    (h : ∀ failure, result = .error failure → rest = []) :
    Round (base :: rest) [⟨base, result⟩] result where
  order := List.prefix_append [base] rest
  failed attempt hmem := by contradiction
  last := rfl
  whole failure hfailure := by rw [h failure hfailure]; rfl

/-- After an attempt that fails, the others are those of a round over the other URLs. -/
theorem cons {base : String} {failure : CallFailure} (h : Round urls attempts result) :
    Round (base :: urls) (⟨base, .error failure⟩ :: attempts) result where
  order := List.cons_prefix_cons.2 ⟨rfl, h.order⟩
  failed := by
    rw [List.dropLast_cons_of_ne_nil h.ne_nil]
    exact List.forall_mem_cons.2 ⟨⟨failure, rfl⟩, h.failed⟩
  last := by
    rw [List.getLast?_cons_of_ne_nil h.ne_nil]
    exact h.last
  whole failure' hfailure := congrArg (· + 1) (h.whole failure' hfailure)

end Round

/-- A round makes the attempts of a round. -/
theorem round_attempted (make : String → StateM τ (Except CallFailure String)) (first : String)
    (rest : List String) (state : τ) :
    ∃ attempts, Attempted make state attempts ((round make first rest).run state).2 ∧
      Round (first :: rest) attempts ((round make first rest).run state).1 := by
  induction rest generalizing first state with
  | nil =>
      exact ⟨_, .cons rfl (.nil _), .single fun _ _ => rfl⟩
  | cons next rest ih =>
      rw [round, StateT.run_bind]
      rcases hmade : (make first).run state with ⟨outcome, middle⟩
      cases outcome with
      | ok body =>
          exact ⟨_, .cons hmade (.nil middle), .single fun _ hfailure => by contradiction⟩
      | error failure =>
          obtain ⟨attempts, hattempted, hround⟩ := ih next middle
          exact ⟨_, .cons hmade hattempted, hround.cons⟩

/-! ### All rounds -/

namespace Round

variable {urls : List String} {attempts : List Attempt} {result : Except CallFailure String}

/-- A round is a call without another round, unless its last failure calls for one. -/
theorem failover (h : Round urls attempts result) (hurls : urls ≠ []) {retries : Nat}
    (hstop : ∀ failure, result = .error failure → retries ≠ 0 → failure.failure.retriable = false) :
    Failover urls retries attempts result where
  order := h.order.trans (List.prefix_append urls _)
  failed := h.failed
  last := h.last
  whole failure hfailure :=
    ⟨1, Nat.le_refl 1, by omega, by rw [h.whole failure hfailure, Nat.one_mul]⟩
  again count done left failure hsplit hlength hlast := by
    have hpos : 0 < urls.length := List.length_pos_iff.2 hurls
    have hcount : count ≠ 0 := by
      rintro rfl
      rw [Nat.zero_mul, List.length_eq_zero_iff] at hlength
      rw [hlength] at hlast
      cases hlast
    have hle := h.length_le
    rw [hsplit, List.length_append, hlength] at hle
    have hround : urls.length ≤ count * urls.length :=
      Nat.le_mul_of_pos_left _ (Nat.pos_of_ne_zero hcount)
    obtain rfl : left = [] := List.length_eq_zero_iff.1 (by omega)
    rw [List.append_nil] at hsplit
    have hresult : result = .error failure := by
      have hown := h.last
      rw [hsplit, hlast] at hown
      exact (Option.some.inj hown).symm
    refine ⟨fun hleft => absurd rfl hleft, fun ⟨hretriable, hretries⟩ => ?_⟩
    rw [hstop failure hresult (by omega)] at hretriable
    contradiction

/-- After a round whose last failure may pass come the attempts of a call with one retry less. -/
theorem append {failure : CallFailure} (h : Round urls attempts (.error failure))
    (hretriable : failure.failure.retriable = true) {retries : Nat} {more : List Attempt}
    (hmore : Failover urls retries more result) :
    Failover urls (retries + 1) (attempts ++ more) result := by
  have hlength : attempts.length = urls.length := h.whole failure rfl
  have hbases : attempts.map Attempt.base = urls :=
    h.order.eq_of_length (by rw [List.length_map, hlength])
  have hne : more ≠ [] := by
    rintro rfl
    cases hmore.last
  refine ⟨?order, ?failed, ?last, ?whole, ?again⟩
  case order =>
    rw [List.map_append, hbases, List.replicate_succ, List.flatten_cons]
    exact (List.prefix_append_right_inj urls).2 hmore.order
  case failed =>
    intro attempt hmem
    rw [List.dropLast_append_of_ne_nil hne] at hmem
    rcases List.mem_append.1 hmem with hmem | hmem
    · exact h.forall_failed attempt hmem
    · exact hmore.failed attempt hmem
  case last =>
    rw [List.getLast?_append_of_ne_nil attempts hne]
    exact hmore.last
  case whole =>
    intro failure' hfailure
    obtain ⟨count, hpos, hle, hcount⟩ := hmore.whole failure' hfailure
    refine ⟨count + 1, by omega, by omega, ?_⟩
    rw [List.length_append, hlength, hcount, Nat.succ_mul, Nat.add_comm]
  case again =>
    intro count done left failure' hsplit hdone hlast
    have hpos : 0 < urls.length := hlength ▸ List.length_pos_iff.2 h.ne_nil
    obtain _ | count := count
    · rw [Nat.zero_mul, List.length_eq_zero_iff] at hdone
      rw [hdone] at hlast
      cases hlast
    -- The first of the rounds that are done is this one.
    obtain ⟨own, rfl⟩ : attempts <+: done := by
      refine List.prefix_of_prefix_length_le (List.prefix_append attempts more)
        (hsplit ▸ List.prefix_append done left) ?_
      rw [hlength, hdone, Nat.succ_mul]
      exact Nat.le_add_left _ _
    rw [List.append_assoc, List.append_cancel_left_eq] at hsplit
    have hown : own.length = count * urls.length := by
      rw [List.length_append, hlength, Nat.succ_mul] at hdone
      omega
    by_cases hnil : own = []
    · subst hnil
      rw [List.append_nil, h.last] at hlast
      obtain rfl := Except.error.inj (Option.some.inj hlast)
      have hcount : count = 0 := by
        rcases Nat.mul_eq_zero.1 hown.symm with hcount | hzero
        · exact hcount
        · omega
      rw [List.nil_append] at hsplit
      exact ⟨fun _ => ⟨hretriable, by omega⟩, fun _ => hsplit ▸ hne⟩
    · rw [List.getLast?_append_of_ne_nil attempts hnil] at hlast
      rw [hmore.again count own left failure' hsplit hown hlast, Nat.succ_le_succ_iff]

end Round

/-- After a round that failed comes another one, or the failure is what the rounds come to. -/
theorem run_rounds_succ {once : StateM τ (Except CallFailure String)} {state middle : τ}
    {failure : CallFailure} (h : once.run state = (.error failure, middle)) (retries : Nat) :
    (rounds once (retries + 1)).run state =
      if failure.failure.retriable then (rounds once retries).run middle
      else (.error failure, middle) := by
  have hbind : (rounds once (retries + 1)).run state =
      (if failure.failure.retriable then rounds once retries
        else return .error failure : StateM τ (Except CallFailure String)).run middle := by
    rw [rounds, StateT.run_bind, h]
    rfl
  rw [hbind]
  split <;> rfl

/-- Rounds make the attempts of a call, whatever the attempts come to. -/
theorem rounds_failover (make : String → StateM τ (Except CallFailure String)) (first : String)
    (rest : List String) (retries : Nat) (state : τ) :
    ∃ attempts,
      Attempted make state attempts ((rounds (round make first rest) retries).run state).2 ∧
        Failover (first :: rest) retries attempts
          ((rounds (round make first rest) retries).run state).1 := by
  induction retries generalizing state with
  | zero =>
      obtain ⟨attempts, hattempted, hround⟩ := round_attempted make first rest state
      exact ⟨attempts, hattempted, hround.failover (by simp) fun _ _ hne => absurd rfl hne⟩
  | succ retries ih =>
      obtain ⟨attempts, hattempted, hround⟩ := round_attempted make first rest state
      rcases honce : (round make first rest).run state with ⟨result, middle⟩
      rw [honce] at hattempted hround
      cases result with
      | ok body =>
          rw [rounds, StateT.run_bind, honce]
          exact ⟨attempts, hattempted, hround.failover (by simp) fun _ h => by contradiction⟩
      | error failure =>
          rw [run_rounds_succ honce]
          by_cases hretriable : failure.failure.retriable = true
          · obtain ⟨more, hmore, hfailover⟩ := ih middle
            rw [if_pos hretriable]
            exact ⟨attempts ++ more, hattempted.append hmore, hround.append hretriable hfailover⟩
          · rw [if_neg hretriable]
            refine ⟨attempts, hattempted, hround.failover (by simp) fun own hown _ => ?_⟩
            obtain rfl := Except.error.inj hown
            exact Bool.eq_false_iff.2 hretriable

namespace Failover

variable {urls : List String} {retries : Nat} {attempts : List Attempt} {failure : CallFailure}

/-- A failure that may pass is only what a call comes to when all retries were used. -/
theorem length_of_retriable (h : Failover urls retries attempts (.error failure))
    (hretriable : failure.failure.retriable = true) :
    attempts.length = (retries + 1) * urls.length := by
  obtain ⟨count, -, hle, hcount⟩ := h.whole failure rfl
  have hstop := h.again count attempts [] failure (List.append_nil attempts).symm hcount h.last
  have hnomore : ¬count ≤ retries := fun hmore => hstop.2 ⟨hretriable, hmore⟩ rfl
  rw [hcount, Nat.le_antisymm hle (Nat.lt_of_not_le hnomore)]

/-- A call comes to a failure of one of its attempts. -/
theorem exists_attempt {result : Except CallFailure String}
    (h : Failover urls retries attempts result) :
    ∃ attempt ∈ attempts, attempt.outcome = result := by
  obtain ⟨attempt, hattempt, houtcome⟩ := Option.map_eq_some_iff.1 h.last
  exact ⟨attempt, List.mem_of_getLast? hattempt, houtcome⟩

end Failover

/-! ### What an attempt fails with -/

/-- The ways in which an attempt at a URL fails. -/
inductive Fails (base : String) : CallFailure → Prop
  | noUrl (fault : Url.Fault) : Fails base ⟨none, RemoteCall.invalidBase base fault⟩
  | noPath : Fails base ⟨none, RemoteCall.pathlessBase base⟩
  | noAnswer : Fails base ⟨none, noAnswer⟩
  | brokenBody : Fails base ⟨none, brokenBody⟩
  | refused (status : Nat) (detail : String) : Fails base ⟨some status, refused status detail⟩

/-- A reply that is judged a failure is one of those that an attempt may come to. -/
theorem fails_of_judge {base : String} {reply : Option Http.Reply} {failure : CallFailure}
    (h : judge reply = .error failure) : Fails base failure := by
  rw [judge.eq_def] at h
  split at h
  · obtain rfl := Except.error.inj h
    exact .noAnswer
  · split at h
    · split at h
      · contradiction
      · obtain rfl := Except.error.inj h
        exact .brokenBody
    · obtain rfl := Except.error.inj h
      exact .refused _ _

/-- An attempt at what is no URL fails without a status. -/
theorem fails_of_url {call : RemoteCall} {base : String} {failure : Failure}
    (h : call.url base = .error failure) : Fails base ⟨none, failure⟩ := by
  rw [RemoteCall.url] at h
  split at h
  · obtain rfl := Except.error.inj h
    exact .noUrl _
  · split at h
    · obtain rfl := Except.error.inj h
      exact .noPath
    · contradiction

/-- An attempt fails in one of the ways in which attempts do. -/
theorem fails_of_attempt {transport : Http.Transport τ} {settings : RemoteSettings}
    {call : RemoteCall} {base : String} {state : τ} {failure : CallFailure}
    (h : ((attempt transport settings call base).run state).1 = .error failure) :
    Fails base failure := by
  rw [attempt] at h
  cases hurl : call.url base with
  | error own =>
      rw [hurl] at h
      obtain rfl := Except.error.inj h
      exact fails_of_url hurl
  | ok url =>
      rw [hurl] at h
      dsimp only at h
      split at h
      · exact fails_of_judge h
      · obtain rfl := Except.error.inj h
        exact .noAnswer

/-- The answer for a registry that is under no URL. -/
def noUrls : CallFailure :=
  ⟨none, .plain .registry "No url configured for the registry"⟩

namespace Fails

variable {base : String} {failure : CallFailure}

/-- A failure may pass if there was no answer, or one that says so. -/
theorem retriable_iff (h : Fails base failure) :
    failure.failure.retriable = true ↔
      failure = ⟨none, Remote.noAnswer⟩ ∨
        failure.status = some 502 ∨ failure.status = some 503 := by
  cases h with
  | noUrl fault => simp [RemoteCall.invalidBase, Failure.registry, Failure.because, Remote.noAnswer,
      Failure.retriableRegistry]
  | noPath => simp [RemoteCall.pathlessBase, Failure.plain, Remote.noAnswer,
      Failure.retriableRegistry]
  | noAnswer => simp [Remote.noAnswer, Failure.retriableRegistry]
  | brokenBody => simp [Remote.brokenBody, Failure.registry, Failure.because, Remote.noAnswer,
      Failure.retriableRegistry]
  | refused status detail =>
      have hretriable : (Remote.refused status detail).retriable = true ↔
          status = 502 ∨ status = 503 := by
        rw [Remote.refused]
        split
        · next hnotFound => simp [Failure.because, hnotFound, Http.Status.notFound]
        · split
          · next hunavailable =>
              simpa [Failure.retriableRegistry, Http.Status.isUnavailable] using hunavailable
          · next hunavailable =>
              simpa [Failure.registry, Failure.because, Http.Status.isUnavailable]
                using hunavailable
      simpa using hretriable

/-- No attempt fails for want of a URL. -/
theorem ne_noUrls (h : Fails base failure) : failure ≠ noUrls := by
  cases h with
  | noUrl fault => simp [RemoteCall.invalidBase, Failure.registry, Failure.because, noUrls,
      Failure.plain]
  | noPath =>
      intro heq
      have htext : "registry url " ++ base ++ " can't have a path" =
          "No url configured for the registry" :=
        congrArg (·.failure.message) heq
      have hfirst := congrArg (·.toList.head?) htext
      simp at hfirst
  | noAnswer => simp [Remote.noAnswer, Failure.retriableRegistry, noUrls, Failure.plain]
  | brokenBody => simp [Remote.brokenBody, Failure.registry, Failure.because, noUrls, Failure.plain]
  | refused status detail => simp [noUrls]

end Fails

/-! ### Calls -/

/-- What was attempted came to what an attempt at its URL came to. -/
theorem Attempted.exists_run {make : String → StateM τ (Except CallFailure String)}
    {state after : τ} {attempts : List Attempt} (h : Attempted make state attempts after) :
    ∀ attempt ∈ attempts, ∃ before, ((make attempt.base).run before).1 = attempt.outcome := by
  induction h with
  | nil state => exact fun _ hmem => absurd hmem List.not_mem_nil
  | cons made rest ih =>
      exact List.forall_mem_cons.2 ⟨⟨_, congrArg Prod.fst made⟩, ih⟩

/-- A call makes the attempts of its rounds over any transport, and comes to what the last of them
came to. It fails with a failure that may pass only after all rounds, and never as if there were no
URLs. -/
theorem performWithStatus_failover (transport : Http.Transport τ) (settings : RemoteSettings)
    (call : RemoteCall) (state : τ) :
    ∃ attempts,
      Attempted (attempt transport settings call) state attempts
        ((performWithStatus transport settings call).run state).2 ∧
      Failover settings.urls settings.maxRetries attempts
        ((performWithStatus transport settings call).run state).1 ∧
      (∀ attempt ∈ attempts, ∀ failure, attempt.outcome = .error failure →
        (failure.failure.retriable = true ↔ failure = ⟨none, noAnswer⟩ ∨
          failure.status = some 502 ∨ failure.status = some 503)) ∧
      (∀ failure, ((performWithStatus transport settings call).run state).1 = .error failure →
        failure.failure.retriable = true →
          attempts.length = (settings.maxRetries + 1) * settings.urls.length) ∧
      ((performWithStatus transport settings call).run state).1 ≠ .error noUrls := by
  obtain ⟨attempts, hattempted, hfailover⟩ := rounds_failover (attempt transport settings call)
    settings.firstUrl settings.otherUrls settings.maxRetries state
  have hfails : ∀ own ∈ attempts, ∀ failure, own.outcome = .error failure →
      Fails own.base failure := by
    intro own hmem failure hfailure
    obtain ⟨before, hbefore⟩ := hattempted.exists_run own hmem
    exact fails_of_attempt (hbefore.trans hfailure)
  refine ⟨attempts, hattempted, hfailover, ?_, ?_, ?_⟩
  · exact fun own hmem failure hfailure => (hfails own hmem failure hfailure).retriable_iff
  · intro failure hfailure
    have hown : Failover settings.urls settings.maxRetries attempts (.error failure) :=
      hfailure ▸ hfailover
    exact hown.length_of_retriable
  · intro hresult
    obtain ⟨own, hmem, houtcome⟩ := hfailover.exists_attempt
    exact (hfails own hmem noUrls (houtcome.trans hresult)).ne_noUrls rfl

end FramedAvro.Remote
