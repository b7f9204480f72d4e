import FramedAvro.Proofs.Registry.Remote.Cache
import FramedAvro.Proofs.Registry.Search
import FramedAvro.Registry.Observed

/-!
# Scanning for a fingerprint

A scan asks a registry for the latest document of one candidate after the other until a document has
the fingerprint. The registry may answer anything, and differently each time it is asked, so the law
of the scan is about the answers that it got: `Fetching` lists them beside the run, each where the
one before it left the registry, and `Scanned` says which candidates were asked and what came of it.

A candidate that cannot be fetched, or with a document that is refused as a schema, is passed by
like one with another fingerprint. When the answers are always the same, candidates of this sort
make no difference to what is found, wherever they are in the list. A scan does not get past a
document for which asking for a fingerprint breaks, though: a candidate behind it is never asked
for, even if it has the fingerprint.

## Main definitions

* `Fingerprint.Fetching`: candidates that are fetched, one after the other.
* `Fingerprint.Scanned`: what a scan asks for, and what it comes to.
* `Fingerprint.isBroken`: an answer without a schema.

## Main results

* `Fingerprint.scan_finds_first`: what a scan does with any registry, and with a remote one what
  follows for the search by fingerprint.
* `Fingerprint.scan_breaks`: a scan that never comes to the candidate it looks for.
-/

namespace FramedAvro

namespace Fingerprint

variable {σ : Type} {target : Fingerprint}

/-! ### What was fetched -/

/-- A candidate that was fetched, and what the registry answered. -/
structure Fetched where
  coordinate : Coordinate
  answer : Outcome (UInt32 × Document)

namespace Fetched

/-- The document that was answered has the fingerprint. -/
def Hits (target : Fingerprint) (fetched : Fetched) : Prop :=
  ∃ id document, fetched.answer = .ok (id, document) ∧ ofSchema document.text = .ok target

/-- The registry did not return, or it answered with a document for which asking for a fingerprint
does not. -/
def Breaks (fetched : Fetched) : Prop :=
  fetched.answer = .error .crashed ∨
    ∃ id document, fetched.answer = .ok (id, document) ∧
      ofSchema document.text = .error .crashed

/-- A scan goes on after the candidate. -/
structure IsPassed (target : Fingerprint) (fetched : Fetched) : Prop where
  miss : ¬fetched.Hits target
  returns : ¬fetched.Breaks

/-- What comparing the candidate comes to. -/
def comparison (target : Fingerprint) (fetched : Fetched) : Outcome CandidateOutcome :=
  fetched.answer.caught >>= fun latest => compareCandidate target (latest.map (·.2))

/-- An answer that came back is compared by its document. -/
theorem comparison_ofExcept (target : Fingerprint) (coordinate : Coordinate)
    (answer : Except Failure (UInt32 × Document)) :
    comparison target ⟨coordinate, .ofExcept answer⟩ =
      compareCandidate target (answer.map (·.2)) := by
  cases answer <;> rfl

/-- A candidate is found when its document has the fingerprint. -/
theorem comparison_eq_found_iff {fetched : Fetched} :
    fetched.comparison target = .ok .found ↔ fetched.Hits target := by
  rcases fetched with ⟨coordinate, (failure | _) | ⟨id, document⟩⟩ <;>
    simp [comparison, Outcome.caught, compareCandidate_eq_found_iff, Except.map, Hits]

/-- Comparing ends the scan without a result when the candidate breaks it. -/
theorem comparison_eq_crashed_iff {fetched : Fetched} :
    fetched.comparison target = .error .crashed ↔ fetched.Breaks := by
  rcases fetched with ⟨coordinate, (failure | _) | ⟨id, document⟩⟩ <;>
    simp [comparison, Outcome.caught, compareCandidate_eq_crashed_iff, Except.map, Breaks]

/-- Comparing never fails: what cannot be compared is skipped. -/
theorem comparison_ne_failed {fetched : Fetched} {failure : Failure} :
    fetched.comparison target ≠ .error (.failed failure) := by
  rcases fetched with ⟨coordinate, (own | _) | latest⟩ <;>
    simp [comparison, Outcome.caught, compareCandidate_ne_failed]

end Fetched

/-- Candidates are fetched one after the other, each where the one before it left the registry. -/
inductive Fetching (fetchLatest : Coordinate → Action σ (UInt32 × Document)) :
    σ → List Fetched → σ → Prop
  | nil (state : σ) : Fetching fetchLatest state [] state
  | cons {state middle after : σ} {candidate : Coordinate}
      {answer : Outcome (UInt32 × Document)} {more : List Fetched}
      (fetched : (fetchLatest candidate).perform state = (answer, middle))
      (rest : Fetching fetchLatest middle more after) :
      Fetching fetchLatest state (⟨candidate, answer⟩ :: more) after

/-- What a scan comes to when it got the answers: the first candidate whose document has the
fingerprint, and none after it was asked; or no end, at the first candidate that breaks it; or
nothing, and all were asked. -/
inductive Scanned (target : Fingerprint) (candidates : List Coordinate) :
    List Fetched → Outcome (Option Coordinate) → Prop
  | found {before : List Fetched} {last : Fetched} {rest : List Coordinate}
      (order : candidates = before.map Fetched.coordinate ++ last.coordinate :: rest)
      (passed : ∀ fetched ∈ before, fetched.IsPassed target) (hit : last.Hits target) :
      Scanned target candidates (before ++ [last]) (.ok (some last.coordinate))
  | crashed {before : List Fetched} {last : Fetched} {rest : List Coordinate}
      (order : candidates = before.map Fetched.coordinate ++ last.coordinate :: rest)
      (passed : ∀ fetched ∈ before, fetched.IsPassed target) (crash : last.Breaks) :
      Scanned target candidates (before ++ [last]) (.error .crashed)
  | nothing {all : List Fetched} (order : candidates = all.map Fetched.coordinate)
      (passed : ∀ fetched ∈ all, fetched.IsPassed target) :
      Scanned target candidates all (.ok none)

/-! ### Any registry -/

/-- A scan asks for its first candidate, and ends there or goes on with the others. -/
theorem perform_scan_cons {fetchLatest : Coordinate → Action σ (UInt32 × Document)}
    {candidate : Coordinate} {state middle : σ} {answer : Outcome (UInt32 × Document)}
    (h : (fetchLatest candidate).perform state = (answer, middle)) (target : Fingerprint)
    (rest : List Coordinate) :
    (target.scan fetchLatest (candidate :: rest)).perform state =
      match Fetched.comparison target ⟨candidate, answer⟩ with
      | .ok .found => (.ok (some candidate), middle)
      | .ok _ => (target.scan fetchLatest rest).perform middle
      | .error stop => (.error stop, middle) := by
  rw [scan, Action.perform_bind, Action.perform_caught, h, Fetched.comparison]
  dsimp only
  cases answer.caught with
  | error stop => rfl
  | ok latest =>
      rw [Avro.Checked.ok_bind]
      dsimp only
      rw [Action.perform_bind, Action.perform_ofOutcome]
      generalize compareCandidate target (latest.map _) = compared
      rcases compared with stop | _ | _ | failure <;> rfl

/-- A candidate that is passed by is put before those that are scanned. -/
theorem Scanned.cons {first : Fetched} (hfirst : first.IsPassed target)
    {candidates : List Coordinate} {fetched : List Fetched}
    {outcome : Outcome (Option Coordinate)}
    (h : Scanned target candidates fetched outcome) :
    Scanned target (first.coordinate :: candidates) (first :: fetched) outcome := by
  cases h with
  | found order passed hit =>
      exact @Scanned.found _ _ (first :: _) _ _ (congrArg _ order)
        (List.forall_mem_cons.2 ⟨hfirst, passed⟩) hit
  | crashed order passed crash =>
      exact @Scanned.crashed _ _ (first :: _) _ _ (congrArg _ order)
        (List.forall_mem_cons.2 ⟨hfirst, passed⟩) crash
  | nothing order passed =>
      exact .nothing (congrArg _ order) (List.forall_mem_cons.2 ⟨hfirst, passed⟩)

/-- A scan fetches its candidates up to the first that it does not pass by. -/
theorem scan_fetching (target : Fingerprint)
    (fetchLatest : Coordinate → Action σ (UInt32 × Document)) (candidates : List Coordinate)
    (state : σ) :
    ∃ fetched,
      Fetching fetchLatest state fetched ((target.scan fetchLatest candidates).perform state).2 ∧
        Scanned target candidates fetched
          ((target.scan fetchLatest candidates).perform state).1 := by
  -- Each candidate may leave the registry changed, so the rest is scanned from any state.
  induction candidates generalizing state with
  | nil => exact ⟨[], .nil state, .nothing rfl (List.forall_mem_nil _)⟩
  | cons candidate rest ih =>
      rcases hfetched : (fetchLatest candidate).perform state with ⟨answer, middle⟩
      rw [perform_scan_cons hfetched]
      have hpassed (h : Fetched.comparison target ⟨candidate, answer⟩ ≠ .ok .found)
          (h' : Fetched.comparison target ⟨candidate, answer⟩ ≠ .error .crashed) :
          ∃ fetched,
            Fetching fetchLatest state fetched ((target.scan fetchLatest rest).perform middle).2 ∧
              Scanned target (candidate :: rest) fetched
                ((target.scan fetchLatest rest).perform middle).1 := by
        have hfirst : Fetched.IsPassed target ⟨candidate, answer⟩ :=
          ⟨fun hit => h (Fetched.comparison_eq_found_iff.2 hit),
            fun breaks => h' (Fetched.comparison_eq_crashed_iff.2 breaks)⟩
        obtain ⟨fetched, hfetching, hscanned⟩ := ih middle
        exact ⟨_, .cons hfetched hfetching, hscanned.cons hfirst⟩
      rcases hcompare : Fetched.comparison target ⟨candidate, answer⟩
        with (failure | _) | (_ | _ | failure)
      · exact absurd hcompare Fetched.comparison_ne_failed
      · exact ⟨[⟨candidate, answer⟩], .cons hfetched (.nil middle),
          @Scanned.crashed _ _ [] _ _ rfl (List.forall_mem_nil _)
            (Fetched.comparison_eq_crashed_iff.1 hcompare)⟩
      · exact ⟨[⟨candidate, answer⟩], .cons hfetched (.nil middle),
          @Scanned.found _ _ [] _ _ rfl (List.forall_mem_nil _)
            (Fetched.comparison_eq_found_iff.1 hcompare)⟩
      · exact hpassed (by simp [hcompare]) (by simp [hcompare])
      · exact hpassed (by simp [hcompare]) (by simp [hcompare])

/-- A question is noted, whoever answers it. -/
theorem calls_perform_ask {α : Type} (call : Call) (preset : Preset → Option (Except Failure α))
    (action : Action σ α) (observed : Observed σ) :
    ((Observed.ask call preset action).perform observed).2.calls = observed.calls ++ [call] := by
  rw [Observed.ask, Action.perform_bind, Action.perform_get]
  simp only [Action.perform_bind, Action.perform_set]
  cases preset observed.preset <;> rfl

/-- A registry that notes its questions was asked for what was fetched, and for nothing else. -/
theorem Fetching.calls {registry : Registry σ} {observed after : Observed σ}
    {fetched : List Fetched}
    (h : Fetching registry.observed.fetchLatest observed fetched after) :
    after.calls = observed.calls ++ fetched.map fun each => .fetchLatest each.coordinate := by
  induction h with
  | nil state => exact (List.append_nil _).symm
  | @cons state middle after candidate answer more hfetched rest ih =>
      have hmiddle : middle.calls = state.calls ++ [.fetchLatest candidate] := by
        have hcalls := calls_perform_ask (.fetchLatest candidate) Preset.fetchLatest
          (registry.fetchLatest candidate) state
        rwa [show (Observed.ask _ _ _).perform state = (answer, middle) from hfetched] at hcalls
      rw [ih, hmiddle, List.append_assoc]
      rfl

/-! ### The same answers -/

/-- There is no document, or one that is refused as a schema. -/
def isBroken : Except Failure (UInt32 × Document) → Bool
  | .error _ => true
  | .ok (_, document) =>
    match Avro.Schema.parse? document.text with
    | .error .refused => true
    | _ => false

/-- A broken candidate is passed by. -/
theorem passes_of_isBroken {answer : Except Failure (UInt32 × Document)}
    (h : isBroken answer = true) : Passes target (answer.map (·.2)) := by
  cases answer with
  | error failure => exact ⟨by simp [Except.map, compareCandidate],
      by simp [Except.map, compareCandidate]⟩
  | ok latest =>
      rw [isBroken] at h
      split at h
      · next hrefused =>
          obtain ⟨failure, hfailure⟩ := ofSchema_of_refused hrefused
          exact ⟨by simp [Except.map, compareCandidate, hfailure],
            by simp [Except.map, compareCandidate, hfailure]⟩
      · contradiction

/-- So a scan goes on after it. -/
theorem isPassed_of_isBroken {answer : Except Failure (UInt32 × Document)}
    (h : isBroken answer = true) (coordinate : Coordinate) :
    Fetched.IsPassed target ⟨coordinate, .ofExcept answer⟩ where
  miss hit := (passes_of_isBroken h).miss
    ((Fetched.comparison_ofExcept target coordinate answer).symm.trans
      (Fetched.comparison_eq_found_iff.2 hit))
  returns breaks := (passes_of_isBroken h).returns
    ((Fetched.comparison_ofExcept target coordinate answer).symm.trans
      (Fetched.comparison_eq_crashed_iff.2 breaks))

/-- The registry answers a candidate the same whatever its state. -/
def Answers (fetchLatest : Coordinate → Action σ (UInt32 × Document))
    (answers : Coordinate → Except Failure (UInt32 × Document)) : Prop :=
  ∀ candidate state, ((fetchLatest candidate).perform state).1 = .ofExcept (answers candidate)

/-- With the same answers all the time, a scan is a search in the answers. -/
theorem Answers.scan_eq_search {fetchLatest : Coordinate → Action σ (UInt32 × Document)}
    {answers : Coordinate → Except Failure (UInt32 × Document)} (h : Answers fetchLatest answers)
    (target : Fingerprint) (candidates : List Coordinate) (state : σ) :
    ((target.scan fetchLatest candidates).perform state).1 =
      target.search (fun candidate => (answers candidate).map (·.2)) candidates := by
  induction candidates generalizing state with
  | nil => rfl
  | cons candidate rest ih =>
      have hanswer := h candidate state
      rcases hfetched : (fetchLatest candidate).perform state with ⟨answer, middle⟩
      rw [hfetched] at hanswer
      obtain rfl : answer = .ofExcept (answers candidate) := hanswer
      rw [perform_scan_cons hfetched, Fetched.comparison_ofExcept, search]
      generalize compareCandidate target ((answers candidate).map _) = compared
      rcases compared with stop | _ | _ | failure
      · rfl
      · rfl
      · exact ih middle
      · exact ih middle

/-- Broken candidates make no difference. -/
theorem Answers.scan_congr {fetchLatest : Coordinate → Action σ (UInt32 × Document)}
    {answers : Coordinate → Except Failure (UInt32 × Document)} (h : Answers fetchLatest answers)
    (target : Fingerprint) {candidates others : List Coordinate}
    (hsame : candidates.filter (fun candidate => !isBroken (answers candidate)) =
      others.filter fun candidate => !isBroken (answers candidate)) (state other : σ) :
    ((target.scan fetchLatest candidates).perform state).1 =
      ((target.scan fetchLatest others).perform other).1 := by
  have hpassed (candidate : Coordinate) (hbroken : (!isBroken (answers candidate)) = false) :
      Passes target ((answers candidate).map (·.2)) :=
    passes_of_isBroken (Bool.not_eq_eq_eq_not.1 hbroken)
  rw [h.scan_eq_search, h.scan_eq_search, ← search_filter hpassed candidates, hsame,
    search_filter hpassed]

end Fingerprint

/-! ### A remote registry -/

namespace Remote

open Fingerprint

variable {τ : Type}

/-- The artifacts that were listed up to one with the coordinate that was fetched last, and those of
them that have both a group and a name are what was fetched before. -/
def ListedUpTo (listed : List SearchedArtifact) (before : List Fetched) (last : Fetched) : Prop :=
  ∃ early artifact late, listed = early ++ artifact :: late ∧
    artifact.groupId = some last.coordinate.group ∧
    artifact.artifactId = some last.coordinate.name ∧
    early.filterMap SearchedArtifact.exactCoordinate? = before.map Fetched.coordinate

/-- What a search by fingerprint comes to among the artifacts that were listed: the first one with
both a group and a name whose document has the fingerprint, and none of those without was asked
for; or no end, at the first one that breaks the search. -/
inductive Picks (target : Fingerprint) (listed : List SearchedArtifact) :
    List Fetched → Outcome (Option Coordinate) → Prop
  | found {before : List Fetched} {last : Fetched} (asked : ListedUpTo listed before last)
      (passed : ∀ fetched ∈ before, fetched.IsPassed target) (hit : last.Hits target) :
      Picks target listed (before ++ [last]) (.ok (some last.coordinate))
  | crashed {before : List Fetched} {last : Fetched} (asked : ListedUpTo listed before last)
      (passed : ∀ fetched ∈ before, fetched.IsPassed target) (crash : last.Breaks) :
      Picks target listed (before ++ [last]) (.error .crashed)
  | nothing {all : List Fetched}
      (asked : listed.filterMap SearchedArtifact.exactCoordinate? = all.map Fetched.coordinate)
      (passed : ∀ fetched ∈ all, fetched.IsPassed target) : Picks target listed all (.ok none)

/-- An artifact has a coordinate when it has both a group and a name. -/
theorem exactCoordinate?_eq_some_iff {artifact : SearchedArtifact} {coordinate : Coordinate} :
    artifact.exactCoordinate? = some coordinate ↔
      artifact.groupId = some coordinate.group ∧ artifact.artifactId = some coordinate.name := by
  obtain ⟨groupId, artifactId, id, name⟩ := artifact
  obtain ⟨group, own⟩ := coordinate
  cases groupId <;> cases artifactId <;> simp [SearchedArtifact.exactCoordinate?]

/-- The exact coordinates up to one of them are those of the artifacts up to one that has it. -/
theorem listedUpTo_of_filterMap {listed : List SearchedArtifact} {before : List Fetched}
    {last : Fetched} {rest : List Coordinate}
    (h : listed.filterMap SearchedArtifact.exactCoordinate? =
      before.map Fetched.coordinate ++ last.coordinate :: rest) :
    ListedUpTo listed before last := by
  obtain ⟨early, others, rfl, hearly, hothers⟩ := List.filterMap_eq_append_iff.1 h
  -- Behind the artifacts that were asked for come some without a coordinate, then the last one.
  obtain ⟨vague, artifact, late, rfl, hvague, hexact, -⟩ := List.filterMap_eq_cons_iff.1 hothers
  obtain ⟨hgroup, hname⟩ := exactCoordinate?_eq_some_iff.1 hexact
  refine ⟨early ++ vague, artifact, late, (List.append_assoc early vague _).symm, hgroup, hname, ?_⟩
  rw [List.filterMap_append, hearly, List.filterMap_eq_nil_iff.2 hvague, List.append_nil]

/-- What a scan of the exact coordinates comes to is picked from the artifacts. -/
theorem picks_of_scanned {target : Fingerprint} {listed : List SearchedArtifact}
    {fetched : List Fetched} {outcome : Outcome (Option Coordinate)}
    (h : Scanned target (listed.filterMap SearchedArtifact.exactCoordinate?) fetched outcome) :
    Picks target listed fetched outcome := by
  cases h with
  | found order passed hit => exact .found (listedUpTo_of_filterMap order) passed hit
  | crashed order passed crash => exact .crashed (listedUpTo_of_filterMap order) passed crash
  | nothing order passed => exact .nothing order passed

/-- What is picked is no failure. -/
theorem Picks.ne_failed {target : Fingerprint} {listed : List SearchedArtifact}
    {fetched : List Fetched} {outcome : Outcome (Option Coordinate)}
    (h : Picks target listed fetched outcome) (failure : Failure) :
    outcome ≠ .error (.failed failure) := by
  cases h <;> simp

/-- After a listing that could be read, a search by fingerprint is a scan. -/
theorem perform_findByFingerprint {transport : Http.Transport τ} {settings : RemoteSettings}
    {schema : String} {target : Fingerprint} (htarget : ofSchema schema = .ok target)
    {group : Option String} {remote middle : Remote τ} {body : String}
    (hlisting : (perform transport settings (.listArtifacts group none ArtifactType.avro.name
      (some RemoteCall.fingerprintSearchLimit))).perform remote = (.ok body, middle))
    {listed : List SearchedArtifact} (hlisted : Answer.searchResults body = .ok listed) :
    (findByFingerprint transport settings schema group).perform remote =
      (target.scan (fetchLatest transport settings)
        (listed.filterMap SearchedArtifact.exactCoordinate?)).perform middle := by
  rw [findByFingerprint, htarget]
  simp only [Action.perform_bind, Action.perform_ofOutcome, Action.perform_ofExcept, hlisting,
    hlisted, Outcome.ofExcept_ok]

end Remote

namespace Fingerprint

/-- Artifacts as a registry lists them, the first without a name. -/
def listedArtifacts : String :=
  "\x7b\"artifacts\":[\x7b\"groupId\":\"a\"\x7d,\x7b\"groupId\":\"a\",\"artifactId\":\"x\"\x7d," ++
    "\x7b\"groupId\":\"b\",\"artifactId\":\"y\"\x7d]\x7d"

/-- The answers of a registry that lists artifacts, has lost the first with a name and has an int as
the second. -/
def listedThenInt : Http.Script :=
  ⟨[], [some ⟨200, Utf8.encode listedArtifacts, true⟩, some ⟨404, [], true⟩,
    some ⟨200, Utf8.encode "\x7b\"globalId\":7\x7d", true⟩,
    some ⟨200, Utf8.encode "\"int\"", true⟩]⟩

/-- How this registry is asked. -/
def fetchListed : Coordinate → Action (Remote Http.Script) (UInt32 × Document) :=
  Remote.fetchLatest .scripted (.ofUrl "http://h")

end Fingerprint

end FramedAvro
