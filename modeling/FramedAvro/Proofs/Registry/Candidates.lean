import FramedAvro.Proofs.Avro.Parse
import FramedAvro.Proofs.Json.Sorted
import FramedAvro.Registry.Fingerprint

/-!
# Comparing candidates

A search by fingerprint compares one candidate after the other. It is tempting to read it as the
first candidate that is a hit, since a candidate without a document and one whose document is no
schema are passed by. But there are documents on which comparing breaks: with such a candidate the
search ends, and whether a later one is a hit is never found out.

So a search has three ends, which `Fingerprint.Searched` tells apart by the first candidate that is
not passed by.

## Main definitions

* `Fingerprint.Passes`: a candidate that a search passes by.
* `Fingerprint.Searched`: what a search comes to.

## Main results

* `Fingerprint.compareCandidate_eq_found_iff`, `Fingerprint.compareCandidate_eq_crashed_iff`: when a
  candidate is a hit, and when comparing it breaks.
* `Fingerprint.searched`: every search comes to what `Searched` says.
-/

namespace FramedAvro.Fingerprint

variable {target : Fingerprint}

/-! ### Fingerprints of texts -/

/-- The fingerprint of a text is that of the canonical form of the schema it is read as. -/
theorem ofSchema_eq_ok_iff {schema : String} {fingerprint : Fingerprint} :
    ofSchema schema = .ok fingerprint ↔ ∃ parsed form, Avro.Schema.parse? schema = .ok parsed ∧
      parsed.canonicalForm? = some form ∧ fingerprint = ⟨Md5.digest (Utf8.encode form)⟩ := by
  rw [ofSchema, canonicalForm]
  rcases Avro.Schema.parse? schema with (_ | _) | parsed
  · simp [Outcome.ofChecked, Except.map]
  · simp [Outcome.ofChecked, Except.map]
  · cases hform : parsed.canonicalForm? <;>
      simp [Outcome.ofChecked, Except.map, hform, throw, throwThe, MonadExceptOf.throw, eq_comm]

/-- Asking for a fingerprint breaks when reading the schema does, and when the schema that is read
has no canonical form. -/
theorem ofSchema_eq_crashed_iff {schema : String} :
    ofSchema schema = .error .crashed ↔ Avro.Schema.parse? schema = .error .crash ∨
      ∃ parsed, Avro.Schema.parse? schema = .ok parsed ∧ parsed.canonicalForm? = none := by
  rw [ofSchema, canonicalForm]
  rcases Avro.Schema.parse? schema with (_ | _) | parsed
  · simp [Outcome.ofChecked, Except.map]
  · simp [Outcome.ofChecked, Except.map]
  · cases hform : parsed.canonicalForm? <;>
      simp [Outcome.ofChecked, Except.map, hform, throw, throwThe, MonadExceptOf.throw]

/-- A text that is refused as a schema has no fingerprint, but asking for one returns. -/
theorem ofSchema_of_refused {schema : String}
    (h : Avro.Schema.parse? schema = .error .refused) :
    ∃ failure, ofSchema schema = .error (.failed failure) := by
  rw [ofSchema, canonicalForm, h]
  exact ⟨_, rfl⟩

/-- A text that is a schema has a fingerprint, unless asking for one breaks. -/
theorem ofSchema_of_parse {schema : String} {parsed : Avro.Schema}
    (h : Avro.Schema.parse? schema = .ok parsed) :
    (∃ fingerprint, ofSchema schema = .ok fingerprint) ∨ ofSchema schema = .error .crashed := by
  cases hform : parsed.canonicalForm? with
  | some form => exact .inl ⟨_, ofSchema_eq_ok_iff.2 ⟨parsed, form, h, hform, rfl⟩⟩
  | none => exact .inr (ofSchema_eq_crashed_iff.2 (.inr ⟨parsed, h, hform⟩))

/-- An enum with a number as the order among its attributes. -/
def orderedEnum : Json :=
  .object [("name", .string "E"), ("order", .number (.ofInt 1)), ("symbols", .array [.string "A"]),
    ("type", .string "enum")]

/-- The enum is a schema, but one without a canonical form, so asking for its fingerprint breaks. -/
theorem ofSchema_orderedEnum : (∃ parsed, Avro.Schema.parse? orderedEnum.text = .ok parsed) ∧
    ofSchema orderedEnum.text = .error .crashed := by
  have hrun : (Avro.SchemaJson.read none orderedEnum).run Avro.Known.empty =
      .ok (.named (.enum ⟨⟨none, "E"⟩, [("order", .number (.ofInt 1))]⟩ ["A"] none),
        Avro.Known.empty.finish
          (.enum ⟨⟨none, "E"⟩, [("order", .number (.ofInt 1))]⟩ ["A"] none) []) := by
    rw [orderedEnum, Avro.SchemaJson.read, Avro.SchemaJson.readObject_enum rfl rfl]
    rfl
  have hread : Json.parseSorted? orderedEnum.text = some orderedEnum :=
    Json.parseSorted?_of_sorted? (by decide) rfl
  have hparse := Avro.Schema.parse?_eq_ok_iff.2
    ⟨orderedEnum, hread, Avro.Schema.ofJson?_of_run hrun⟩
  exact ⟨⟨_, hparse⟩, ofSchema_eq_crashed_iff.2 (.inr ⟨_, hparse, rfl⟩)⟩

/-! ### One candidate -/

/-- A candidate is a hit when it has a document with the fingerprint. -/
theorem compareCandidate_eq_found_iff {candidate : Except Failure Document} :
    compareCandidate target candidate = .ok .found ↔
      ∃ document, candidate = .ok document ∧ ofSchema document.text = .ok target := by
  cases candidate with
  | error failure => simp [compareCandidate]
  | ok document =>
      rw [compareCandidate]
      rcases hown : ofSchema document.text with (failure | _) | fingerprint
      · simp [hown]
      · simp [hown]
      · by_cases heq : fingerprint = target <;> simp [hown, heq]

/-- Comparing a candidate breaks when it has a document for which asking for a fingerprint does. -/
theorem compareCandidate_eq_crashed_iff {candidate : Except Failure Document} :
    compareCandidate target candidate = .error .crashed ↔
      ∃ document, candidate = .ok document ∧ ofSchema document.text = .error .crashed := by
  cases candidate with
  | error failure => simp [compareCandidate]
  | ok document =>
      rw [compareCandidate]
      rcases hown : ofSchema document.text with (failure | _) | fingerprint <;> simp [hown]

/-- Comparing a candidate never fails: what cannot be compared is skipped. -/
theorem compareCandidate_ne_failed {candidate : Except Failure Document} {failure : Failure} :
    compareCandidate target candidate ≠ .error (.failed failure) := by
  cases candidate with
  | error failure => simp [compareCandidate]
  | ok document =>
      rw [compareCandidate]
      rcases ofSchema document.text with (failure | _) | fingerprint <;> simp

/-- A search passes a candidate by that is no hit and on which comparing does not break. -/
structure Passes (target : Fingerprint) (candidate : Except Failure Document) : Prop where
  miss : compareCandidate target candidate ≠ .ok .found
  returns : compareCandidate target candidate ≠ .error .crashed

/-- A candidate is a hit, breaks the search or is passed by. -/
theorem compareCandidate_cases (target : Fingerprint) (candidate : Except Failure Document) :
    compareCandidate target candidate = .ok .found ∨
      compareCandidate target candidate = .error .crashed ∨ Passes target candidate := by
  by_cases hfound : compareCandidate target candidate = .ok .found
  · exact .inl hfound
  · by_cases hcrash : compareCandidate target candidate = .error .crashed
    · exact .inr (.inl hcrash)
    · exact .inr (.inr ⟨hfound, hcrash⟩)

/-- A candidate that is passed by is different or skipped. -/
theorem Passes.eq_ok {candidate : Except Failure Document} (h : Passes target candidate) :
    compareCandidate target candidate = .ok .different ∨
      ∃ failure, compareCandidate target candidate = .ok (.skipped failure) := by
  rcases hcompare : compareCandidate target candidate with (failure | _) | (_ | _ | failure)
  · exact absurd hcompare compareCandidate_ne_failed
  · exact absurd hcompare h.returns
  · exact absurd hcompare h.miss
  · exact .inl rfl
  · exact .inr ⟨failure, rfl⟩

/-! ### All candidates -/

section Search

variable {fetch : Coordinate → Except Failure Document} {candidate : Coordinate}

/-- A search ends at a hit. -/
theorem search_cons_found (h : compareCandidate target (fetch candidate) = .ok .found)
    (rest : List Coordinate) : target.search fetch (candidate :: rest) = .ok (some candidate) := by
  rw [search, h]
  rfl

/-- A search breaks where comparing a candidate does. -/
theorem search_cons_crashed (h : compareCandidate target (fetch candidate) = .error .crashed)
    (rest : List Coordinate) : target.search fetch (candidate :: rest) = .error .crashed := by
  rw [search, h]
  rfl

/-- A search goes on after a candidate that is passed by. -/
theorem search_cons_passes (h : Passes target (fetch candidate)) (rest : List Coordinate) :
    target.search fetch (candidate :: rest) = target.search fetch rest := by
  rw [search]
  rcases h.eq_ok with hdifferent | ⟨failure, hskipped⟩
  · rw [hdifferent]
    rfl
  · rw [hskipped]
    rfl

/-- What a search comes to: a hit behind candidates that are passed by, a candidate behind such ones
on which comparing breaks, or nothing because all are passed by. -/
inductive Searched (target : Fingerprint) (fetch : Coordinate → Except Failure Document) :
    List Coordinate → Outcome (Option Coordinate) → Prop
  | found {before rest : List Coordinate} {candidate : Coordinate}
      (passed : ∀ other ∈ before, Passes target (fetch other))
      (hit : compareCandidate target (fetch candidate) = .ok .found) :
      Searched target fetch (before ++ candidate :: rest) (.ok (some candidate))
  | crashed {before rest : List Coordinate} {candidate : Coordinate}
      (passed : ∀ other ∈ before, Passes target (fetch other))
      (crash : compareCandidate target (fetch candidate) = .error .crashed) :
      Searched target fetch (before ++ candidate :: rest) (.error .crashed)
  | nothing {all : List Coordinate} (passed : ∀ other ∈ all, Passes target (fetch other)) :
      Searched target fetch all (.ok none)

/-- A candidate that is passed by may stand before the others. -/
theorem Searched.cons {candidates : List Coordinate} {outcome : Outcome (Option Coordinate)}
    (h : Searched target fetch candidates outcome) (hfirst : Passes target (fetch candidate)) :
    Searched target fetch (candidate :: candidates) outcome := by
  cases h with
  | @found before rest hit passed isHit =>
      exact @Searched.found _ _ (candidate :: before) rest hit
        (List.forall_mem_cons.2 ⟨hfirst, passed⟩) isHit
  | @crashed before rest last passed crash =>
      exact @Searched.crashed _ _ (candidate :: before) rest last
        (List.forall_mem_cons.2 ⟨hfirst, passed⟩) crash
  | nothing passed => exact .nothing (List.forall_mem_cons.2 ⟨hfirst, passed⟩)

/-- A search goes through its candidates up to the first that is not passed by. -/
theorem searched (target : Fingerprint) (fetch : Coordinate → Except Failure Document)
    (candidates : List Coordinate) :
    Searched target fetch candidates (target.search fetch candidates) := by
  induction candidates with
  | nil => exact .nothing (List.forall_mem_nil _)
  | cons candidate rest ih =>
      rcases compareCandidate_cases target (fetch candidate) with hfound | hcrash | hpasses
      · rw [search_cons_found hfound]
        exact @Searched.found _ _ [] rest candidate (List.forall_mem_nil _) hfound
      · rw [search_cons_crashed hcrash]
        exact @Searched.crashed _ _ [] rest candidate (List.forall_mem_nil _) hcrash
      · rw [search_cons_passes hpasses]
        exact ih.cons hpasses

/-- What a search finds is a hit. -/
theorem hit_of_search {candidates : List Coordinate} {found : Coordinate}
    (h : target.search fetch candidates = .ok (some found)) :
    found ∈ candidates ∧ compareCandidate target (fetch found) = .ok .found := by
  have hsearched := searched target fetch candidates
  rw [h] at hsearched
  cases hsearched with
  | found passed hit => exact ⟨by simp, hit⟩

/-- Candidates that are passed by make no difference to a search. -/
theorem search_filter {keep : Coordinate → Bool}
    (h : ∀ candidate, keep candidate = false → Passes target (fetch candidate))
    (candidates : List Coordinate) :
    target.search fetch (candidates.filter keep) = target.search fetch candidates := by
  induction candidates with
  | nil => rfl
  | cons candidate rest ih =>
      cases hkeep : keep candidate with
      | false =>
          rw [List.filter_cons_of_neg (by simp [hkeep]), search_cons_passes (h candidate hkeep), ih]
      | true =>
          rw [List.filter_cons_of_pos hkeep]
          rcases compareCandidate_cases target (fetch candidate) with hfound | hcrash | hpasses
          · rw [search_cons_found hfound, search_cons_found hfound]
          · rw [search_cons_crashed hcrash, search_cons_crashed hcrash]
          · rw [search_cons_passes hpasses, search_cons_passes hpasses, ih]

end Search

end FramedAvro.Fingerprint
