import FramedAvro.Proofs.Json.Canonical
import FramedAvro.Proofs.Registry.Candidates
import FramedAvro.Proofs.Registry.Changes

/-!
# Finding what there is

A lookup in memory goes through the artifacts in the order of their coordinates, so what a search
finds is the least artifact with the property it looks for, and it finds nothing only when no
artifact in the group has it. The search by content looks at every version of an artifact and the
search by fingerprint at the latest document alone.

A lookup of a valid schema does not fail in any other way than by finding nothing: what is found has
a latest document, since every id that the tables mention has one, and candidates without a schema
are passed by. But it may not return at all. The search by fingerprint does not get past a document
for which asking for a fingerprint breaks, so such an artifact hides those behind it.

## Main definitions

* `Coordinate.Least`: the least coordinate in a group with a property.
* `Memory.HasContent`, `Memory.HasFingerprint`: the properties that are looked for.
* `Memory.Chosen`: the artifact that a lookup has to answer with.
* `Memory.Breaks`, `Memory.BreaksLookup`: an artifact that a search does not get past, and a lookup
  that comes to one.

## Main results

* `Change.findSchema_finds`: when a lookup fails or breaks, and what it answers otherwise.
-/

namespace FramedAvro

namespace Coordinate

/-- The order of coordinates: by group, and in a group by name. -/
def Before (c other : Coordinate) : Prop :=
  c.group < other.group ∨ c.group = other.group ∧ c.name < other.name

/-- What compares as less comes before. -/
theorem before_of_compare {c other : Coordinate} (h : compare c other = .lt) : c.Before other := by
  have hthen : (compare c.group other.group).then (compare c.name other.name) = .lt := h
  rcases Ordering.then_eq_lt.1 hthen with hgroup | ⟨hgroup, hname⟩
  · exact .inl (compareOfLessAndEq_eq_lt.1 hgroup)
  · exact .inr ⟨Std.LawfulEqOrd.compare_eq_iff_eq.1 hgroup, compareOfLessAndEq_eq_lt.1 hname⟩

/-- The least coordinate in a group, or of all of them, with a property. -/
structure Least (group : Option String) (P : Coordinate → Prop) (c : Coordinate) : Prop where
  inGroup : c.inGroup group = true
  holds : P c
  least : ∀ other, other.inGroup group = true → P other → other = c ∨ c.Before other

/-- No coordinate in a group has a property. -/
def Nowhere (group : Option String) (P : Coordinate → Prop) : Prop :=
  ∀ c, c.inGroup group = true → ¬P c

/-- What a search for a property answers: the least coordinate that has it, or nothing when there is
none. -/
inductive Finds (group : Option String) (P : Coordinate → Prop) : Option Coordinate → Prop
  | nowhere (h : Nowhere group P) : Finds group P none
  | least {c : Coordinate} (h : Least group P c) : Finds group P (some c)

/-- Of two coordinates only one is before the other. -/
theorem Before.asymm {c other : Coordinate} (h : c.Before other) : ¬other.Before c := by
  rintro (hgroup | ⟨hgroup, hname⟩)
  · rcases h with hgroup' | ⟨hgroup', -⟩
    · exact String.lt_asymm hgroup hgroup'
    · exact String.lt_irrefl _ (hgroup' ▸ hgroup)
  · rcases h with hgroup' | ⟨-, hname'⟩
    · exact String.lt_irrefl _ (hgroup ▸ hgroup')
    · exact String.lt_asymm hname hname'

/-- Where there is a least coordinate, there is one. -/
theorem Least.not_nowhere {group : Option String} {P : Coordinate → Prop} {c : Coordinate}
    (h : Least group P c) : ¬Nowhere group P :=
  fun hnowhere => hnowhere c h.inGroup h.holds

/-- In a list that is in order, whatever is not in front of an item is the item or behind it. -/
theorem mem_of_pairwise {α : Type} {R : α → α → Prop} {before after : List α} {a b : α}
    (horder : (before ++ a :: after).Pairwise R) (hmem : b ∈ before ++ a :: after) :
    b ∈ before ∨ b = a ∨ R a b := by
  rcases List.mem_append.1 hmem with hearly | hlate
  · exact .inl hearly
  · rcases List.mem_cons.1 hlate with rfl | hlater
    · exact .inr (.inl rfl)
    · have htail := (List.pairwise_append.1 horder).2.1
      exact .inr (.inr ((List.pairwise_cons.1 htail).1 b hlater))

/-- Going through what is in order of its coordinates, the first hit is the least one. -/
theorem finds_of_pairwise {α : Type} {coordinate : α → Coordinate} {all : List α}
    (horder : all.Pairwise fun a b => (coordinate a).Before (coordinate b)) {group : Option String}
    {P : Coordinate → Prop} {hit : α → Bool}
    (hsound : ∀ a ∈ all, hit a = true → (coordinate a).inGroup group = true ∧ P (coordinate a))
    (hcomplete : ∀ c, c.inGroup group = true → P c → ∃ a ∈ all, coordinate a = c ∧ hit a = true) :
    Finds group P ((all.find? hit).map coordinate) := by
  cases hfind : all.find? hit with
  | none =>
      refine .nowhere fun c hgroup hc => ?_
      obtain ⟨a, ha, -, hhit⟩ := hcomplete c hgroup hc
      exact List.find?_eq_none.1 hfind a ha hhit
  | some a =>
      obtain ⟨hhit, before, after, rfl, hbefore⟩ := List.find?_eq_some_iff_append.1 hfind
      obtain ⟨hgroup, ha⟩ := hsound a (by simp) hhit
      refine .least ⟨hgroup, ha, fun other hother hP => ?_⟩
      obtain ⟨b, hb, rfl, hhit'⟩ := hcomplete other hother hP
      -- Nothing before the first hit is one, and what is behind it has a greater coordinate.
      rcases mem_of_pairwise horder hb with hearly | rfl | hlate
      · simpa [hhit'] using hbefore b hearly
      · exact .inl rfl
      · exact .inr hlate

end Coordinate

namespace Memory

/-! ### What is looked for -/

/-- Some version of an artifact, of whatever age, has the canonical text of a schema. -/
def HasContent (memory : Memory) (schema : String) (coordinate : Coordinate) : Prop :=
  ∃ version ∈ memory.versions coordinate, ∃ canonical,
    canonicalText version.schema = .ok canonical ∧ canonicalText schema = .ok canonical

/-- The latest document of an artifact has the fingerprint of a schema. -/
def HasFingerprint (memory : Memory) (schema : String) (coordinate : Coordinate) : Prop :=
  ∃ id document fingerprint, memory.fetchLatest coordinate = .ok (id, document) ∧
    Fingerprint.ofSchema document.text = .ok fingerprint ∧
    Fingerprint.ofSchema schema = .ok fingerprint

/-- Asking for the fingerprint of the latest document of an artifact breaks. -/
def Breaks (memory : Memory) (coordinate : Coordinate) : Prop :=
  ∃ id document, memory.fetchLatest coordinate = .ok (id, document) ∧
    Fingerprint.ofSchema document.text = .error .crashed

/-- A search by fingerprint does not return: in the group there is an artifact that it does not get
past, before all that it looks for. -/
def BreaksSearch (memory : Memory) (schema : String) (group : Option String) : Prop :=
  ∃ c : Coordinate, c.inGroup group = true ∧ memory.Breaks c ∧
    ∀ other : Coordinate, other.inGroup group = true → memory.HasFingerprint schema other →
      c.Before other

/-- A lookup does not return: nothing has the content, and asking for the fingerprint of the schema
or searching for it breaks. -/
def BreaksLookup (memory : Memory) (schema : String) (group : Option String) : Prop :=
  Coordinate.Nowhere group (memory.HasContent schema) ∧
    (Fingerprint.ofSchema schema = .error .crashed ∨ memory.BreaksSearch schema group)

/-- The artifact that a lookup has to answer with: the least one with the content, and when there is
none, the least one with the fingerprint. -/
inductive Chosen (memory : Memory) (schema : String) (group : Option String) (c : Coordinate) : Prop
  | content (h : Coordinate.Least group (memory.HasContent schema) c)
  | fingerprint (hcontent : Coordinate.Nowhere group (memory.HasContent schema))
      (h : Coordinate.Least group (memory.HasFingerprint schema) c)

/-! ### The searches -/

/-- A version is in the entry of its artifact. -/
theorem mem_entries_of_mem_versions {memory : Memory} {coordinate : Coordinate} {version : Version}
    (h : version ∈ memory.versions coordinate) :
    (coordinate, memory.versions coordinate) ∈ memory.artifacts.entries := by
  rw [Table.mem_entries_iff]
  cases hget : memory.artifacts.get? coordinate with
  | none =>
      rw [versions, hget] at h
      exact absurd h List.not_mem_nil
  | some versions => rw [Memory.versions, hget, Option.getD_some]

/-- An artifact with a latest document has a version. -/
theorem versions_ne_nil_of_fetchLatest {memory : Memory} {coordinate : Coordinate}
    {answer : UInt32 × Document} (h : memory.fetchLatest coordinate = .ok answer) :
    memory.versions coordinate ≠ [] := by
  obtain ⟨latest, hlast, -⟩ := fetchById_of_fetchLatest h
  exact List.ne_nil_of_mem (List.mem_of_getLast? hlast)

/-- An artifact with a fingerprint has a version. -/
theorem HasFingerprint.versions_ne_nil {memory : Memory} {schema : String} {coordinate : Coordinate}
    (h : memory.HasFingerprint schema coordinate) : memory.versions coordinate ≠ [] := by
  obtain ⟨id, document, -, hlatest, -⟩ := h
  exact versions_ne_nil_of_fetchLatest hlatest

/-- An artifact with which a comparison breaks has a version. -/
theorem Breaks.versions_ne_nil {memory : Memory} {coordinate : Coordinate}
    (h : memory.Breaks coordinate) : memory.versions coordinate ≠ [] := by
  obtain ⟨id, document, hlatest, -⟩ := h
  exact versions_ne_nil_of_fetchLatest hlatest

/-- An artifact with a content has a version. -/
theorem HasContent.versions_ne_nil {memory : Memory} {schema : String} {coordinate : Coordinate}
    (h : memory.HasContent schema coordinate) : memory.versions coordinate ≠ [] := by
  obtain ⟨version, hversion, -⟩ := h
  exact List.ne_nil_of_mem hversion

/-- The versions in the entry of an artifact are those of the artifact. -/
theorem versions_of_mem_entries {memory : Memory} {coordinate : Coordinate}
    {versions : List Version} (h : (coordinate, versions) ∈ memory.artifacts.entries) :
    memory.versions coordinate = versions := by
  rw [Memory.versions, Table.mem_entries_iff.1 h, Option.getD_some]

/-- The artifacts are in the order of their coordinates. -/
theorem pairwise_entries (memory : Memory) :
    memory.artifacts.entries.Pairwise fun entry other => entry.1.Before other.1 :=
  memory.artifacts.ascending.imp Coordinate.before_of_compare

/-- A version has a content if it is the canonical text of its schema. -/
theorem hasContent_eq_true_iff {canonical : String} {version : Version} :
    Version.hasContent canonical version = true ↔ canonicalText version.schema = .ok canonical := by
  rw [Version.hasContent]
  cases canonicalText version.schema <;> simp

/-- The search by content finds the least artifact with the content of a JSON text. -/
theorem findByContent_finds (memory : Memory) {schema canonical : String}
    (hschema : canonicalText schema = .ok canonical) (group : Option String) :
    ∃ found, memory.findByContent schema group = .ok found ∧
      Coordinate.Finds group (memory.HasContent schema) found := by
  refine ⟨_, by rw [findByContent, hschema]; rfl, Coordinate.finds_of_pairwise
    memory.pairwise_entries (fun entry hentry hhit => ?_) fun c hgroup hc => ?_⟩
  · obtain ⟨hgroup, hany⟩ := Bool.and_eq_true_iff.1 hhit
    obtain ⟨version, hversion, hcontent⟩ := List.any_eq_true.1 hany
    rw [← versions_of_mem_entries hentry] at hversion
    exact ⟨hgroup, version, hversion, canonical, hasContent_eq_true_iff.1 hcontent, hschema⟩
  · obtain ⟨version, hversion, own, hown, hcanonical⟩ := hc
    obtain rfl := Except.ok.inj (hschema.symm.trans hcanonical)
    exact ⟨_, mem_entries_of_mem_versions hversion, rfl, Bool.and_eq_true_iff.2
      ⟨hgroup, List.any_eq_true.2 ⟨version, hversion, hasContent_eq_true_iff.2 hown⟩⟩⟩

/-- The coordinates that a search goes through are those of the group with a version. -/
theorem mem_coordinates_iff {memory : Memory} {group : Option String} {coordinate : Coordinate} :
    coordinate ∈ memory.coordinates group ↔
      coordinate.inGroup group = true ∧ memory.versions coordinate ≠ [] := by
  rw [coordinates, List.mem_map]
  constructor
  · rintro ⟨⟨c, versions⟩, hmem, rfl⟩
    obtain ⟨hentry, hkept⟩ := List.mem_filter.1 hmem
    obtain ⟨hversions, hgroup⟩ := Bool.and_eq_true_iff.1 hkept
    rw [versions_of_mem_entries hentry]
    exact ⟨hgroup, by simpa using hversions⟩
  · rintro ⟨hgroup, hversions⟩
    obtain ⟨version, hversion⟩ := List.exists_mem_of_ne_nil _ hversions
    refine ⟨_, List.mem_filter.2 ⟨mem_entries_of_mem_versions hversion, ?_⟩, rfl⟩
    simpa [hgroup] using hversions

/-- A search goes through coordinates in their order. -/
theorem pairwise_coordinates (memory : Memory) (group : Option String) :
    (memory.coordinates group).Pairwise Coordinate.Before := by
  rw [coordinates, List.pairwise_map]
  exact memory.pairwise_entries.filter _

/-- The document of a candidate is the latest one of the artifact. -/
theorem map_fetchLatest_eq_ok_iff {memory : Memory} {coordinate : Coordinate}
    {document : Document} :
    (memory.fetchLatest coordinate).map (·.2) = .ok document ↔
      ∃ id, memory.fetchLatest coordinate = .ok (id, document) := by
  rcases memory.fetchLatest coordinate with failure | ⟨id, own⟩ <;> simp [Except.map]

/-- A candidate counts when it has a latest document with the fingerprint. -/
theorem found_iff_hasFingerprint {memory : Memory} {schema : String} {target : Fingerprint}
    (htarget : Fingerprint.ofSchema schema = .ok target) {coordinate : Coordinate} :
    compareCandidate target ((memory.fetchLatest coordinate).map (·.2)) = .ok .found ↔
      memory.HasFingerprint schema coordinate := by
  simp only [Fingerprint.compareCandidate_eq_found_iff, map_fetchLatest_eq_ok_iff]
  constructor
  · rintro ⟨document, ⟨id, hlatest⟩, hdocument⟩
    exact ⟨id, document, target, hlatest, hdocument, htarget⟩
  · rintro ⟨id, document, fingerprint, hlatest, hdocument, hschema⟩
    obtain rfl := Except.ok.inj (htarget.symm.trans hschema)
    exact ⟨document, ⟨id, hlatest⟩, hdocument⟩

/-- A candidate breaks a search when its latest document does. -/
theorem crashed_iff_breaks {memory : Memory} {target : Fingerprint} {coordinate : Coordinate} :
    compareCandidate target ((memory.fetchLatest coordinate).map (·.2)) = .error .crashed ↔
      memory.Breaks coordinate := by
  simp only [Fingerprint.compareCandidate_eq_crashed_iff, map_fetchLatest_eq_ok_iff]
  constructor
  · rintro ⟨document, ⟨id, hlatest⟩, hdocument⟩
    exact ⟨id, document, hlatest, hdocument⟩
  · rintro ⟨id, document, hlatest, hdocument⟩
    exact ⟨document, ⟨id, hlatest⟩, hdocument⟩

/-- An artifact with the fingerprint is not passed by. -/
theorem HasFingerprint.not_passes {memory : Memory} {schema : String} {target : Fingerprint}
    {coordinate : Coordinate} (h : memory.HasFingerprint schema coordinate)
    (htarget : Fingerprint.ofSchema schema = .ok target) :
    ¬Fingerprint.Passes target ((memory.fetchLatest coordinate).map (·.2)) :=
  fun hpasses => hpasses.miss ((found_iff_hasFingerprint htarget).2 h)

/-- An artifact with which a comparison breaks is not passed by. -/
theorem Breaks.not_passes {memory : Memory} {target : Fingerprint} {coordinate : Coordinate}
    (h : memory.Breaks coordinate) :
    ¬Fingerprint.Passes target ((memory.fetchLatest coordinate).map (·.2)) :=
  fun hpasses => hpasses.returns (crashed_iff_breaks.2 h)

/-- An artifact of the group with a version is in front of a candidate, is the candidate or comes
after it. -/
theorem place_of_versions {memory : Memory} {group : Option String}
    {before rest : List Coordinate} {c other : Coordinate}
    (hsplit : memory.coordinates group = before ++ c :: rest) (hgroup : other.inGroup group = true)
    (hversions : memory.versions other ≠ []) : other ∈ before ∨ other = c ∨ c.Before other :=
  Coordinate.mem_of_pairwise (hsplit ▸ memory.pairwise_coordinates group)
    (hsplit ▸ mem_coordinates_iff.2 ⟨hgroup, hversions⟩)

/-- The search by fingerprint finds the least artifact with the fingerprint of a schema, unless it
comes to one before that it does not get past. -/
theorem findByFingerprint_cases (memory : Memory) {schema : String} {target : Fingerprint}
    (htarget : Fingerprint.ofSchema schema = .ok target) (group : Option String) :
    (∃ found, memory.findByFingerprint schema group = .ok found ∧
      Coordinate.Finds group (memory.HasFingerprint schema) found ∧
      ¬memory.BreaksSearch schema group) ∨
    memory.findByFingerprint schema group = .error .crashed ∧
      memory.BreaksSearch schema group := by
  have hsearch : memory.findByFingerprint schema group = target.search
      (fun coordinate => (memory.fetchLatest coordinate).map (·.2)) (memory.coordinates group) := by
    rw [findByFingerprint, htarget]
    rfl
  have hsearched := target.searched
    (fun coordinate => (memory.fetchLatest coordinate).map (·.2)) (memory.coordinates group)
  have hmem (c : Coordinate) : c ∈ memory.coordinates group ↔
      c.inGroup group = true ∧ memory.versions c ≠ [] := mem_coordinates_iff
  rw [hsearch]
  generalize hsplit : memory.coordinates group = candidates at hsearched hmem
  generalize target.search _ _ = outcome at hsearched
  cases hsearched with
  | @found before rest c passed hit =>
      have hc := (found_iff_hasFingerprint htarget).1 hit
      have hgroup := ((hmem c).1 (by simp)).1
      refine .inl ⟨some c, rfl, .least ⟨hgroup, hc, fun other hother hP => ?_⟩, ?_⟩
      · rcases place_of_versions hsplit hother hP.versions_ne_nil with hearly | hsame
        · exact absurd (passed other hearly) (hP.not_passes htarget)
        · exact hsame
      · rintro ⟨broken, hbroken, hbreaks, hfirst⟩
        rcases place_of_versions hsplit hbroken hbreaks.versions_ne_nil with hearly | rfl | hlate
        · exact hbreaks.not_passes (passed broken hearly)
        · exact absurd (hit.symm.trans (crashed_iff_breaks.2 hbreaks)) (by simp)
        · exact (hfirst c hgroup hc).asymm hlate
  | @crashed before rest c passed crash =>
      refine .inr ⟨rfl, c, ((hmem c).1 (by simp)).1, crashed_iff_breaks.1 crash,
        fun other hother hP => ?_⟩
      rcases place_of_versions hsplit hother hP.versions_ne_nil with hearly | rfl | hlate
      · exact absurd (passed other hearly) (hP.not_passes htarget)
      · exact absurd (((found_iff_hasFingerprint htarget).2 hP).symm.trans crash) (by simp)
      · exact hlate
  | nothing passed =>
      refine .inl ⟨none, rfl, .nowhere fun c hgroup hc => ?_, ?_⟩
      · exact hc.not_passes htarget (passed c ((hmem c).2 ⟨hgroup, hc.versions_ne_nil⟩))
      · rintro ⟨broken, hbroken, hbreaks, -⟩
        exact hbreaks.not_passes
          (passed broken ((hmem broken).2 ⟨hbroken, hbreaks.versions_ne_nil⟩))

/-! ### The lookup -/

/-- A valid schema has a canonical text. -/
theorem exists_canonicalText_of_parse {schema : String} {parsed : Avro.Schema}
    (h : Avro.Schema.parse? schema = .ok parsed) :
    ∃ canonical, canonicalText schema = .ok canonical := by
  obtain ⟨content, hread, -⟩ := Avro.Schema.parse?_eq_ok_iff.1 h
  exact ⟨content.text, canonicalText_eq_ok_iff.2 ⟨content, hread, rfl⟩⟩

/-- The two searches together find the artifact that is to be answered, and nothing only when there
is none, unless one of them breaks. -/
theorem findArtifact_cases (memory : Memory) {schema : String} {parsed : Avro.Schema}
    (h : Avro.Schema.parse? schema = .ok parsed) (group : Option String) :
    (∃ coordinate, memory.findArtifact schema group = .ok (some coordinate) ∧
      memory.Chosen schema group coordinate ∧ ¬memory.BreaksLookup schema group) ∨
    (memory.findArtifact schema group = .ok none ∧
      Coordinate.Nowhere group (memory.HasContent schema) ∧
      Coordinate.Nowhere group (memory.HasFingerprint schema) ∧
      ¬memory.BreaksLookup schema group) ∨
    memory.findArtifact schema group = .error .crashed ∧ memory.BreaksLookup schema group := by
  obtain ⟨canonical, hcanonical⟩ := exists_canonicalText_of_parse h
  obtain ⟨byContent, hcontent, hfinds⟩ := memory.findByContent_finds hcanonical group
  cases hfinds with
  | @least c hleast =>
      have hfound : memory.findArtifact schema group = .ok (some c) := by
        rw [findArtifact, hcontent]
        rfl
      exact .inl ⟨c, hfound, .content hleast, fun hbreaks => hleast.not_nowhere hbreaks.1⟩
  | nowhere hnowhere =>
      have hfound : memory.findArtifact schema group = memory.findByFingerprint schema group := by
        rw [findArtifact, hcontent]
        rfl
      rw [hfound]
      rcases Fingerprint.ofSchema_of_parse h with ⟨target, htarget⟩ | hcrash
      · rcases memory.findByFingerprint_cases htarget group with
          ⟨found, hsearch, hfinds, hreturns⟩ | ⟨hsearch, hbreaks⟩
        · have hlookup : ¬memory.BreaksLookup schema group := by
            rintro ⟨-, hcrash | hbreaks⟩
            · rw [htarget] at hcrash
              contradiction
            · exact hreturns hbreaks
          rw [hsearch]
          cases hfinds with
          | @least c hleast => exact .inl ⟨c, rfl, .fingerprint hnowhere hleast, hlookup⟩
          | nowhere hnowhere' => exact .inr (.inl ⟨rfl, hnowhere, hnowhere', hlookup⟩)
        · exact .inr (.inr ⟨hsearch, hnowhere, .inr hbreaks⟩)
      · refine .inr (.inr ⟨?_, hnowhere, .inl hcrash⟩)
        rw [findByFingerprint, hcrash]
        rfl

/-- The artifact that a lookup chooses has a version. -/
theorem Chosen.versions_ne_nil {memory : Memory} {schema : String} {group : Option String}
    {coordinate : Coordinate} (h : memory.Chosen schema group coordinate) :
    memory.versions coordinate ≠ [] := by
  cases h with
  | content hleast => exact hleast.holds.versions_ne_nil
  | fingerprint _ hleast => exact hleast.holds.versions_ne_nil

/-- When there is an artifact to answer with, one of the properties is somewhere in the group. -/
theorem Chosen.not_nowhere {memory : Memory} {schema : String} {group : Option String}
    {coordinate : Coordinate} (h : memory.Chosen schema group coordinate) :
    ¬(Coordinate.Nowhere group (memory.HasContent schema) ∧
      Coordinate.Nowhere group (memory.HasFingerprint schema)) := by
  rintro ⟨hcontent, hfingerprint⟩
  cases h with
  | content hleast => exact hleast.not_nowhere hcontent
  | fingerprint _ hleast => exact hleast.not_nowhere hfingerprint

/-- The latest version of an artifact with a version has a document when all ids have one. -/
theorem Documented.exists_fetchLatest {memory : Memory} (h : Documented memory)
    {coordinate : Coordinate} (hversions : memory.versions coordinate ≠ []) :
    ∃ answer, memory.fetchLatest coordinate = .ok answer := by
  obtain ⟨document, hdocument⟩ :=
    h.versioned coordinate _ (List.getLast_mem hversions)
  rw [fetchLatest, List.getLast?_eq_some_getLast hversions]
  simp only [fetchById, hdocument]
  exact ⟨_, rfl⟩

/-- A lookup answers with the latest version of the artifact that is to be answered, or finds
nothing, or breaks. -/
theorem Documented.findSchema_cases {memory : Memory} (hmemory : Documented memory)
    {schema : String} {parsed : Avro.Schema} (h : Avro.Schema.parse? schema = .ok parsed)
    (group : Option String) :
    (∃ coordinate answer, memory.Chosen schema group coordinate ∧
      memory.fetchLatest coordinate = .ok answer ∧ memory.findSchema schema group = .ok answer ∧
      ¬memory.BreaksLookup schema group) ∨
    (Coordinate.Nowhere group (memory.HasContent schema) ∧
      Coordinate.Nowhere group (memory.HasFingerprint schema) ∧
      memory.findSchema schema group = .error (.failed noMatchingSchema) ∧
      ¬memory.BreaksLookup schema group) ∨
    memory.findSchema schema group = .error .crashed ∧ memory.BreaksLookup schema group := by
  rcases memory.findArtifact_cases h group with
    ⟨coordinate, hfound, hchosen, hreturns⟩ | ⟨hfound, hcontent, hfingerprint, hreturns⟩ |
      ⟨hfound, hbreaks⟩
  · obtain ⟨answer, hanswer⟩ := hmemory.exists_fetchLatest hchosen.versions_ne_nil
    refine .inl ⟨coordinate, answer, hchosen, hanswer, ?_, hreturns⟩
    rw [findSchema, hfound]
    exact Outcome.ofExcept_eq_ok_iff.2 hanswer
  · refine .inr (.inl ⟨hcontent, hfingerprint, ?_, hreturns⟩)
    rw [findSchema, hfound]
    rfl
  · refine .inr (.inr ⟨?_, hbreaks⟩)
    rw [findSchema, hfound]
    rfl

end Memory

namespace Change

/-- A document that is no schema, before an int. -/
def brokenThenInt : List Change :=
  [.put 7 (.object [("type", .string "nope")]) ⟨"a", "broken"⟩,
    .register (.register ⟨"b", "good"⟩ "\"int\"" .avro)]

/-- An enum without a canonical form, before an int. -/
def breakingThenInt : List Change :=
  [.put 7 Fingerprint.orderedEnum ⟨"a", "bad"⟩,
    .register (.register ⟨"b", "good"⟩ "\"int\"" .avro)]

end Change

end FramedAvro
