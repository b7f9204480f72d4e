import FramedAvro.Proofs.Registry.Registration
import Mathlib

/-!
# The store of contents

Registering refines a much simpler store: the list of the distinct contents, in the order in which
each was registered first. An id is a position in this list, and the versions of an artifact are the
distinct contents that were registered under its coordinate, again in the order of their first time.

The invariant `Mirrors` ties the three tables of a registry to the calls that were answered with an
id. Every call keeps it (`Mirrors.step`), and so does every run (`mirrors_performAll`).

## Main results

* `Registration.performAll_stores_contents`: ids, counts, versions and latest documents after any
  run, and what of them does not depend on the order of the calls.
-/

namespace FramedAvro

/-! ### First occurrences -/

/-- One more element counts only if it was not there before. -/
theorem eraseDups_concat {α : Type} [DecidableEq α] (xs : List α) (a : α) :
    (xs ++ [a]).eraseDups = if a ∈ xs then xs.eraseDups else xs.eraseDups ++ [a] := by
  rw [List.eraseDups_append]
  by_cases h : a ∈ xs
  · simp [h, List.removeAll]
  · simp [h, List.removeAll, List.eraseDups_cons]

/-- No element is left twice when duplicates are erased. -/
theorem nodup_eraseDups {α : Type} [DecidableEq α] (xs : List α) : xs.eraseDups.Nodup := by
  induction xs using List.reverseRecOn with
  | nil => simp
  | append_singleton xs a ih =>
      rw [eraseDups_concat]
      split
      · exact ih
      · next hnew =>
          refine List.nodup_append.2 ⟨ih, by simp, ?_⟩
          rintro b hb c hc rfl
          obtain rfl := List.mem_singleton.1 hc
          exact hnew (List.mem_eraseDups.1 hb)

/-- What stands at a place of a longer list stood there before, or is the new element at the end. -/
theorem getElem?_concat_eq_some_iff {α : Type} {xs : List α} {a b : α} {k : Nat} :
    (xs ++ [a])[k]? = some b ↔ xs[k]? = some b ∨ k = xs.length ∧ a = b := by
  rcases Nat.lt_trichotomy k xs.length with hlt | rfl | hgt
  · simp [List.getElem?_append_left hlt, Nat.ne_of_lt hlt]
  · simp
  · rw [List.getElem?_eq_none (by simp; omega), List.getElem?_eq_none (Nat.le_of_lt hgt)]
    simp [Nat.ne_of_gt hgt]

/-- Lists with the same elements have as many distinct ones. -/
theorem length_eraseDups_le {α : Type} [DecidableEq α] {xs ys : List α} (h : ∀ a ∈ xs, a ∈ ys) :
    xs.eraseDups.length ≤ ys.eraseDups.length := by
  refine (List.subperm_of_subset (nodup_eraseDups xs) fun a ha => ?_).length_le
  exact List.mem_eraseDups.2 (h a (List.mem_eraseDups.1 ha))

namespace Registration

/-! ### What was registered -/

/-- Calls with their answers. -/
abbrev History := List (Registration × Outcome UInt32)

/-- The calls that were answered with an id. -/
def successful (history : History) : List Registration :=
  (history.filter (·.2.isOk)).map (·.1)

/-- The canonical text of what a call registers, if that is JSON. -/
def content? (call : Registration) : Option String :=
  (canonicalText call.schema).toOption

/-- The distinct contents of calls, in the order of their first call. -/
def contents (calls : List Registration) : List String :=
  (calls.filterMap content?).eraseDups

/-- The distinct contents of the calls that name a coordinate. -/
def contentsUnder (coordinate : Coordinate) (calls : List Registration) : List String :=
  contents (calls.filter fun call => call.coordinate = coordinate)

/-- The distinct coordinates of calls. -/
def coordinates (calls : List Registration) : List Coordinate :=
  (calls.map coordinate).eraseDups

/-- The content of a call is the canonical text of its schema. -/
theorem content?_eq_some_iff {call : Registration} {text : String} :
    call.content? = some text ↔ canonicalText call.schema = .ok text := by
  rw [content?]
  cases canonicalText call.schema <;> simp [Except.toOption]

/-- A text is among the contents of calls if it is the content of one of them. -/
theorem mem_contents {calls : List Registration} {text : String} :
    text ∈ contents calls ↔ ∃ call ∈ calls, call.content? = some text := by
  rw [contents, List.mem_eraseDups, List.mem_filterMap]

/-- A text is among the contents under a coordinate if it is the content of a call that names the
coordinate. -/
theorem mem_contentsUnder {calls : List Registration} {coordinate : Coordinate} {text : String} :
    text ∈ contentsUnder coordinate calls ↔
      ∃ call ∈ calls, call.coordinate = coordinate ∧ call.content? = some text := by
  simp [contentsUnder, mem_contents, and_assoc]

/-- The contents under a coordinate are among all contents. -/
theorem mem_contents_of_mem_contentsUnder {calls : List Registration} {coordinate : Coordinate}
    {text : String} (h : text ∈ contentsUnder coordinate calls) : text ∈ contents calls := by
  obtain ⟨call, hcall, -, hcontent⟩ := mem_contentsUnder.1 h
  exact mem_contents.2 ⟨call, hcall, hcontent⟩

/-- A coordinate is among those of calls if one of them names it. -/
theorem mem_coordinates {calls : List Registration} {coordinate : Coordinate} :
    coordinate ∈ coordinates calls ↔ ∃ call ∈ calls, call.coordinate = coordinate := by
  rw [coordinates, List.mem_eraseDups, List.mem_map]

/-- One more call adds its content unless it is there. -/
theorem contents_concat {call : Registration} {text : String} (h : call.content? = some text)
    (calls : List Registration) :
    contents (calls ++ [call]) =
      if text ∈ contents calls then contents calls else contents calls ++ [text] := by
  rw [contents, List.filterMap_append, List.filterMap_cons_some h, List.filterMap_nil,
    eraseDups_concat]
  simp only [contents, List.mem_eraseDups]

/-- One more call adds its content under its own coordinate, unless it is there. -/
theorem contentsUnder_concat {call : Registration} {text : String} (h : call.content? = some text)
    (calls : List Registration) (coordinate : Coordinate) :
    contentsUnder coordinate (calls ++ [call]) =
      if call.coordinate = coordinate ∧ text ∉ contentsUnder coordinate calls then
        contentsUnder coordinate calls ++ [text]
      else contentsUnder coordinate calls := by
  rw [contentsUnder, List.filter_append, contentsUnder]
  by_cases hown : call.coordinate = coordinate
  · rw [List.filter_cons_of_pos (by simpa using hown), List.filter_nil, contents_concat h]
    by_cases hmem : text ∈ contents (calls.filter fun call => call.coordinate = coordinate) <;>
      simp [hown, hmem]
  · rw [List.filter_cons_of_neg (by simpa using hown), List.filter_nil, List.append_nil,
      if_neg fun hboth => hown hboth.1]

/-- One more call adds its coordinate only if no call before it named it. -/
theorem coordinates_concat (calls : List Registration) (call : Registration) :
    coordinates (calls ++ [call]) =
      if call.coordinate ∈ coordinates calls then coordinates calls
      else coordinates calls ++ [call.coordinate] := by
  rw [coordinates, List.map_append, List.map_cons, List.map_nil, eraseDups_concat]
  simp only [coordinates, List.mem_eraseDups]

/-! ### The invariant -/

/-- The tables of a registry hold what the successful calls registered: their distinct contents
under the ids from 1 on, and under each coordinate a version for each of its own contents. -/
structure Mirrors (memory : Memory) (calls : List Registration) : Prop where
  room : (contents calls).length < UInt32.size
  schemaCount_eq : memory.schemaCount = (contents calls).length
  documented : ∀ id, memory.documents.contains id = true ↔
    1 ≤ id.toNat ∧ id.toNat ≤ (contents calls).length
  indexed : ∀ text id, memory.contents.get? text = some id ↔
    1 ≤ id.toNat ∧ (contents calls)[id.toNat - 1]? = some text
  versioned : ∀ coordinate, (memory.versions coordinate).map (canonicalText ·.schema) =
    (contentsUnder coordinate calls).map .ok
  linked : ∀ coordinate, (memory.versions coordinate).map (fun version => some version.id) =
    (contentsUnder coordinate calls).map memory.contents.get?
  artifactCount_eq : memory.artifactCount = (coordinates calls).length
  named : ∀ coordinate, memory.artifacts.contains coordinate = true ↔
    coordinate ∈ coordinates calls

/-- The registry with nothing in it holds what no calls registered. -/
theorem mirrors_empty : Mirrors .empty [] where
  room := by decide
  schemaCount_eq := rfl
  documented id := by
    simp only [Memory.empty, Table.contains, Table.get?_empty, Option.isSome_none,
      Bool.false_eq_true, contents, List.filterMap_nil, List.eraseDups_nil, List.length_nil,
      false_iff, not_and]
    omega
  indexed text id := by simp [Memory.empty, contents]
  versioned coordinate := by simp [Memory.empty, Memory.versions, contentsUnder, contents]
  linked coordinate := by simp [Memory.empty, Memory.versions, contentsUnder, contents]
  artifactCount_eq := rfl
  named coordinate := by simp [Memory.empty, Table.contains, coordinates]

namespace Mirrors

variable {memory : Memory} {calls : List Registration}

/-- Content has an id exactly when it was registered. -/
theorem exists_id_iff (h : Mirrors memory calls) {text : String} :
    (∃ id, memory.contents.get? text = some id) ↔ text ∈ contents calls := by
  constructor
  · rintro ⟨id, hid⟩
    exact List.mem_of_getElem? ((h.indexed text id).1 hid).2
  · intro hmem
    obtain ⟨k, hk⟩ := List.mem_iff_getElem?.1 hmem
    have hlt : k < (contents calls).length := (List.getElem?_eq_some_iff.1 hk).1
    have hroom := h.room
    have hid : (UInt32.ofNat (k + 1)).toNat = k + 1 :=
      UInt32.toNat_ofNat_of_lt' (by omega)
    refine ⟨UInt32.ofNat (k + 1), (h.indexed text _).2 ⟨by omega, ?_⟩⟩
    rw [hid]
    exact hk

/-- A text has no id exactly if no call registered it. -/
theorem get?_eq_none_iff (h : Mirrors memory calls) {text : String} :
    memory.contents.get? text = none ↔ text ∉ contents calls := by
  rw [← h.exists_id_iff, Option.eq_none_iff_forall_ne_some]
  simp

/-- Different contents have different ids. -/
theorem text_unique (h : Mirrors memory calls) {text text' : String} {id : UInt32}
    (hid : memory.contents.get? text = some id) (hid' : memory.contents.get? text' = some id) :
    text = text' := by
  have htext := ((h.indexed text id).1 hid).2
  rw [((h.indexed text' id).1 hid').2] at htext
  exact (Option.some.inj htext).symm

/-- A content is one of a coordinate exactly when one of its versions has the id of the content. -/
theorem exists_version_iff (h : Mirrors memory calls) {coordinate : Coordinate} {text : String}
    {id : UInt32} (hid : memory.contents.get? text = some id) :
    (∃ version ∈ memory.versions coordinate, version.id = id) ↔
      text ∈ contentsUnder coordinate calls := by
  have hlinked := h.linked coordinate
  constructor
  · rintro ⟨version, hmem, rfl⟩
    have hsome : some version.id ∈ (contentsUnder coordinate calls).map memory.contents.get? :=
      hlinked ▸ List.mem_map_of_mem hmem
    obtain ⟨text', hmem', hid'⟩ := List.mem_map.1 hsome
    exact h.text_unique hid hid' ▸ hmem'
  · intro hmem
    have hsome : some id ∈ (memory.versions coordinate).map fun version => some version.id :=
      hlinked ▸ hid ▸ List.mem_map_of_mem hmem
    obtain ⟨version, hversion, heq⟩ := List.mem_map.1 hsome
    exact ⟨version, hversion, Option.some.inj heq⟩

/-- The greatest id is the number of contents, since exactly the ids up to there are taken. -/
theorem toNat_greatest (h : Mirrors memory calls) {greatest : UInt32}
    (hgreatest : memory.documents.greatest? = some greatest) :
    greatest.toNat = (contents calls).length := by
  obtain ⟨document, hdocument⟩ := Table.exists_get?_greatest hgreatest
  have hupper := (h.documented greatest).1 (by rw [Table.contains, hdocument]; rfl)
  have hcount : (UInt32.ofNat (contents calls).length).toNat = (contents calls).length :=
    UInt32.toNat_ofNat_of_lt' h.room
  have hcounted := (h.documented (UInt32.ofNat (contents calls).length)).2 (by rw [hcount]; omega)
  obtain ⟨counted, hget⟩ := Option.isSome_iff_exists.1 hcounted
  obtain ⟨greatest', hgreatest', hle⟩ := Table.exists_greatest_of_get? hget
  obtain rfl := Option.some.inj (hgreatest.symm.trans hgreatest')
  refine Nat.le_antisymm hupper.2 ?_
  rcases hle with heq | hlt
  · exact Nat.le_of_eq (hcount.symm.trans (congrArg UInt32.toNat heq))
  · have := UInt32.lt_iff_toNat_lt.1 (Std.compare_eq_lt.1 hlt)
    omega

/-- A registry without documents has no contents. -/
theorem length_eq_zero (h : Mirrors memory calls) (hnone : memory.documents.greatest? = none) :
    (contents calls).length = 0 := by
  by_contra hne
  have hone := (h.documented 1).2 ⟨Nat.le_refl 1, Nat.one_le_iff_ne_zero.2 hne⟩
  rw [Table.contains, Table.get?_of_greatest_eq_none hnone] at hone
  contradiction

/-- The next id is the one after those that were given. -/
theorem toNat_nextId (h : Mirrors memory calls) {id : UInt32} (hnext : memory.nextId = .ok id) :
    id.toNat = (contents calls).length + 1 := by
  rw [Memory.nextId] at hnext
  split at hnext
  · next hnone =>
      obtain rfl := Except.ok.inj hnext
      rw [h.length_eq_zero hnone]
      rfl
  · next greatest hgreatest =>
      split at hnext
      · contradiction
      · next hlast =>
          obtain rfl := Except.ok.inj hnext
          have hne : greatest.toNat ≠ 4294967295 := fun heq => hlast (UInt32.toNat_inj.1 heq)
          have hlt := greatest.toNat_lt
          rw [UInt32.toNat_add, UInt32.toNat_one, h.toNat_greatest hgreatest]
          rw [h.toNat_greatest hgreatest] at hne hlt
          omega

/-- When no id is left, there are as many contents as ids. -/
theorem full (h : Mirrors memory calls) {failure : Failure}
    (hnext : memory.nextId = .error failure) :
    (contents calls).length + 1 = UInt32.size := by
  rw [Memory.nextId] at hnext
  split at hnext
  · contradiction
  · next greatest hgreatest =>
      split at hnext
      · next hlast =>
          rw [← h.toNat_greatest hgreatest, hlast]
          rfl
      · contradiction

/-- A further version leaves the artifacts as many, unless it makes its own. -/
theorem artifactCount_addVersion (h : Mirrors memory calls) (call : Registration) (id : UInt32) :
    (memory.addVersion call.coordinate id call.schema).artifactCount =
      (coordinates (calls ++ [call])).length := by
  rw [Memory.artifactCount, Memory.addVersion, Table.size_insert, coordinates_concat]
  by_cases hthere : call.coordinate ∈ coordinates calls
  · rw [if_pos ((h.named _).2 hthere), if_pos hthere]
    exact h.artifactCount_eq
  · rw [if_neg fun hcontains => hthere ((h.named _).1 hcontains), if_neg hthere,
      List.length_append, List.length_singleton]
    exact congrArg (· + 1) h.artifactCount_eq

/-- After one more version, the artifacts are those that the calls named, with this one. -/
theorem named_addVersion (h : Mirrors memory calls) (call : Registration) (id : UInt32)
    (coordinate : Coordinate) :
    (memory.addVersion call.coordinate id call.schema).artifacts.contains coordinate = true ↔
      coordinate ∈ coordinates (calls ++ [call]) := by
  have hnamed := h.named coordinate
  rw [Table.contains] at hnamed
  rw [Table.contains, Memory.get?_artifacts_addVersion, mem_coordinates]
  rw [mem_coordinates] at hnamed
  by_cases hown : coordinate = call.coordinate
  · simp [hown]
  · simp [hown, hnamed, eq_comm]

/-- Content that is a version of the artifact already adds nothing. -/
theorem present (h : Mirrors memory calls) {call : Registration} {text : String} {id : UInt32}
    (hcontent : call.content? = some text) (known : memory.contents.get? text = some id)
    (there : ∃ version ∈ memory.versions call.coordinate, version.id = id) :
    Mirrors memory (calls ++ [call]) := by
  have hmem := (h.exists_version_iff known).1 there
  have hcontents : contents (calls ++ [call]) = contents calls := by
    rw [contents_concat hcontent, if_pos (h.exists_id_iff.1 ⟨id, known⟩)]
  have hunder : ∀ coordinate,
      contentsUnder coordinate (calls ++ [call]) = contentsUnder coordinate calls := by
    intro coordinate
    rw [contentsUnder_concat hcontent, if_neg]
    rintro ⟨rfl, hnew⟩
    exact hnew hmem
  have hcoordinates : coordinates (calls ++ [call]) = coordinates calls := by
    obtain ⟨other, hother, heq, -⟩ := mem_contentsUnder.1 hmem
    rw [coordinates_concat, if_pos (mem_coordinates.2 ⟨other, hother, heq⟩)]
  exact {
    room := hcontents ▸ h.room
    schemaCount_eq := hcontents ▸ h.schemaCount_eq
    documented := hcontents ▸ h.documented
    indexed := hcontents ▸ h.indexed
    versioned := fun coordinate => hunder coordinate ▸ h.versioned coordinate
    linked := fun coordinate => hunder coordinate ▸ h.linked coordinate
    artifactCount_eq := hcoordinates ▸ h.artifactCount_eq
    named := hcoordinates ▸ h.named }

/-- The versions after one more, when its text is the content of its id. -/
theorem versions_concat {call : Registration} {text : String} {id : UInt32}
    (hcontent : call.content? = some text) (known : memory.contents.get? text = some id)
    (hversioned : ∀ coordinate, (memory.versions coordinate).map (canonicalText ·.schema) =
      (contentsUnder coordinate calls).map .ok)
    (hlinked : ∀ coordinate, (memory.versions coordinate).map (fun version => some version.id) =
      (contentsUnder coordinate calls).map memory.contents.get?)
    (hnew : text ∉ contentsUnder call.coordinate calls) (coordinate : Coordinate) :
    ((memory.addVersion call.coordinate id call.schema).versions coordinate).map
        (canonicalText ·.schema) =
        (contentsUnder coordinate (calls ++ [call])).map .ok ∧
      ((memory.addVersion call.coordinate id call.schema).versions coordinate).map
        (fun version => some version.id) =
        (contentsUnder coordinate (calls ++ [call])).map memory.contents.get? := by
  rw [Memory.versions_addVersion, contentsUnder_concat hcontent]
  by_cases hown : coordinate = call.coordinate
  · subst hown
    rw [if_pos rfl, if_pos ⟨rfl, hnew⟩, List.map_append, List.map_append, List.map_append,
      List.map_append, hversioned, hlinked]
    simp [Memory.nextVersion, known, content?_eq_some_iff.1 hcontent]
  · rw [if_neg hown, if_neg fun hboth => hown hboth.1.symm]
    exact ⟨hversioned coordinate, hlinked coordinate⟩

/-- Known content becomes a version of one more artifact. -/
theorem link (h : Mirrors memory calls) {call : Registration} {text : String} {id : UInt32}
    (hcontent : call.content? = some text) (known : memory.contents.get? text = some id)
    (missing : ∀ version ∈ memory.versions call.coordinate, version.id ≠ id) :
    Mirrors (memory.addVersion call.coordinate id call.schema) (calls ++ [call]) := by
  have hnew : text ∉ contentsUnder call.coordinate calls := by
    rw [← h.exists_version_iff known]
    rintro ⟨version, hmem, heq⟩
    exact missing version hmem heq
  have hcontents : contents (calls ++ [call]) = contents calls := by
    rw [contents_concat hcontent, if_pos (h.exists_id_iff.1 ⟨id, known⟩)]
  have hversions := versions_concat hcontent known h.versioned h.linked hnew
  exact {
    room := hcontents ▸ h.room
    schemaCount_eq := hcontents ▸ h.schemaCount_eq
    documented := hcontents ▸ h.documented
    indexed := hcontents ▸ h.indexed
    versioned := fun coordinate => (hversions coordinate).1
    linked := fun coordinate => (hversions coordinate).2
    artifactCount_eq := h.artifactCount_addVersion call id
    named := h.named_addVersion call id }

/-- A document under the next id takes one more id. -/
theorem documented_addDocument (h : Mirrors memory calls) {content : Json} {id : UInt32}
    (next : memory.nextId = .ok id) (other : UInt32) :
    (memory.addDocument id content).documents.contains other = true ↔
      1 ≤ other.toNat ∧ other.toNat ≤ (contents calls).length + 1 := by
  have hid := h.toNat_nextId next
  have hother := h.documented other
  rw [Table.contains] at hother
  rw [Table.contains, Memory.get?_documents_addDocument]
  by_cases heq : other = id
  · subst heq
    rw [if_pos rfl]
    simp only [Option.isSome_some, true_iff]
    omega
  · have hne : other.toNat ≠ id.toNat := fun hnat => heq (UInt32.toNat_inj.1 hnat)
    rw [if_neg heq, hother]
    omega

/-- New content has the place that the next id gives it. -/
theorem indexed_addDocument (h : Mirrors memory calls) {content : Json} {id : UInt32}
    (unknown : memory.contents.get? content.text = none) (next : memory.nextId = .ok id)
    (text : String) (other : UInt32) :
    (memory.addDocument id content).contents.get? text = some other ↔
      1 ≤ other.toNat ∧ (contents calls ++ [content.text])[other.toNat - 1]? = some text := by
  have hid := h.toNat_nextId next
  have hother := h.indexed text other
  rw [getElem?_concat_eq_some_iff, Memory.get?_contents_addDocument]
  by_cases htext : text = content.text
  · subst htext
    rw [unknown] at hother
    rw [if_pos rfl, Option.some.injEq, ← UInt32.toNat_inj]
    constructor
    · intro heq
      exact ⟨by omega, Or.inr ⟨by omega, rfl⟩⟩
    · rintro ⟨hpos, hold | ⟨hlast, -⟩⟩
      · exact absurd (hother.2 ⟨hpos, hold⟩) (by simp)
      · omega
  · rw [if_neg htext, hother]
    simp [Ne.symm htext]

/-- The versions keep their ids when content that none of them has is added. -/
theorem linked_addDocument (h : Mirrors memory calls) {content : Json}
    (hnew : content.text ∉ contents calls) (id : UInt32) (coordinate : Coordinate) :
    ((memory.addDocument id content).versions coordinate).map (fun version => some version.id) =
      (contentsUnder coordinate calls).map (memory.addDocument id content).contents.get? := by
  refine (h.linked coordinate).trans (List.map_congr_left fun text htext => ?_)
  have hne : text ≠ content.text := by
    rintro rfl
    exact hnew (mem_contents_of_mem_contentsUnder htext)
  rw [Memory.get?_contents_addDocument, if_neg hne]

/-- New content takes the next id and becomes a version. -/
theorem add (h : Mirrors memory calls) {call : Registration} {content : Json} {id : UInt32}
    (hcontent : call.content? = some content.text)
    (unknown : memory.contents.get? content.text = none) (next : memory.nextId = .ok id) :
    Mirrors ((memory.addDocument id content).addVersion call.coordinate id call.schema)
      (calls ++ [call]) := by
  have hfresh : memory.documents.get? id = none := Memory.get?_nextId next
  have hnew : content.text ∉ contents calls := h.get?_eq_none_iff.1 unknown
  have hcontents : contents (calls ++ [call]) = contents calls ++ [content.text] := by
    rw [contents_concat hcontent, if_neg hnew]
  have hlength : (contents (calls ++ [call])).length = (contents calls).length + 1 := by
    rw [hcontents, List.length_append, List.length_singleton]
  have known : (memory.addDocument id content).contents.get? content.text = some id := by
    rw [Memory.get?_contents_addDocument, if_pos rfl]
  have hversions := versions_concat hcontent known h.versioned (h.linked_addDocument hnew id)
    fun hmem => hnew (mem_contents_of_mem_contentsUnder hmem)
  exact {
    room := by
      rw [hlength, ← h.toNat_nextId next]
      exact id.toNat_lt
    schemaCount_eq := by
      rw [hlength, ← h.schemaCount_eq]
      simp [Memory.schemaCount, Memory.addDocument, Table.size_insert, Table.contains, hfresh]
    documented := hlength ▸ h.documented_addDocument next
    indexed := hcontents ▸ h.indexed_addDocument unknown next
    versioned := fun coordinate => (hversions coordinate).1
    linked := fun coordinate => (hversions coordinate).2
    artifactCount_eq := h.artifactCount_addVersion call id
    named := h.named_addVersion call id }

/-- Every call keeps the invariant, with itself among the calls when it is answered with an id. -/
theorem step (h : Mirrors memory calls) (call : Registration) :
    Mirrors (call.action.perform memory).2
      (calls ++ successful [(call, (call.action.perform memory).1)]) := by
  have hperforms := call.performs memory
  generalize (call.action.perform memory).1 = answer at hperforms ⊢
  generalize (call.action.perform memory).2 = after at hperforms ⊢
  cases hperforms with
  | notJson _ => exact (List.append_nil calls).symm ▸ h
  | noArtifact _ version missing => exact (List.append_nil calls).symm ▸ h
  | noIdLeft _ unknown full => exact (List.append_nil calls).symm ▸ h
  | stored hjson reached stores =>
      have hcontent := content?_eq_some_iff.2 (canonicalText_of_schemaJson hjson)
      cases stores with
      | present known there => exact h.present hcontent known there
      | linked known missing => exact h.link hcontent known missing
      | fresh unknown next => exact h.add hcontent unknown next

end Mirrors

/-- The successful calls of a history start with the first one, if it was successful. -/
theorem successful_cons (call : Registration) (answer : Outcome UInt32)
    (history : History) :
    successful ((call, answer) :: history) = successful [(call, answer)] ++ successful history := by
  cases answer <;> rfl

/-- Every run keeps the invariant. -/
theorem mirrors_performAll {memory : Memory} {before : List Registration}
    (h : Mirrors memory before) (calls : List Registration) :
    Mirrors (performAll calls memory).2 (before ++ successful (performAll calls memory).1) := by
  induction calls generalizing memory before with
  | nil => exact (List.append_nil before).symm ▸ h
  | cons call rest ih =>
      have hrest := ih (h.step call)
      rw [List.append_assoc, ← successful_cons] at hrest
      exact hrest

/-- A call that was answered with an id registered content, which has that id from then on. -/
theorem get?_of_mem_performAll {calls : List Registration} {memory : Memory} {call : Registration}
    {id : UInt32} (h : (call, .ok id) ∈ (performAll calls memory).1) :
    ∃ text, call.content? = some text ∧
      (performAll calls memory).2.contents.get? text = some id := by
  induction calls generalizing memory with
  | nil => simp [performAll] at h
  | cons first rest ih =>
      rw [performAll_cons] at h ⊢
      rcases List.mem_cons.1 h with heq | hmem
      · obtain ⟨rfl, hanswer⟩ := Prod.mk.inj heq
        have hperforms := call.performs memory
        rw [← hanswer] at hperforms
        generalize (call.action.perform memory).2 = after at hperforms ⊢
        cases hperforms with
        | stored hjson reached stores =>
            refine ⟨_, content?_eq_some_iff.2 (canonicalText_of_schemaJson hjson), ?_⟩
            exact performAll_contents_kept rest stores.get?_contents
      · exact ih hmem

/-! ### Every run -/

/-- What the calls of a history say about the registry after it. -/
structure Recorded (history : History) (memory : Memory) : Prop where
  /-- The content at the k-th place among the distinct contents has the id k. -/
  id_eq_place : ∀ call id, (call, .ok id) ∈ history → ∃ k text,
    canonicalText call.schema = .ok text ∧ (contents (successful history))[k]? = some text ∧
      id.toNat = k + 1
  /-- Calls have the same id exactly when they have the same content. -/
  id_eq_iff : ∀ call id call' id', (call, .ok id) ∈ history → (call', .ok id') ∈ history →
    (id = id' ↔ canonicalText call.schema = canonicalText call'.schema)
  /-- There are as many documents as distinct contents. -/
  schemaCount_eq : memory.schemaCount = (contents (successful history)).length
  /-- There are as many artifacts as distinct coordinates. -/
  artifactCount_eq : memory.artifactCount = (coordinates (successful history)).length
  /-- An artifact has a version for each distinct content under its coordinate, in their order. -/
  versions_eq : ∀ coordinate, (memory.versions coordinate).map (canonicalText ·.schema) =
    (contentsUnder coordinate (successful history)).map .ok
  /-- The latest version has the id of the content whose first time under the coordinate is the
  last. -/
  latest_eq : ∀ coordinate text,
    (contentsUnder coordinate (successful history)).getLast? = some text →
      ∃ k id document, (contents (successful history))[k]? = some text ∧ id.toNat = k + 1 ∧
        memory.fetchLatest coordinate = .ok (id, document)

/-- The registry of a mirrored history answers as the history says. -/
theorem Mirrors.recorded {history : History} {memory : Memory}
    (h : Mirrors memory (successful history))
    (hanswers : ∀ call id, (call, .ok id) ∈ history →
      ∃ text, call.content? = some text ∧ memory.contents.get? text = some id) :
    Recorded history memory where
  id_eq_place call id hmem := by
    obtain ⟨text, hcontent, hid⟩ := hanswers call id hmem
    obtain ⟨hpos, hplace⟩ := (h.indexed text id).1 hid
    exact ⟨id.toNat - 1, text, content?_eq_some_iff.1 hcontent, hplace, by omega⟩
  id_eq_iff call id call' id' hmem hmem' := by
    obtain ⟨text, hcontent, hid⟩ := hanswers call id hmem
    obtain ⟨text', hcontent', hid'⟩ := hanswers call' id' hmem'
    rw [content?_eq_some_iff.1 hcontent, content?_eq_some_iff.1 hcontent', Except.ok.injEq]
    constructor
    · rintro rfl
      exact h.text_unique hid hid'
    · rintro rfl
      exact Option.some.inj (hid.symm.trans hid')
  schemaCount_eq := h.schemaCount_eq
  artifactCount_eq := h.artifactCount_eq
  versions_eq := h.versioned
  latest_eq coordinate text hlast := by
    have hlinked := congrArg List.getLast? (h.linked coordinate)
    rw [List.getLast?_map, List.getLast?_map, hlast] at hlinked
    obtain ⟨version, hversion, hid⟩ := Option.map_eq_some_iff.1 hlinked
    obtain ⟨hpos, hplace⟩ := (h.indexed text version.id).1 hid.symm
    have hlt := (List.getElem?_eq_some_iff.1 hplace).1
    obtain ⟨content, hcontent⟩ := Option.isSome_iff_exists.1
      ((h.documented version.id).2 ⟨hpos, by omega⟩)
    refine ⟨version.id.toNat - 1, version.id, Document.ofJson content, hplace, by omega, ?_⟩
    simp [Memory.fetchLatest, Memory.fetchById, hversion, hcontent]

/-! ### Orders of calls -/

/-- A call is successful if it was answered with an id. -/
theorem mem_successful {history : History} {call : Registration} :
    call ∈ successful history ↔ ∃ id, (call, .ok id) ∈ history := by
  simp only [successful, List.mem_map, List.mem_filter]
  constructor
  · rintro ⟨⟨own, answer⟩, ⟨hmem, hok⟩, rfl⟩
    cases answer with
    | error failure => contradiction
    | ok id => exact ⟨id, hmem⟩
  · rintro ⟨id, hmem⟩
    exact ⟨(call, .ok id), ⟨hmem, rfl⟩, rfl⟩

/-- More calls have at least as many distinct contents. -/
theorem length_contents_le {calls more : List Registration} (h : ∀ call ∈ calls, call ∈ more) :
    (contents calls).length ≤ (contents more).length := by
  refine length_eraseDups_le fun text htext => ?_
  obtain ⟨call, hcall, hcontent⟩ := List.mem_filterMap.1 htext
  exact List.mem_filterMap.2 ⟨call, h call hcall, hcontent⟩

/-- More calls name at least as many coordinates. -/
theorem length_coordinates_le {calls more : List Registration} (h : ∀ call ∈ calls, call ∈ more) :
    (coordinates calls).length ≤ (coordinates more).length := by
  refine length_eraseDups_le fun coordinate hcoordinate => ?_
  obtain ⟨call, hcall, heq⟩ := List.mem_map.1 hcoordinate
  exact List.mem_map.2 ⟨call, h call hcall, heq⟩

/-- With a call that gets no id there would be one content more than there are ids from 1 on. -/
theorem Mirrors.length_concat_of_noIdLeft {memory : Memory} {before : List Registration}
    (h : Mirrors memory before) {call : Registration} (hmakes : call.makesArtifact = true)
    (hanswer : (call.action.perform memory).1 = .error (.failed Memory.noIdLeft)) :
    (contents (before ++ [call])).length = UInt32.size := by
  have hperforms := call.performs memory
  rw [hanswer] at hperforms
  generalize (call.action.perform memory).2 = after at hperforms
  generalize hfailure : (.error (.failed Memory.noIdLeft) : Outcome UInt32) = answer at hperforms
  cases hperforms with
  | notJson _ =>
      have hkind := congrArg Failure.kind (Stop.failed.inj (Except.error.inj hfailure))
      contradiction
  | noArtifact _ version missing =>
      rw [hmakes] at version
      contradiction
  | noIdLeft hjson unknown full =>
      have hcontent := content?_eq_some_iff.2 (canonicalText_of_schemaJson hjson)
      rw [contents_concat hcontent, if_neg (h.get?_eq_none_iff.1 unknown), List.length_append,
        List.length_singleton, h.full full]
  | stored _ reached stores => contradiction

/-- No run whose contents are among few enough runs out of ids. -/
theorem not_full_of_few {all before : List Registration} {memory : Memory}
    (h : Mirrors memory before) (hfew : (contents all).length < UInt32.size)
    {calls : List Registration} (hmakes : ∀ call ∈ calls, call.makesArtifact = true)
    (hbefore : ∀ call ∈ before, call ∈ all) (hcalls : ∀ call ∈ calls, call ∈ all)
    (call : Registration) :
    (call, .error (.failed Memory.noIdLeft)) ∉ (performAll calls memory).1 := by
  induction calls generalizing memory before with
  | nil => exact List.not_mem_nil
  | cons first rest ih =>
      obtain ⟨hfirst, hrest⟩ := List.forall_mem_cons.1 hcalls
      have hstep := h.step first
      rw [performAll_cons, List.mem_cons, not_or]
      constructor
      · intro heq
        have hlength := h.length_concat_of_noIdLeft (hmakes first List.mem_cons_self)
          (Prod.mk.inj heq).2.symm
        have hle : (contents (before ++ [first])).length ≤ (contents all).length :=
          length_contents_le (List.forall_mem_append.2 ⟨hbefore, by simpa using hfirst⟩)
        omega
      · refine ih hstep (fun own hown => hmakes own (List.mem_cons_of_mem _ hown))
          (List.forall_mem_append.2 ⟨hbefore, fun own hown => ?_⟩) hrest
        obtain ⟨id, hmem⟩ := mem_successful.1 hown
        obtain rfl := (Prod.mk.inj (List.mem_singleton.1 hmem)).1
        exact hfirst

/-- Where artifacts are made as needed and ids do not run out, the calls with JSON are those that
succeed. -/
theorem successful_performAll {calls : List Registration} {memory : Memory}
    (hmakes : ∀ call ∈ calls, call.makesArtifact = true)
    (hroom : ∀ call, (call, .error (.failed Memory.noIdLeft)) ∉ (performAll calls memory).1) :
    successful (performAll calls memory).1 = calls.filter fun call => call.content?.isSome := by
  induction calls generalizing memory with
  | nil => rfl
  | cons call rest ih =>
      rw [performAll_cons] at hroom ⊢
      have hrest := ih (fun own hown => hmakes own (List.mem_cons_of_mem _ hown))
        fun own hown => hroom own (List.mem_cons_of_mem _ hown)
      have hhead := fun own hown => hroom own (List.mem_cons.2 (Or.inl hown))
      rw [successful_cons, hrest]
      have hperforms := call.performs memory
      generalize (call.action.perform memory).1 = answer at hperforms hhead ⊢
      generalize (call.action.perform memory).2 = after at hperforms
      cases hperforms with
      | notJson hjson =>
          have hnone : call.content? = none := by
            rw [content?, canonicalText, hjson]
            rfl
          rw [List.filter_cons_of_neg (by simp [hnone])]
          rfl
      | noArtifact _ version missing =>
          rw [hmakes call List.mem_cons_self] at version
          contradiction
      | noIdLeft _ unknown full => exact absurd rfl (hhead call)
      | stored hjson reached stores =>
          have hcontent := content?_eq_some_iff.2 (canonicalText_of_schemaJson hjson)
          rw [List.filter_cons_of_pos (by simp [hcontent])]
          rfl

/-- Two runs that end alike: neither of them runs out of ids, and they agree in what they count, in
the contents under each coordinate, in the calls that succeed and in which of them have equal
ids. -/
structure EndAlike (history : History) (memory : Memory) (history' : History) (memory' : Memory) :
    Prop where
  room : ∀ call, (call, .error (.failed Memory.noIdLeft)) ∉ history'
  schemaCount_eq : memory.schemaCount = memory'.schemaCount
  artifactCount_eq : memory.artifactCount = memory'.artifactCount
  version_iff : ∀ coordinate text,
    (∃ version ∈ memory.versions coordinate, canonicalText version.schema = .ok text) ↔
      ∃ version ∈ memory'.versions coordinate, canonicalText version.schema = .ok text
  succeeds_iff : ∀ call, (∃ id, (call, .ok id) ∈ history) ↔ ∃ id, (call, .ok id) ∈ history'
  group_iff : ∀ call call' id id' own own', (call, .ok id) ∈ history → (call', .ok id') ∈ history →
    (call, .ok own) ∈ history' → (call', .ok own') ∈ history' → (id = id' ↔ own = own')

/-- The contents of the versions of an artifact are those registered under it. -/
theorem Recorded.version_iff {history : History} {memory : Memory} (h : Recorded history memory)
    (coordinate : Coordinate) (text : String) :
    (∃ version ∈ memory.versions coordinate, canonicalText version.schema = .ok text) ↔
      text ∈ contentsUnder coordinate (successful history) := by
  have hmap : (∃ version ∈ memory.versions coordinate, canonicalText version.schema = .ok text) ↔
      (.ok text : Except Failure String) ∈
        (memory.versions coordinate).map (canonicalText ·.schema) := by
    rw [List.mem_map]
  rw [hmap, h.versions_eq, List.mem_map]
  simp

/-- Every run that starts with nothing leaves the registry that its calls say. -/
theorem recorded_performAll (calls : List Registration) :
    Recorded (performAll calls .empty).1 (performAll calls .empty).2 :=
  (mirrors_performAll mirrors_empty calls).recorded fun _ _ hmem => get?_of_mem_performAll hmem

/-- Runs that are recorded, with the same calls succeeding in some order, end alike. -/
theorem Recorded.endAlike {history history' : History} {memory memory' : Memory}
    (h : Recorded history memory) (h' : Recorded history' memory')
    (hperm : ∀ call, call ∈ successful history ↔ call ∈ successful history')
    (hroom : ∀ call, (call, .error (.failed Memory.noIdLeft)) ∉ history') :
    EndAlike history memory history' memory' where
  room := hroom
  schemaCount_eq := by
    rw [h.schemaCount_eq, h'.schemaCount_eq]
    exact Nat.le_antisymm (length_contents_le fun call => (hperm call).1)
      (length_contents_le fun call => (hperm call).2)
  artifactCount_eq := by
    rw [h.artifactCount_eq, h'.artifactCount_eq]
    exact Nat.le_antisymm (length_coordinates_le fun call => (hperm call).1)
      (length_coordinates_le fun call => (hperm call).2)
  version_iff coordinate text := by
    rw [h.version_iff, h'.version_iff, mem_contentsUnder, mem_contentsUnder]
    simp only [hperm]
  succeeds_iff call := by rw [← mem_successful, ← mem_successful, hperm]
  group_iff call call' id id' own own' hid hid' hown hown' := by
    rw [h.id_eq_iff call id call' id' hid hid', h'.id_eq_iff call own call' own' hown hown']

/-- Registering from an empty registry stores every content once, under the ids from 1 on in the
order of first registration, and gives every artifact a version for each of its contents. The order
of calls that make their artifacts decides nothing but which content has which id. -/
theorem performAll_stores_contents (calls : List Registration) :
    Recorded (performAll calls .empty).1 (performAll calls .empty).2 ∧
      ∀ other : List Registration, other.Perm calls →
        (∀ call ∈ calls, call.makesArtifact = true) →
        (∀ call, (call, .error (.failed Memory.noIdLeft)) ∉ (performAll calls .empty).1) →
        EndAlike (performAll calls .empty).1 (performAll calls .empty).2
          (performAll other .empty).1 (performAll other .empty).2 := by
  refine ⟨recorded_performAll calls, fun other hother hmakes hroom => ?_⟩
  have hsuccess := successful_performAll hmakes hroom
  have hmakes' : ∀ call ∈ other, call.makesArtifact = true :=
    fun call hcall => hmakes call (hother.mem_iff.1 hcall)
  -- the contents of the calls have ids in the one order, so there is room for them in the other
  have hfew : (contents calls).length < UInt32.size := by
    have hmirrors := (mirrors_performAll mirrors_empty calls).room
    rw [List.nil_append, hsuccess] at hmirrors
    have hdropped : contents (calls.filter fun call => call.content?.isSome) = contents calls := by
      rw [contents, contents, List.filterMap_filter]
      refine congrArg List.eraseDups (List.filterMap_congr fun call _ => ?_)
      cases call.content? <;> rfl
    rwa [hdropped] at hmirrors
  have hroom' := not_full_of_few mirrors_empty hfew hmakes' (by simp)
    fun call hcall => hother.mem_iff.1 hcall
  have hsuccess' := successful_performAll hmakes' hroom'
  refine (recorded_performAll calls).endAlike (recorded_performAll other) (fun call => ?_) hroom'
  rw [hsuccess, hsuccess']
  exact (hother.filter _).mem_iff.symm

/-- Three calls, the second of which spells the content of the first in another way. -/
def threeCalls : List Registration :=
  [.register ⟨"shop", "order"⟩ "\x7b\"type\":\"int\"\x7d" .avro,
    .register ⟨"shop", "item"⟩ "\x7b \"type\" : \"int\" \x7d" .avro,
    .register ⟨"shop", "order"⟩ "\"long\"" .avro]

/-- Three calls with two contents under two coordinates: the ids are those of the contents, and the
calls the other way round end alike. -/
theorem performAll_stores_contents_reversed :
    (performAll threeCalls .empty).1.map (·.2) = [.ok 1, .ok 1, .ok 2] ∧
      EndAlike (performAll threeCalls .empty).1 (performAll threeCalls .empty).2
        (performAll threeCalls.reverse .empty).1 (performAll threeCalls.reverse .empty).2 := by
  have hanswers : (performAll threeCalls .empty).1.map (·.2) = [.ok 1, .ok 1, .ok 2] := by cbv
  refine ⟨hanswers, (performAll_stores_contents threeCalls).2 threeCalls.reverse
    (List.reverse_perm threeCalls) (by decide) fun call hcall => ?_⟩
  have hanswer := List.mem_map_of_mem (f := (·.2)) hcall
  rw [hanswers] at hanswer
  simp at hanswer

end Registration

end FramedAvro
