import FramedAvro.Proofs.Registry.Search
import FramedAvro.Proofs.Serializer.Cache

/-!
# Groups are isolated

A lookup in a group sees the versions of the artifacts of this group and the documents of these
versions, and nothing else. All groups share the table of documents and store the same content only
once, and the last question of a lookup names no group, so this has to be shown for every question
on the way.

Two registries are the same in a group when they agree in what may be seen. A search goes through
all artifacts in both of them, but it answers the least coordinate with a property
(`Coordinate.Finds`), and there is only one such coordinate in the group.

## Main definitions

* `Memory.SameIn`: two registries agree in a group.

## Main results

* `Memory.SameIn.lookups_eq`: every lookup in the group answers alike, and in the group.
-/

namespace FramedAvro

namespace Coordinate

variable {group : Option String} {P Q : Coordinate → Prop}

/-- There is only one least coordinate with a property, as far as the group goes. -/
theorem Least.unique {c other : Coordinate} (h : Least group P c) (h' : Least group Q other)
    (hsame : ∀ c : Coordinate, c.inGroup group = true → (P c ↔ Q c)) : c = other := by
  rcases h.least other h'.inGroup ((hsame other h'.inGroup).2 h'.holds) with heq | hbefore
  · exact heq.symm
  · refine (h'.least c h.inGroup ((hsame c h.inGroup).1 h.holds)).elim id fun hbefore' => ?_
    exact absurd hbefore' hbefore.asymm

/-- What a search for a property answers is decided by where in the group the property holds. -/
theorem Finds.unique {found found' : Option Coordinate} (h : Finds group P found)
    (h' : Finds group Q found')
    (hsame : ∀ c : Coordinate, c.inGroup group = true → (P c ↔ Q c)) : found = found' := by
  cases h with
  | nowhere hnowhere =>
      cases h' with
      | nowhere _ => rfl
      | least hleast =>
          exact absurd ((hsame _ hleast.inGroup).2 hleast.holds) (hnowhere _ hleast.inGroup)
  | least hleast =>
      cases h' with
      | nowhere hnowhere =>
          exact absurd ((hsame _ hleast.inGroup).1 hleast.holds) (hnowhere _ hleast.inGroup)
      | least hleast' => exact congrArg some (hleast.unique hleast' hsame)

/-- What a search within a group finds is in the group. -/
theorem Finds.inGroup {c : Coordinate} (h : Finds group P (some c)) : c.inGroup group = true := by
  cases h with
  | least hleast => exact hleast.inGroup

/-- A coordinate is in a group if the group is its own. -/
theorem inGroup_some_iff {group : String} {c : Coordinate} :
    c.inGroup (some group) = true ↔ c.group = group := by
  simp [inGroup]

end Coordinate

namespace Memory

/-- The registries have the same versions under every coordinate of the group, and the same
documents under the ids of these versions. -/
structure SameIn (group : String) (memory other : Memory) : Prop where
  versions_eq : ∀ coordinate : Coordinate, coordinate.group = group →
    memory.versions coordinate = other.versions coordinate
  documents_eq : ∀ coordinate : Coordinate, coordinate.group = group →
    ∀ version ∈ memory.versions coordinate,
      memory.documents.get? version.id = other.documents.get? version.id

/-- Content that is stored under a coordinate of another group changes nothing in the group. -/
theorem Stores.sameIn {memory after : Memory} {coordinate : Coordinate} {schema : String}
    {content : Json} {id : UInt32} (stores : Stores memory coordinate schema content id after)
    (h : Documented memory) {group : String} (hother : coordinate.group ≠ group) :
    SameIn group memory after := by
  have hversions (stored : Memory) (own : Coordinate) (hown : own.group = group) :
      (stored.addVersion coordinate id schema).versions own = stored.versions own := by
    rw [versions_addVersion, if_neg fun heq : own = coordinate => hother (heq ▸ hown)]
  cases stores with
  | present known there => exact ⟨fun _ _ => rfl, fun _ _ _ _ => rfl⟩
  | linked known missing =>
      exact ⟨fun own hown => (hversions memory own hown).symm, fun _ _ _ _ => rfl⟩
  | fresh unknown next =>
      refine ⟨fun own hown => (hversions _ own hown).symm, fun own hown version hversion => ?_⟩
      -- The new id has no document yet, so it is not the id of a version.
      obtain ⟨document, hdocument⟩ := h.versioned own version hversion
      rw [documents_addVersion, grows_addDocument content (get?_nextId next) _ _ hdocument,
        hdocument]

namespace SameIn

variable {group : String} {memory other : Memory}

/-! ### What may be seen -/

/-- An artifact of the group has a content in one registry exactly if it has it in the other. -/
theorem hasContent_iff (h : SameIn group memory other) {coordinate : Coordinate}
    (hgroup : coordinate.group = group) (schema : String) :
    memory.HasContent schema coordinate ↔ other.HasContent schema coordinate := by
  rw [HasContent, HasContent, h.versions_eq coordinate hgroup]

/-- The latest version of an artifact in the group is one whose document may be seen. -/
theorem fetchLatest_eq (h : SameIn group memory other) {coordinate : Coordinate}
    (hgroup : coordinate.group = group) :
    memory.fetchLatest coordinate = other.fetchLatest coordinate := by
  rw [fetchLatest, fetchLatest, ← h.versions_eq coordinate hgroup]
  cases hlatest : (memory.versions coordinate).getLast? with
  | none => rfl
  | some latest =>
      have hdocument := h.documents_eq coordinate hgroup latest (List.mem_of_getLast? hlatest)
      simp only [fetchById, hdocument]

/-- An artifact of the group has a fingerprint in one registry exactly if it has it in the other. -/
theorem hasFingerprint_iff (h : SameIn group memory other) {coordinate : Coordinate}
    (hgroup : coordinate.group = group) (schema : String) :
    memory.HasFingerprint schema coordinate ↔ other.HasFingerprint schema coordinate := by
  rw [HasFingerprint, HasFingerprint, h.fetchLatest_eq hgroup]

/-- A comparison with an artifact of the group breaks in one registry exactly if it does in the
other. -/
theorem breaks_iff (h : SameIn group memory other) {coordinate : Coordinate}
    (hgroup : coordinate.group = group) : memory.Breaks coordinate ↔ other.Breaks coordinate := by
  rw [Breaks, Breaks, h.fetchLatest_eq hgroup]

/-- A search in the group breaks in both registries or in none. -/
theorem breaksSearch_iff (h : SameIn group memory other) (schema : String) :
    memory.BreaksSearch schema (some group) ↔ other.BreaksSearch schema (some group) := by
  rw [BreaksSearch, BreaksSearch]
  refine exists_congr fun c => and_congr_right fun hc => ?_
  rw [h.breaks_iff (Coordinate.inGroup_some_iff.1 hc)]
  refine and_congr_right fun _ => forall_congr' fun own => forall_congr' fun hown => ?_
  rw [h.hasFingerprint_iff (Coordinate.inGroup_some_iff.1 hown)]

/-! ### The questions of a lookup -/

/-- A search by content within the group finds the same in both registries. -/
theorem findByContent_eq (h : SameIn group memory other) (schema : String) :
    memory.findByContent schema (some group) = other.findByContent schema (some group) := by
  cases hcanonical : canonicalText schema with
  | error failure =>
      rw [findByContent, findByContent, hcanonical]
      rfl
  | ok canonical =>
      obtain ⟨found, hfound, hfinds⟩ := memory.findByContent_finds hcanonical (some group)
      obtain ⟨found', hfound', hfinds'⟩ := other.findByContent_finds hcanonical (some group)
      rw [hfound, hfound', hfinds.unique hfinds' fun c hc =>
        h.hasContent_iff (Coordinate.inGroup_some_iff.1 hc) schema]

/-- A search by fingerprint within the group ends the same in both registries, also when it breaks.
-/
theorem findByFingerprint_eq (h : SameIn group memory other) (schema : String) :
    memory.findByFingerprint schema (some group) =
      other.findByFingerprint schema (some group) := by
  cases htarget : Fingerprint.ofSchema schema with
  | error stop =>
      rw [findByFingerprint, findByFingerprint, htarget]
      rfl
  | ok target =>
      -- Either search breaks when the other does, so the two ends of one are those of the other.
      have hbreaks := h.breaksSearch_iff schema
      rcases memory.findByFingerprint_cases htarget (some group) with
        ⟨found, hfound, hfinds, hreturns⟩ | ⟨hfound, hown⟩
      · rcases other.findByFingerprint_cases htarget (some group) with
          ⟨found', hfound', hfinds', -⟩ | ⟨-, hown'⟩
        · rw [hfound, hfound', hfinds.unique hfinds' fun c hc =>
            h.hasFingerprint_iff (Coordinate.inGroup_some_iff.1 hc) schema]
        · exact absurd (hbreaks.2 hown') hreturns
      · rcases other.findByFingerprint_cases htarget (some group) with
          ⟨-, -, -, hreturns'⟩ | ⟨hfound', -⟩
        · exact absurd (hbreaks.1 hown) hreturns'
        · rw [hfound, hfound']

/-- The two searches one after the other end the same in both registries. -/
theorem findArtifact_eq (h : SameIn group memory other) (schema : String) :
    memory.findArtifact schema (some group) = other.findArtifact schema (some group) := by
  rw [findArtifact, findArtifact, h.findByContent_eq, h.findByFingerprint_eq]

end SameIn

/-! ### What is found -/

/-- The search by content answers in the group it was asked about. -/
theorem inGroup_of_findByContent {memory : Memory} {schema : String} {group : Option String}
    {coordinate : Coordinate} (h : memory.findByContent schema group = .ok (some coordinate)) :
    coordinate.inGroup group = true := by
  cases hcanonical : canonicalText schema with
  | error failure =>
      rw [findByContent, hcanonical] at h
      contradiction
  | ok canonical =>
      obtain ⟨found, hfound, hfinds⟩ := memory.findByContent_finds hcanonical group
      obtain rfl := Except.ok.inj (hfound.symm.trans h)
      exact hfinds.inGroup

/-- The search by fingerprint answers in the group it was asked about. -/
theorem inGroup_of_findByFingerprint {memory : Memory} {schema : String} {group : Option String}
    {coordinate : Coordinate} (h : memory.findByFingerprint schema group = .ok (some coordinate)) :
    coordinate.inGroup group = true := by
  cases htarget : Fingerprint.ofSchema schema with
  | error stop =>
      rw [findByFingerprint, htarget] at h
      contradiction
  | ok target =>
      rcases memory.findByFingerprint_cases htarget group with
        ⟨found, hfound, hfinds, -⟩ | ⟨hfound, -⟩
      · obtain rfl := Except.ok.inj (hfound.symm.trans h)
        exact hfinds.inGroup
      · rw [hfound] at h
        contradiction

/-- The artifact that is found for a schema is in the group that was asked for. -/
theorem inGroup_of_findArtifact {memory : Memory} {schema : String} {group : Option String}
    {coordinate : Coordinate} (h : memory.findArtifact schema group = .ok (some coordinate)) :
    coordinate.inGroup group = true := by
  rw [findArtifact] at h
  rcases hcontent : memory.findByContent schema group with failure | _ | found
  · rw [hcontent] at h
    contradiction
  · rw [hcontent] at h
    exact inGroup_of_findByFingerprint h
  · rw [hcontent] at h
    obtain rfl := Option.some.inj (Except.ok.inj h)
    exact inGroup_of_findByContent hcontent

namespace SameIn

variable {group : String} {memory other : Memory}

/-- The artifact that is found is one of the group, so its latest version is the same as well. -/
theorem findSchema_eq (h : SameIn group memory other) (schema : String) :
    memory.findSchema schema (some group) = other.findSchema schema (some group) := by
  rw [findSchema, findSchema, ← h.findArtifact_eq]
  rcases hfound : memory.findArtifact schema (some group) with failure | _ | coordinate
  · rfl
  · rfl
  · exact congrArg Outcome.ofExcept
      (h.fetchLatest_eq (Coordinate.inGroup_some_iff.1 (inGroup_of_findArtifact hfound)))

end SameIn

end Memory

/-- A registration under a coordinate of another group changes nothing in the group. -/
theorem Registration.sameIn (call : Registration) {memory : Memory} (h : memory.Documented)
    {group : String} (hother : call.coordinate.group ≠ group) :
    Memory.SameIn group memory (call.action.perform memory).2 := by
  have hperforms := call.performs memory
  generalize (call.action.perform memory).1 = answer at hperforms
  generalize (call.action.perform memory).2 = after at hperforms ⊢
  cases hperforms with
  | notJson _ => exact ⟨fun _ _ => rfl, fun _ _ _ _ => rfl⟩
  | noArtifact _ version missing => exact ⟨fun _ _ => rfl, fun _ _ _ _ => rfl⟩
  | noIdLeft _ unknown full => exact ⟨fun _ _ => rfl, fun _ _ _ _ => rfl⟩
  | stored hcontent reached stores => exact stores.sameIn h hother

/-! ### Writing with what is found -/

namespace Serializing

/-- With nothing kept, an item is written with the document that is found. -/
theorem perform_serialize_make {α : Type} (keepsSchemas : Bool) (group : Option String)
    (memory : Memory) (model : Model α) (item : α) :
    ((serialize Memory.registry model item none).perform
      ⟨.make keepsSchemas group, memory⟩).1 =
        ((memory.findSchema model.schema group).bind fun found =>
          (ParsedSchema.parse found.1 found.2).bind fun schema =>
            schema.frameItem model item).mapError (.mapFailure fun failure =>
              failure.wrapUnless .serialization passThrough
                "Failed to serialize object with automatic schema lookup") := by
  have hkept (id : UInt32) : (Serializer.make keepsSchemas group).kept? id = none := by
    cases keepsSchemas <;> rfl
  have hgroup : (Serializer.make keepsSchemas group).lookupGroup = group := rfl
  rw [serialize, serializeByLookup, writingWithLookup, perform_wrapping, Action.perform_bind,
    Action.perform_get]
  simp only [Action.perform_bind, ask, Action.perform_onPart, hgroup, Memory.perform_findSchema]
  cases memory.findSchema model.schema group with
  | error stop => rfl
  | ok found =>
      simp only [perform_parse, hkept, Except.bind]
      cases ParsedSchema.parse found.1 found.2 <;> rfl

end Serializing

namespace Memory

/-- In two registries that are the same in a group, each question of a lookup in the group, the
whole lookup and writing an item by it answer the same or fail with the same failure, and every
artifact that is found is one of the group. -/
theorem SameIn.lookups_eq {group : String} {memory other : Memory} (h : SameIn group memory other)
    (schema : String) :
    ((registry.findByContent schema (some group)).perform memory).1 =
        ((registry.findByContent schema (some group)).perform other).1 ∧
      ((registry.findByFingerprint schema (some group)).perform memory).1 =
        ((registry.findByFingerprint schema (some group)).perform other).1 ∧
      ((registry.findSchema schema (some group)).perform memory).1 =
        ((registry.findSchema schema (some group)).perform other).1 ∧
      (∀ coordinate : Coordinate,
        ((registry.findByContent schema (some group)).perform memory).1 = .ok (some coordinate) ∨
          ((registry.findByFingerprint schema (some group)).perform memory).1 =
            .ok (some coordinate) ∨
          ((registry.findArtifact schema (some group)).perform memory).1 =
            .ok (some coordinate) →
        coordinate.group = group) ∧
      ∀ {α : Type} (keepsSchemas : Bool) (model : Model α) (item : α),
        ((Serializing.serialize registry model item none).perform
            ⟨.make keepsSchemas (some group), memory⟩).1 =
          ((Serializing.serialize registry model item none).perform
            ⟨.make keepsSchemas (some group), other⟩).1 := by
  refine ⟨congrArg Outcome.ofExcept (h.findByContent_eq schema), h.findByFingerprint_eq schema, ?_,
    fun coordinate hfound => ?_, fun keepsSchemas model item => ?_⟩
  · rw [perform_findSchema, perform_findSchema]
    exact h.findSchema_eq schema
  · rw [perform_findArtifact] at hfound
    refine Coordinate.inGroup_some_iff.1 ?_
    rcases hfound with hfound | hfound | hfound
    · exact inGroup_of_findByContent (Outcome.ofExcept_eq_ok_iff.1 hfound)
    · exact inGroup_of_findByFingerprint hfound
    · exact inGroup_of_findArtifact hfound
  · rw [Serializing.perform_serialize_make, Serializing.perform_serialize_make, h.findSchema_eq]

/-- An int in the group of a shop. -/
def shopInt : Memory :=
  Change.applyAll [.register (.register ⟨"shop", "order"⟩ "\"int\"" .avro)] .empty

/-- The same content in the group of a bank, which is found first when no group is given. -/
def bankInt : Registration :=
  .register ⟨"bank", "account"⟩ "\"int\"" .avro

/-- A registration in another group, to which the schema comes first: a search everywhere finds it
there, while a search within the group still finds what it found before. -/
theorem SameIn.lookups_eq_bankInt :
    SameIn "shop" shopInt (bankInt.action.perform shopInt).2 ∧
      ((registry.findByContent "\"int\"" none).perform (bankInt.action.perform shopInt).2).1 =
        .ok (some ⟨"bank", "account"⟩) ∧
      ((registry.findByContent "\"int\"" (some "shop")).perform
          (bankInt.action.perform shopInt).2).1 = .ok (some ⟨"shop", "order"⟩) := by
  have hsame : SameIn "shop" shopInt (bankInt.action.perform shopInt).2 :=
    bankInt.sameIn (Change.applyAll_documented _) (by decide)
  refine ⟨hsame, by cbv, ?_⟩
  rw [← (hsame.lookups_eq "\"int\"").1]
  cbv

end Memory

end FramedAvro
