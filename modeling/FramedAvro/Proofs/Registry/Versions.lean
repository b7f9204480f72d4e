import FramedAvro.Proofs.Registry.Contents

/-!
# Versions and their numbers

A version gets its number from the length of the list that it is added to, as a number of 32 bits.
Nothing next to this sum says that it has room. It has because no artifact has more versions than
there are documents: the versions of an artifact have different ids, since the index gives different
contents different ids and a version is added only under an id that no other one has. So the bound
on the ids, which is checked, is a bound on the numbers, which are not.

## Main definitions

* `Memory.Numbered`: the versions of an artifact are counted from 1 on.
* `Memory.Versioned`: the versions of an artifact are told apart by number, id and content.

## Main results

* `Registration.numbered_performAll`: no run loses count.
* `Registration.performAll_versioned`: the versions after any run, and the next one.
-/

namespace FramedAvro

namespace Memory

/-- The versions of every artifact have the numbers from 1 on, in their order. -/
def Numbered (memory : Memory) : Prop :=
  ∀ coordinate, (memory.versions coordinate).map (·.number.toNat) =
    List.range' 1 (memory.versions coordinate).length

/-- Storing adds a version to the artifact or leaves its versions alone, and it leaves those of all
other artifacts alone. -/
theorem Stores.versions_cases {memory after : Memory} {coordinate : Coordinate} {schema : String}
    {content : Json} {id : UInt32} (stores : Stores memory coordinate schema content id after)
    (other : Coordinate) :
    after.versions other = memory.versions other ∨
      other = coordinate ∧ after.versions other =
        memory.versions other ++ [memory.nextVersion other id schema] := by
  cases stores with
  | present known there => exact .inl rfl
  | linked known missing =>
      rw [versions_addVersion]
      split
      · next hother => exact .inr ⟨hother, by rw [hother]⟩
      · exact .inl rfl
  | fresh unknown next =>
      rw [versions_addVersion]
      split
      · next hother => exact .inr ⟨hother, by rw [hother]; rfl⟩
      · exact .inl rfl

/-- The number of the next version counts it when the count has room in 32 bits. -/
theorem toNat_number_nextVersion {memory : Memory} {coordinate : Coordinate}
    (h : (memory.versions coordinate).length + 1 < UInt32.size) (id : UInt32) (schema : String) :
    (memory.nextVersion coordinate id schema).number.toNat =
      (memory.versions coordinate).length + 1 := by
  have hlength : (UInt32.ofNat (memory.versions coordinate).length).toNat =
      (memory.versions coordinate).length :=
    UInt32.toNat_ofNat_of_lt' (Nat.lt_of_succ_lt h)
  rw [nextVersion, UInt32.toNat_add, hlength, UInt32.toNat_one]
  exact Nat.mod_eq_of_lt h

/-- The numbers go on with the next version. -/
theorem Numbered.concat {memory after : Memory} (h : Numbered memory)
    (hcases : ∀ coordinate, after.versions coordinate = memory.versions coordinate ∨
      (memory.versions coordinate).length + 1 < UInt32.size ∧ ∃ id schema,
        after.versions coordinate =
          memory.versions coordinate ++ [memory.nextVersion coordinate id schema]) :
    Numbered after := by
  intro coordinate
  rcases hcases coordinate with hsame | ⟨hroom, id, schema, hadded⟩
  · rw [hsame]
    exact h coordinate
  · rw [hadded, List.map_append, h coordinate, List.map_singleton,
      toNat_number_nextVersion hroom, List.length_append, List.length_singleton,
      List.range'_concat, Nat.one_mul, Nat.add_comm 1]

/-- The versions of every artifact are counted from 1 on, no two have the same id or the same
content, the index has the id of each under its content, and there are no more of them than
documents. -/
structure Versioned (memory : Memory) : Prop where
  numbered : Numbered memory
  ids_nodup : ∀ coordinate, ((memory.versions coordinate).map (·.id)).Nodup
  contents_nodup : ∀ coordinate, ((memory.versions coordinate).map (canonicalText ·.schema)).Nodup
  indexed : ∀ coordinate, ∀ version ∈ memory.versions coordinate, ∃ canonical,
    canonicalText version.schema = .ok canonical ∧
      memory.contents.get? canonical = some version.id
  length_le : ∀ coordinate, (memory.versions coordinate).length ≤ memory.schemaCount

end Memory

namespace Registration

/-! ### Versions and contents -/

namespace Mirrors

variable {memory : Memory} {calls : List Registration}

/-- An artifact has as many versions as contents were registered under its coordinate. -/
theorem length_versions (h : Mirrors memory calls) (coordinate : Coordinate) :
    (memory.versions coordinate).length = (contentsUnder coordinate calls).length := by
  have hlength := congrArg List.length (h.versioned coordinate)
  rwa [List.length_map, List.length_map] at hlength

/-- An artifact has no more versions than there are documents. -/
theorem length_versions_le (h : Mirrors memory calls) (coordinate : Coordinate) :
    (memory.versions coordinate).length ≤ memory.schemaCount := by
  rw [h.length_versions, h.schemaCount_eq]
  exact length_contents_le fun call hcall => (List.mem_filter.1 hcall).1

/-- An artifact has fewer versions than there are numbers of 32 bits. -/
theorem length_versions_lt (h : Mirrors memory calls) (coordinate : Coordinate) :
    (memory.versions coordinate).length < UInt32.size := by
  refine Nat.lt_of_le_of_lt (h.length_versions_le coordinate) ?_
  rw [h.schemaCount_eq]
  exact h.room

/-- Versions of an artifact have different ids, as they have different contents. -/
theorem nodup_ids (h : Mirrors memory calls) (coordinate : Coordinate) :
    ((memory.versions coordinate).map (·.id)).Nodup := by
  have hids : ((contentsUnder coordinate calls).map memory.contents.get?).Nodup := by
    refine (nodup_eraseDups _).map_on fun text htext other _ hsame => ?_
    obtain ⟨id, hid⟩ := h.exists_id_iff.2 (mem_contents_of_mem_contentsUnder htext)
    exact h.text_unique hid (hsame.symm.trans hid)
  rw [← h.linked coordinate] at hids
  refine List.Nodup.of_map some ?_
  rwa [List.map_map]

/-- No content is registered twice as a version of one artifact. -/
theorem nodup_contents (h : Mirrors memory calls) (coordinate : Coordinate) :
    ((memory.versions coordinate).map (canonicalText ·.schema)).Nodup := by
  rw [h.versioned]
  exact (nodup_eraseDups _).map fun _ _ => Except.ok.inj

/-- The index has the id of a version under its content. -/
theorem get?_contents_of_mem (h : Mirrors memory calls) {coordinate : Coordinate}
    {version : Version} (hversion : version ∈ memory.versions coordinate) :
    ∃ canonical, canonicalText version.schema = .ok canonical ∧
      memory.contents.get? canonical = some version.id := by
  -- The texts and the ids of the versions stand in the order of the contents.
  obtain ⟨place, hplace⟩ := List.mem_iff_getElem?.1 hversion
  have htext := congrArg (·[place]?) (h.versioned coordinate)
  have hid := congrArg (·[place]?) (h.linked coordinate)
  simp only [List.getElem?_map, hplace, Option.map_some] at htext hid
  obtain ⟨canonical, hcanonical, hown⟩ := Option.map_eq_some_iff.1 htext.symm
  rw [hcanonical, Option.map_some, Option.some.injEq] at hid
  exact ⟨canonical, hown.symm, hid.symm⟩

/-- A call leaves the versions of an artifact alone, or it adds one, the number of which has room in
32 bits. -/
theorem versions_cases (h : Mirrors memory calls) (call : Registration) (coordinate : Coordinate) :
    (call.action.perform memory).2.versions coordinate = memory.versions coordinate ∨
      (memory.versions coordinate).length + 1 < UInt32.size ∧ ∃ id,
        (call.action.perform memory).1 = .ok id ∧
        (call.action.perform memory).2.versions coordinate =
          memory.versions coordinate ++ [memory.nextVersion coordinate id call.schema] := by
  have hroom := (h.step call).length_versions_lt coordinate
  have hperforms := call.performs memory
  generalize (call.action.perform memory).1 = answer at hperforms hroom ⊢
  generalize (call.action.perform memory).2 = after at hperforms hroom ⊢
  cases hperforms with
  | notJson _ | noArtifact _ _ _ | noIdLeft _ _ _ => exact .inl rfl
  | @stored content id after hjson reached stores =>
      refine (stores.versions_cases coordinate).imp_right fun ⟨_, hadded⟩ => ?_
      -- There is room for the version that was added, as the tables have it now.
      rw [hadded, List.length_append, List.length_singleton] at hroom
      exact ⟨hroom, id, rfl, hadded⟩

/-- Where the versions are numbered one after the other, no id and no content comes twice under a
coordinate. -/
theorem versioned_of_numbered (h : Mirrors memory calls) (hnumbered : memory.Numbered) :
    memory.Versioned where
  numbered := hnumbered
  ids_nodup := h.nodup_ids
  contents_nodup := h.nodup_contents
  indexed _ _ := h.get?_contents_of_mem
  length_le := h.length_versions_le

end Mirrors

/-! ### Every run -/

/-- Every run goes on with the numbers. -/
theorem numbered_performAll {memory : Memory} {before : List Registration}
    (h : Mirrors memory before) (hnumbered : memory.Numbered) (calls : List Registration) :
    (performAll calls memory).2.Numbered := by
  induction calls generalizing memory before with
  | nil => exact hnumbered
  | cons call rest ih =>
      refine ih (h.step call) (hnumbered.concat fun coordinate => ?_)
      refine (h.versions_cases call coordinate).imp_right fun ⟨hroom, id, _, hadded⟩ => ?_
      exact ⟨hroom, id, call.schema, hadded⟩

/-- After registering whatever from an empty registry, the versions of every artifact have the
numbers from 1 on and different ids and contents, the index has the id of each under its content,
and there are no more of them than documents. A further call that adds a version gives it the next
number, which has room in 32 bits. -/
theorem performAll_versioned (calls : List Registration) :
    (performAll calls .empty).2.Versioned ∧
      ∀ (call : Registration) (coordinate : Coordinate),
        let memory := (performAll calls .empty).2
        let after := (call.action.perform memory).2
        after.versions coordinate = memory.versions coordinate ∨
          (memory.versions coordinate).length + 1 < UInt32.size ∧ ∃ version,
            after.versions coordinate = memory.versions coordinate ++ [version] ∧
              version.number.toNat = (memory.versions coordinate).length + 1 := by
  have hmirrors := mirrors_performAll mirrors_empty calls
  have hempty : Memory.empty.Numbered := fun coordinate => rfl
  have hnumbered := numbered_performAll mirrors_empty hempty calls
  refine ⟨hmirrors.versioned_of_numbered hnumbered, fun call coordinate => ?_⟩
  refine (hmirrors.versions_cases call coordinate).imp_right fun ⟨hroom, id, _, hadded⟩ => ?_
  exact ⟨hroom, _, hadded, Memory.toNat_number_nextVersion hroom id call.schema⟩

end Registration

end FramedAvro
