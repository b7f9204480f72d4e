import FramedAvro.Proofs.Json.Parts
import FramedAvro.Registry.Remote.Answer

/-!
# Ids in answers

Which answers name an id. What else an answer says does not matter, but the member with the id may
not come twice, and the id has to be spelled as an integer of 32 bits: a text, a number with a point
or one that is too large names none.

An id is read from what is wanted of a body, and a body of which this can be read need not be JSON.
Of one that is JSON, the id that is read is the one that the whole of it names.

## Main definitions

* `Answer.Gives`: a value under a key.
* `Answer.NamesVersion`, `Answer.NamesCreated`: an id in an answer about a version, or about a new
  artifact.

## Main results

* `Answer.versionId_eq_some_iff`, `Answer.createdId_eq_some_iff`: which bodies name an id.
* `Answer.namesVersion_only_iff`, `Answer.namesCreated_only_iff`: leaving out the rest of an answer
  changes nothing.
-/

namespace FramedAvro.Answer

/-- A value gives another one under a key: as the only member with that key, or as the only item of
an array. -/
inductive Gives (key : String) (value : Json) : Json → Prop
  | member {before after : List (String × Json)} (fresh : key ∉ before.map (·.1))
      (once : key ∉ after.map (·.1)) : Gives key value (.object (before ++ (key, value) :: after))
  | alone : Gives key value (.array [value])

/-- The description of a version names an id. -/
def NamesVersion (id : UInt32) (j : Json) : Prop :=
  Gives "globalId" (.ofNat id.toNat) j

/-- The description of a new artifact names the id of its version. -/
def NamesCreated (id : UInt32) (j : Json) : Prop :=
  ∃ version, Gives "version" version j ∧ NamesVersion id version

/-! ### Members -/

/-- The members before the first one with a key do not have it. -/
theorem lookup_eq_some_iff {key : String} {value : Json} {members : List (String × Json)} :
    members.lookup key = some value ↔ ∃ before after,
      members = before ++ (key, value) :: after ∧ key ∉ before.map (·.1) := by
  rw [List.lookup_eq_some_iff]
  refine exists_congr fun before => exists_congr fun after => and_congr_right fun _ => ?_
  simp only [List.mem_map, not_exists, not_and, bne_iff_ne, ne_eq]
  exact forall₂_congr fun _ _ => not_congr eq_comm

/-- A key comes once exactly if its first member is its only one. -/
theorem nodup_filter_keys_iff {key : String} {value : Json} {before after : List (String × Json)}
    (h : key ∉ before.map (·.1)) :
    (((before ++ (key, value) :: after).map (·.1)).filter [key].contains).Nodup ↔
      key ∉ after.map (·.1) := by
  have hnone {keys : List String} (hfresh : key ∉ keys) : keys.filter [key].contains = [] := by
    refine List.filter_eq_nil_iff.2 fun own hown => ?_
    simpa using fun heq : own = key => hfresh (heq ▸ hown)
  have hafter : ((after.map (·.1)).filter [key].contains).Nodup ∧
      key ∉ (after.map (·.1)).filter [key].contains ↔ key ∉ after.map (·.1) := by
    simp only [List.mem_filter, List.contains_iff_mem, List.mem_singleton, and_true,
      and_iff_right_iff_imp]
    intro hfresh
    rw [hnone hfresh]
    exact List.nodup_nil
  rw [List.map_append, List.filter_append, hnone h, List.nil_append, List.map_cons,
    List.filter_cons_of_pos (by simp), List.nodup_cons, and_comm]
  exact hafter

/-- The one member that is asked for is there if the value gives it, as an object or as an array. -/
theorem members?_eq_some_iff {key : String} {value j : Json} :
    members? [key] j = some [some value] ↔ Gives key value j := by
  constructor
  · intro h
    rw [members?.eq_def] at h
    split at h
    · next members =>
      split at h
      · next hnodup =>
        rw [Option.some_inj, List.map_cons, List.map_nil, List.cons.injEq, and_iff_left rfl,
          lookup_eq_some_iff] at h
        obtain ⟨before, after, rfl, hbefore⟩ := h
        exact .member hbefore ((nodup_filter_keys_iff hbefore).1 (of_decide_eq_true hnodup))
      · contradiction
    · next items =>
      split at h
      · obtain ⟨item, rfl, heq⟩ := List.map_eq_singleton_iff.1 (Option.some.inj h)
        obtain rfl := Option.some.inj heq
        exact .alone
      · contradiction
    · contradiction
  · rintro (⟨hfresh, honce⟩ | _)
    · rw [members?, if_pos (decide_eq_true ((nodup_filter_keys_iff hfresh).2 honce)),
        List.map_cons, List.map_nil, lookup_eq_some_iff.2 ⟨_, _, rfl, hfresh⟩]
    · rfl

/-- A member that may be missing is read when it is there. -/
theorem optional?_eq_some_iff {α : Type} {read? : Json → Option α} (hnull : read? .null = none)
    {member : Option Json} {a : α} :
    optional? read? member = some (some a) ↔
      ∃ value, member = some value ∧ read? value = some a := by
  cases member with
  | none => simp [optional?]
  | some value => cases value <;> simp [optional?, hnull]

/-! ### Ids -/

/-- A number is a natural number if it has no sign, no fraction and no exponent. -/
theorem toNat?_eq_some_iff {number : Json.Number} {n : Nat} :
    number.toNat? = some n ↔ number = ⟨false, n, [], none⟩ := by
  rcases number with ⟨_ | _, whole, _ | _, _ | _⟩ <;>
    simp [Json.Number.toNat?, Json.Number.isInteger]

/-- An id has one spelling. -/
theorem id?_eq_some_iff {j : Json} {id : UInt32} : id? j = some id ↔ j = .ofNat id.toNat := by
  have hnat (n : Nat) : j.nat? = some n ↔ j = .ofNat n := by
    have hspelled : Json.ofNat n = .number ⟨false, n, [], none⟩ := by
      simp [Json.ofNat, Json.ofInt, Json.Number.ofInt]
    cases j with
    | number number => simp [Json.nat?, toNat?_eq_some_iff, hspelled]
    | _ => simp [Json.nat?, hspelled]
  rw [← hnat, id?]
  constructor
  · intro h
    obtain ⟨n, hn, rfl⟩ := Option.map_eq_some_iff.1 h
    obtain ⟨hnat, hlt⟩ := Option.filter_eq_some_iff.1 hn
    rw [hnat, UInt32.toNat_ofNat_of_lt' (of_decide_eq_true hlt)]
  · intro h
    have hkept : (some id.toNat).filter (· < UInt32.size) = some id.toNat :=
      Option.filter_some_pos (decide_eq_true id.toNat_lt_size)
    rw [h, hkept, Option.map_some, UInt32.ofNat_toNat]

/-- What is read as the id of a version is what the description names. -/
theorem version?_eq_some_iff {j : Json} {id : UInt32} :
    version? j = some (some id) ↔ NamesVersion id j := by
  have hid {member : Option Json} :
      optional? id? member = some (some id) ↔ member = some (.ofNat id.toNat) := by
    simp [optional?_eq_some_iff (show id? .null = none from rfl), id?_eq_some_iff]
  rw [NamesVersion, ← members?_eq_some_iff, version?]
  constructor
  · intro h
    split at h
    · next member hmember => rw [hmember, hid.1 h]
    · contradiction
  · intro h
    rw [h]
    exact hid.2 rfl

/-- What is read as the id of a new artifact is what the description of its version names. -/
theorem created?_eq_some_iff {j : Json} {id : UInt32} :
    created? j = some (some id) ↔ NamesCreated id j := by
  have hversion {member : Option Json} :
      (optional? version? member).map Option.join = some (some id) ↔
        ∃ value, member = some value ∧ NamesVersion id value := by
    rw [← exists_congr fun value => and_congr_right fun _ => version?_eq_some_iff,
      ← optional?_eq_some_iff (show version? .null = none from rfl), Option.map_eq_some_iff]
    simp [Option.join_eq_some_iff]
  rw [created?]
  constructor
  · intro h
    split at h
    · next member hmember =>
      obtain ⟨value, rfl, hvalue⟩ := hversion.1 h
      exact ⟨value, members?_eq_some_iff.1 hmember, hvalue⟩
    · contradiction
  · rintro ⟨value, hgives, hvalue⟩
    rw [members?_eq_some_iff.2 hgives]
    exact hversion.2 ⟨value, rfl, hvalue⟩

/-! ### What is wanted -/

/-- An object gives a value under a key when that is its only member with the key. -/
theorem gives_object_iff {key : String} {value : Json} {members : List (String × Json)} :
    Gives key value (.object members) ↔
      (members.filter fun member => member.1 ∈ [key]) = [(key, value)] := by
  have hother {others : List (String × Json)} :
      (others.filter fun member => member.1 ∈ [key]) = [] ↔ key ∉ others.map (·.1) := by
    simp only [List.filter_eq_nil_iff, List.mem_map, List.mem_singleton, decide_eq_true_eq,
      not_exists, not_and]
  constructor
  · rintro ⟨hfresh, honce⟩
    rw [List.filter_append, hother.2 hfresh, List.nil_append,
      List.filter_cons_of_pos (by simp), hother.2 honce]
  · intro h
    obtain ⟨before, after, rfl, hbefore, -, hafter⟩ := List.filter_eq_cons_iff.1 h
    exact .member (hother.1 (List.filter_eq_nil_iff.2 hbefore)) (hother.1 hafter)

/-- An array gives a member as its only item. -/
theorem gives_array_iff {key : String} {value : Json} {items : List Json} :
    Gives key value (.array items) ↔ items = [value] := by
  constructor
  · rintro ⟨⟩
    rfl
  · rintro rfl
    exact .alone

/-- Once the members that are not wanted are left out, all have wanted keys. -/
theorem filter_wanted (keys : List String) (f : Json → Json) (members : List (String × Json)) :
    (((members.filter fun member => member.1 ∈ keys).map fun member =>
      (member.1, f member.2)).filter fun member => member.1 ∈ keys) =
      (members.filter fun member => member.1 ∈ keys).map fun member => (member.1, f member.2) := by
  refine List.filter_eq_self.2 fun member hmember => ?_
  obtain ⟨own, hown, rfl⟩ := List.mem_map.1 hmember
  exact (List.mem_filter.1 hown).2

/-- Leaving out the other members changes nothing about a key. -/
theorem gives_only_iff {key : String} {wanted : Json.Wanted} {value j : Json} :
    Gives key value (j.only (.parts [key] wanted)) ↔
      ∃ own, Gives key own j ∧ own.only wanted = value := by
  cases j with
  | object members =>
      simp only [Json.only, gives_object_iff, filter_wanted]
      constructor
      · intro h
        obtain ⟨⟨own, inner⟩, hmembers, heq⟩ := List.map_eq_singleton_iff.1 h
        obtain ⟨rfl, rfl⟩ := Prod.mk.inj heq
        exact ⟨inner, hmembers, rfl⟩
      · rintro ⟨own, hmembers, rfl⟩
        rw [hmembers]
        rfl
  | array items =>
      simp only [Json.only, gives_array_iff, List.map_eq_singleton_iff]
  | _ =>
      -- A value that is no object and no array gives nothing, and nothing of it is left out.
      constructor
      · intro h
        rw [Json.only] at h
        · contradiction
        all_goals simp
      · rintro ⟨own, h, -⟩
        contradiction

/-- What is wanted of a value that gives another one is one level deeper than what is wanted of that
one. -/
theorem Gives.depth_only {key : String} {wanted : Json.Wanted} {value j : Json}
    (h : Gives key value j) :
    (j.only (.parts [key] wanted)).depth = (value.only wanted).depth + 1 := by
  cases j with
  | object members =>
      rw [Json.only, gives_object_iff.1 h]
      simp [Json.depth, Json.depthOfMembers]
  | array items =>
      obtain rfl := gives_array_iff.1 h
      simp [Json.only, Json.depth, Json.depthOfItems]
  | _ => contradiction

variable {id : UInt32} {j : Json}

/-- What is passed by in the description of a version does not count for its id. -/
theorem namesVersion_only_iff : NamesVersion id (j.only versionWanted) ↔ NamesVersion id j := by
  simp only [NamesVersion, versionWanted, gives_only_iff, Json.only, exists_eq_right]

/-- What is passed by in the description of a new artifact does not count for its id. -/
theorem namesCreated_only_iff : NamesCreated id (j.only createdWanted) ↔ NamesCreated id j := by
  simp only [NamesCreated, createdWanted, gives_only_iff]
  constructor
  · rintro ⟨_, ⟨version, hgives, rfl⟩, hid⟩
    exact ⟨version, hgives, namesVersion_only_iff.1 hid⟩
  · rintro ⟨version, hgives, hid⟩
    exact ⟨_, ⟨version, hgives, rfl⟩, namesVersion_only_iff.2 hid⟩

/-- What is wanted of an answer that names an id is two levels deep at most. -/
theorem NamesVersion.depth_only (h : NamesVersion id j) : (j.only versionWanted).depth = 1 :=
  Gives.depth_only h

/-- What counts in the description of a new artifact has two levels. -/
theorem NamesCreated.depth_only (h : NamesCreated id j) : (j.only createdWanted).depth = 2 := by
  obtain ⟨version, hgives, hid⟩ := h
  rw [createdWanted, hgives.depth_only, hid.depth_only]

/-! ### Bodies -/

variable {body : String}

/-- What is read from a body is read from what is wanted of it. -/
theorem read_eq_ok_iff {α : Type} {what : String} {wanted : Json.Wanted}
    {read? : Json → Option α} {a : α} :
    read what wanted read? body = .ok a ↔
      ∃ j, Json.parseWanted? wanted body = some j ∧ read? j = some a := by
  rw [← Option.bind_eq_some_iff, read]
  cases (Json.parseWanted? wanted body).bind read? <;> simp

/-- There is one way in which reading a body fails. -/
theorem eq_unreadable_of_read {α : Type} {what : String} {wanted : Json.Wanted}
    {read? : Json → Option α} {failure : Failure}
    (h : read what wanted read? body = .error failure) : failure = unreadable what body := by
  rw [read] at h
  split at h
  · contradiction
  · exact (Except.error.inj h).symm

/-- A body is answered with an id exactly if its description of a version names the id. -/
theorem versionId_eq_some_iff : versionId body = .ok (some id) ↔
    ∃ j, Json.parseWanted? versionWanted body = some j ∧ NamesVersion id j := by
  simp only [versionId, read_eq_ok_iff, version?_eq_some_iff]

/-- A body is answered with an id exactly if its description of a new artifact names the id. -/
theorem createdId_eq_some_iff : createdId body = .ok (some id) ↔
    ∃ j, Json.parseWanted? createdWanted body = some j ∧ NamesCreated id j := by
  simp only [createdId, read_eq_ok_iff, created?_eq_some_iff]

end FramedAvro.Answer
