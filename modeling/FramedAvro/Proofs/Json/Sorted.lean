import FramedAvro.Proofs.Json.Meaning
import FramedAvro.Proofs.Json.RoundTrip
import FramedAvro.Proofs.Pairing

/-!
# Sorting members

A value whose members are sorted is the same value as the one that was written, ordered, and no
deeper. The one thing that sorting does not keep is an object that starts with `Json.numberKey`,
which stands for a number when that is its only member and for nothing otherwise. So a sorted value
is sorted to itself, and read back from its own text, unless it holds such an object: one in which
this key was not written first but is the least.

## Main results

* `Json.exists_sorted_iff`: which values can be sorted.
* `Json.same_of_sorted`: sorting keeps the value.
* `Json.ordered_of_sorted`: what is sorted is ordered.
* `Json.parseSorted?_text`: a sorted value is read back from its text.
-/

namespace FramedAvro

namespace Json

/-! ### Sorting item by item -/

/-- Items are sorted each for itself. -/
theorem sortedItems?_eq_some_iff {items sorted : List Json} :
    sortedItems? items = some sorted ↔
      List.Forall₂ (fun item own => item.sorted? = some own) items sorted := by
  induction items generalizing sorted with
  | nil => simp [sortedItems?, eq_comm]
  | cons item rest ih =>
      simp only [sortedItems?, Option.bind_eq_bind, Option.bind_eq_some_iff, Option.pure_def,
        Option.some.injEq, ih, List.forall₂_cons_left_iff]
      constructor
      · rintro ⟨own, hown, more, hmore, rfl⟩
        exact ⟨own, more, hown, hmore, rfl⟩
      · rintro ⟨own, more, hown, hmore, rfl⟩
        exact ⟨own, hown, more, hmore, rfl⟩

/-- A member with its value sorted. -/
def SortsTo (member own : String × Json) : Prop :=
  member.1 = own.1 ∧ member.2.sorted? = some own.2

/-- Members keep their keys and are sorted each for itself. -/
theorem sortedMembers?_eq_some_iff {members sorted : List (String × Json)} :
    sortedMembers? members = some sorted ↔ List.Forall₂ SortsTo members sorted := by
  induction members generalizing sorted with
  | nil => simp [sortedMembers?, eq_comm]
  | cons member rest ih =>
      obtain ⟨key, value⟩ := member
      simp only [sortedMembers?, Option.bind_eq_bind, Option.bind_eq_some_iff, Option.pure_def,
        Option.some.injEq, ih, List.forall₂_cons_left_iff]
      constructor
      · rintro ⟨own, hown, more, hmore, rfl⟩
        exact ⟨(key, own), more, ⟨rfl, hown⟩, hmore, rfl⟩
      · rintro ⟨⟨name, own⟩, more, ⟨rfl, hown⟩, hmore, rfl⟩
        exact ⟨own, hown, more, hmore, rfl⟩

/-- An array is sorted item by item, and keeps its order. -/
theorem sorted?_array_eq_some_iff {items : List Json} {sorted : Json} :
    (array items).sorted? = some sorted ↔ ∃ own,
      List.Forall₂ (fun item own => item.sorted? = some own) items own ∧ sorted = array own := by
  rw [sorted?, Option.map_eq_some_iff]
  simp only [sortedItems?_eq_some_iff, eq_comm (a := sorted)]

/-- The first key of members is the key of numbers. -/
def StartsWithNumberKey (members : List (String × Json)) : Prop :=
  members.head?.map (·.1) = some numberKey

/-- An object that does not start with the key of numbers is sorted member by member. -/
theorem sorted?_object {members : List (String × Json)} (h : ¬StartsWithNumberKey members) :
    (object members).sorted? =
      (sortedMembers? members).map fun own => object (Entries.ofList own) := by
  cases members with
  | nil => rfl
  | cons first rest =>
      obtain ⟨key, value⟩ := first
      rw [sorted?]
      exact if_neg fun hkey => h (congrArg some hkey)

/-- An object that starts with the key of numbers is the number that its only member spells, if
anything. -/
theorem exists_number_of_startsWithNumberKey {members : List (String × Json)}
    (h : StartsWithNumberKey members) {sorted : Json}
    (hsorted : (object members).sorted? = some sorted) :
    ∃ n text, members = [(numberKey, string text)] ∧ readNumber text.toList = some (n, []) ∧
      sorted = number n := by
  cases members with
  | nil => contradiction
  | cons first rest =>
      obtain ⟨key, value⟩ := first
      obtain rfl : key = numberKey := Option.some.inj h
      rw [sorted?, if_pos rfl] at hsorted
      cases rest with
      | cons second rest => contradiction
      | nil =>
          rw [List.isEmpty_nil, if_pos rfl] at hsorted
          unfold spelledNumber? at hsorted
          split at hsorted
          · split at hsorted
            · next n hread => exact ⟨n, _, rfl, hread, (Option.some.inj hsorted).symm⟩
            · contradiction
          · contradiction

/-- What sorting an object gives. -/
theorem sorted?_object_cases {members : List (String × Json)} {sorted : Json}
    (h : (object members).sorted? = some sorted) :
    (∃ n value, members = [(numberKey, value)] ∧ sorted = number n) ∨
      ¬StartsWithNumberKey members ∧
        ∃ own, List.Forall₂ SortsTo members own ∧ sorted = object (Entries.ofList own) := by
  by_cases hstarts : StartsWithNumberKey members
  · obtain ⟨n, text, hmembers, -, hsorted⟩ := exists_number_of_startsWithNumberKey hstarts h
    exact .inl ⟨n, string text, hmembers, hsorted⟩
  · rw [sorted?_object hstarts, Option.map_eq_some_iff] at h
    obtain ⟨own, hown, rfl⟩ := h
    exact .inr ⟨hstarts, own, sortedMembers?_eq_some_iff.1 hown, rfl⟩

/-! ### What is inside a sorted value -/

/-- Whatever is inside a sorted value was sorted from something inside the value. -/
theorem exists_inside_of_sorted {j sorted inner : Json} (h : j.sorted? = some sorted)
    (hinner : Inside inner sorted) : ∃ own, Inside own j ∧ own.sorted? = some inner := by
  induction j using inductionOn generalizing sorted with
  | null | bool _ | number _ | string _ =>
      obtain rfl := Option.some.inj h
      cases hinner
      exact ⟨_, .self, h⟩
  | array items ih =>
      obtain ⟨own, hown, rfl⟩ := sorted?_array_eq_some_iff.1 h
      cases hinner with
      | self => exact ⟨_, .self, h⟩
      | item hmem hinside =>
          obtain ⟨item, hitem, hsorted⟩ := exists_of_mem_forall₂ hown hmem
          obtain ⟨found, hfound, heq⟩ := ih item hitem hsorted hinside
          exact ⟨found, .item hitem hfound, heq⟩
  | object members ih =>
      obtain ⟨n, value, -, rfl⟩ | ⟨-, own, hown, rfl⟩ := sorted?_object_cases h
      -- An object that spells a number has become one, with nothing inside.
      · cases hinner
        exact ⟨_, .self, h⟩
      · cases hinner with
        | self => exact ⟨_, .self, h⟩
        | member hmem hinside =>
            obtain ⟨⟨key, value⟩, hvalue, -, hsorted⟩ :=
              exists_of_mem_forall₂ hown (Entries.mem_ofList hmem)
            obtain ⟨found, hfound, heq⟩ := ih key value hvalue hsorted hinside
            exact ⟨found, .member hvalue hfound, heq⟩

/-- An object was sorted from an object that does not start with the key of numbers. -/
theorem exists_object_of_sorted {j : Json} {members : List (String × Json)}
    (h : j.sorted? = some (object members)) :
    ∃ written own, j = object written ∧ ¬StartsWithNumberKey written ∧
      List.Forall₂ SortsTo written own ∧ members = Entries.ofList own := by
  cases j with
  | null | bool _ | number _ | string _ => exact absurd (Option.some.inj h) (by simp)
  | array items =>
      obtain ⟨own, -, heq⟩ := sorted?_array_eq_some_iff.1 h
      contradiction
  | object written =>
      obtain ⟨n, value, -, heq⟩ | ⟨hstarts, own, hown, heq⟩ := sorted?_object_cases h
      · contradiction
      · exact ⟨written, own, rfl, hstarts, hown, object.inj heq⟩

/-- What is sorted is ordered. -/
theorem ordered_of_sorted {j sorted : Json} (h : j.sorted? = some sorted) : sorted.Ordered := by
  intro members hmembers
  obtain ⟨own, -, hown⟩ := exists_inside_of_sorted h hmembers
  obtain ⟨_, _, -, -, -, rfl⟩ := exists_object_of_sorted hown
  exact Entries.ascending_ofList _

/-! ### Objects that are taken for numbers -/

/-- An object that starts with the key of numbers has no other member, and spells a number. -/
def Spelled (j : Json) : Prop :=
  ∀ members, Inside (object members) j → StartsWithNumberKey members →
    ∃ n text, members = [(numberKey, string text)] ∧ readNumber text.toList = some (n, [])

/-- A value that is sorted has numbers in the place of what is taken for one. -/
theorem spelled_of_sorted {j sorted : Json} (h : j.sorted? = some sorted) : j.Spelled := by
  induction j using inductionOn generalizing sorted with
  | null | bool _ | number _ | string _ =>
      intro members hmembers
      simp at hmembers
  | array items ih =>
      obtain ⟨own, hown, -⟩ := sorted?_array_eq_some_iff.1 h
      intro members hmembers
      cases hmembers with
      | item hitem hinside =>
          obtain ⟨value, -, hsorted⟩ := exists_of_mem_forall₂ hown.flip hitem
          exact ih _ hitem hsorted members hinside
  | object members ih =>
      by_cases hstarts : StartsWithNumberKey members
      · obtain ⟨n, text, rfl, hread, -⟩ := exists_number_of_startsWithNumberKey hstarts h
        intro inner hinner _
        cases hinner with
        | self => exact ⟨n, text, rfl, hread⟩
        | member hvalue hinside =>
            obtain ⟨-, rfl⟩ := Prod.mk.inj (List.mem_singleton.1 hvalue)
            cases hinside
      · rw [sorted?_object hstarts, Option.map_eq_some_iff] at h
        obtain ⟨own, hown, -⟩ := h
        intro inner hinner hfirst
        cases hinner with
        | self => exact absurd hfirst hstarts
        | member hvalue hinside =>
            obtain ⟨value, -, -, hsorted⟩ :=
              exists_of_mem_forall₂ (sortedMembers?_eq_some_iff.1 hown).flip hvalue
            exact ih _ _ hvalue hsorted inner hinside hfirst

/-- A value is sorted exactly when what is taken for a number spells one. -/
theorem exists_sorted_iff {j : Json} : (∃ sorted, j.sorted? = some sorted) ↔ j.Spelled := by
  refine ⟨fun ⟨_, h⟩ => spelled_of_sorted h, fun h => ?_⟩
  induction j using inductionOn with
  | null | bool _ | number _ | string _ => exact ⟨_, rfl⟩
  | array items ih =>
      obtain ⟨own, hown⟩ := exists_forall₂ fun item hitem =>
        ih item hitem fun members hmembers => h members (.item hitem hmembers)
      exact ⟨_, sorted?_array_eq_some_iff.2 ⟨own, hown, rfl⟩⟩
  | object members ih =>
      by_cases hstarts : StartsWithNumberKey members
      · obtain ⟨n, text, rfl, hread⟩ := h members .self hstarts
        exact ⟨number n, by simp [sorted?, spelledNumber?, hread]⟩
      · have hvalues : ∀ member ∈ members, ∃ own, SortsTo member own := by
          rintro ⟨key, value⟩ hmember
          obtain ⟨own, hown⟩ :=
            ih key value hmember fun inner hinner => h inner (.member hmember hinner)
          exact ⟨(key, own), rfl, hown⟩
        obtain ⟨own, hown⟩ := exists_forall₂ hvalues
        rw [sorted?_object hstarts, sortedMembers?_eq_some_iff.2 hown]
        exact ⟨_, rfl⟩

/-! ### Objects that stand for themselves -/

/-- No object starts with the key of numbers. -/
def Unreserved (j : Json) : Prop :=
  ∀ members, Inside (object members) j → ¬StartsWithNumberKey members

/-- No object inside a value that is reached from it starts with the key of numbers either. -/
theorem Unreserved.enter {j inner : Json} (h : j.Unreserved) {step : Step}
    (hinner : enter? step j = some inner) : inner.Unreserved :=
  fun members hmembers => h members (inside_of_enter hinner hmembers)

/-- A value in which all objects stand for themselves is sorted. -/
theorem exists_sorted {j : Json} (h : j.Unreserved) : ∃ sorted, j.sorted? = some sorted :=
  exists_sorted_iff.2 fun members hmembers hstarts => absurd hstarts (h members hmembers)

/-- Members that are sorted one by one have the sorted values under the same keys. -/
theorem rel_get?_of_sortsTo {members own : List (String × Json)}
    (h : List.Forall₂ SortsTo members own) (key : String) :
    Option.Rel (fun value own => value.sorted? = some own) (Entries.get? key members)
      (Entries.get? key own) := by
  induction h with
  | nil => exact .none
  | @cons member other _ _ hsorts _ ih =>
      obtain ⟨name, value⟩ := member
      obtain ⟨name', value'⟩ := other
      obtain ⟨rfl, hvalue⟩ : name = name' ∧ value.sorted? = some value' := hsorts
      rw [Entries.get?, Entries.get?]
      split
      · exact .some hvalue
      · exact ih

/-- A member of a sorted value is the one that counts among those that were written, sorted. -/
theorem rel_get?_of_sorted {j sorted : Json} (h : j.sorted? = some sorted) {key : String}
    (hkey : key ≠ numberKey) :
    Option.Rel (fun value own => value.sorted? = some own) (enter? (.member key) j)
      (sorted.get? key) := by
  cases j with
  | null | bool _ | number _ | string _ =>
      obtain rfl := Option.some.inj h
      exact .none
  | array items =>
      obtain ⟨own, -, rfl⟩ := sorted?_array_eq_some_iff.1 h
      exact .none
  | object members =>
      obtain ⟨n, value, rfl, rfl⟩ | ⟨-, own, hown, rfl⟩ := sorted?_object_cases h
      · have hnone : enter? (.member key) (object [(numberKey, value)]) = none := by
          rw [enter?, List.reverse_singleton, Entries.get?,
            if_neg fun h => hkey (Std.LawfulEqOrd.eq_of_compare h), Entries.get?]
        rw [hnone]
        exact .none
      -- Sorting keeps of equal keys the last one, which is the one that a step takes.
      · rw [enter?, get?, Entries.get?_ofList]
        exact rel_get?_of_sortsTo (List.forall₂_reverse_iff.2 hown) key

/-- A step into a sorted value leads to what the step into the value leads to, sorted. -/
theorem rel_enter?_of_sorted {j sorted : Json} (hfree : j.Unreserved)
    (h : j.sorted? = some sorted) (step : Step) :
    Option.Rel (fun inner own => inner.sorted? = some own) (enter? step j)
      (enter? step sorted) := by
  cases j with
  | null | bool _ | number _ | string _ =>
      obtain rfl := Option.some.inj h
      cases step <;> exact .none
  | array items =>
      obtain ⟨own, hown, rfl⟩ := sorted?_array_eq_some_iff.1 h
      cases step with
      | item place => exact rel_getElem?_of_forall₂ hown place
      | member key => exact .none
  | object members =>
      rw [sorted?_object (hfree members .self), Option.map_eq_some_iff] at h
      obtain ⟨own, hown, rfl⟩ := h
      cases step with
      | item place => exact .none
      | member key =>
          -- Sorting keeps of equal keys the last one, which is the one that a step takes.
          have hordered : Entries.Ascending (Entries.ofList own) := Entries.ascending_ofList own
          rw [enter?, enter?, get?_reverse_of_ascending hordered, Entries.get?_ofList]
          exact rel_get?_of_sortsTo
            (List.forall₂_reverse_iff.2 (sortedMembers?_eq_some_iff.1 hown)) key

/-- Sorting keeps the shape of a value unless an object in it is taken for a number. -/
theorem shape_of_sorted {j sorted : Json} (hfree : j.Unreserved) (h : j.sorted? = some sorted) :
    sorted.shape = j.shape := by
  cases j with
  | null | bool _ | number _ | string _ =>
      obtain rfl := Option.some.inj h
      rfl
  | array items =>
      obtain ⟨own, -, rfl⟩ := sorted?_array_eq_some_iff.1 h
      rfl
  | object members =>
      rw [sorted?_object (hfree members .self), Option.map_eq_some_iff] at h
      obtain ⟨own, -, rfl⟩ := h
      rfl

/-- Sorting keeps the value. -/
theorem same_of_sorted {j sorted : Json} (hfree : j.Unreserved) (h : j.sorted? = some sorted) :
    sorted.Same j := by
  intro path
  induction path generalizing j sorted with
  | nil => exact congrArg some (shape_of_sorted hfree h)
  | cons step path ih =>
      have hrel := rel_enter?_of_sorted hfree h step
      rw [at?, at?]
      generalize enter? step sorted = own at hrel
      cases hinner : enter? step j with
      | none =>
          rw [hinner] at hrel
          cases hrel
          rfl
      | some inner =>
          rw [hinner] at hrel
          cases hrel with
          | some hsorted => exact ih (hfree.enter hinner) hsorted

/-! ### Sorting again -/

/-- What holds of an array as a whole holds of its items. -/
theorem Unreserved.item {items : List Json} (h : (array items).Unreserved) {item : Json}
    (hitem : item ∈ items) : item.Unreserved :=
  fun members hmembers => h members (.item hitem hmembers)

/-- What holds of an object as a whole holds of the values of its members. -/
theorem Unreserved.member {members : List (String × Json)} (h : (object members).Unreserved)
    {key : String} {value : Json} (hvalue : (key, value) ∈ members) : value.Unreserved :=
  fun inner hinner => h inner (.member hvalue hinner)

/-- An ordered value in which all objects stand for themselves is sorted to itself. -/
theorem sorted?_self {j : Json} (hordered : j.Ordered) (hfree : j.Unreserved) :
    j.sorted? = some j := by
  induction j using inductionOn with
  | null | bool _ | number _ | string _ => rfl
  | array items ih =>
      refine sorted?_array_eq_some_iff.2 ⟨items, List.forall₂_same.2 fun item hitem => ?_, rfl⟩
      exact ih item hitem (fun members hmembers => hordered members (.item hitem hmembers))
        (hfree.item hitem)
  | object members ih =>
      have hself : List.Forall₂ SortsTo members members := by
        refine List.forall₂_same.2 fun ⟨key, value⟩ hvalue => ⟨rfl, ?_⟩
        exact ih key value hvalue (fun inner hinner => hordered inner (.member hvalue hinner))
          (hfree.member hvalue)
      rw [sorted?_object (hfree members .self), sortedMembers?_eq_some_iff.2 hself,
        Option.map_some, Entries.ofList_eq_self (hordered members .self)]

/-! ### Depth -/

/-- Items are nested as deep as a bound at most if each of them is. -/
theorem depthOfItems_le_iff {items : List Json} {bound : Nat} :
    depthOfItems items ≤ bound ↔ ∀ item ∈ items, item.depth ≤ bound := by
  induction items with
  | nil => simp [depthOfItems]
  | cons item rest ih => rw [depthOfItems, Nat.max_le, ih, List.forall_mem_cons]

/-- Members are nested as deep as a bound at most if each of their values is. -/
theorem depthOfMembers_le_iff {members : List (String × Json)} {bound : Nat} :
    depthOfMembers members ≤ bound ↔ ∀ member ∈ members, member.2.depth ≤ bound := by
  induction members with
  | nil => simp [depthOfMembers]
  | cons member rest ih => rw [depthOfMembers, Nat.max_le, ih, List.forall_mem_cons]

/-- What is sorted is no deeper. -/
theorem depth_le_of_sorted {j sorted : Json} (h : j.sorted? = some sorted) :
    sorted.depth ≤ j.depth := by
  induction j using inductionOn generalizing sorted with
  | null | bool _ | number _ | string _ =>
      obtain rfl := Option.some.inj h
      exact Nat.le_refl _
  | array items ih =>
      obtain ⟨own, hown, rfl⟩ := sorted?_array_eq_some_iff.1 h
      refine Nat.succ_le_succ (depthOfItems_le_iff.2 fun item hitem => ?_)
      obtain ⟨written, hwritten, hsorted⟩ := exists_of_mem_forall₂ hown hitem
      exact Nat.le_trans (ih written hwritten hsorted) (depth_le_depthOfItems hwritten)
  | object members ih =>
      obtain ⟨n, value, -, rfl⟩ | ⟨-, own, hown, rfl⟩ := sorted?_object_cases h
      · exact Nat.zero_le _
      · refine Nat.succ_le_succ (depthOfMembers_le_iff.2 fun member hmember => ?_)
        obtain ⟨⟨key, value⟩, hvalue, -, hsorted⟩ :=
          exists_of_mem_forall₂ hown (Entries.mem_ofList hmember)
        exact Nat.le_trans (ih key value hvalue hsorted) (depth_le_depthOfMembers hvalue)

/-- Every item that was read was read by the reader of items. -/
theorem exists_read_of_readItems {α : Type} {item : List Char → Option (α × List Char)}
    {closing : Char} {s : List Char} {all : List α} {rest : List Char}
    (h : readItems item closing s = some (all, rest)) :
    ∀ a ∈ all, ∃ before after, item before = some (a, after) := by
  fun_induction readItems item closing s generalizing all rest with
  | case1 | case2 | case5 => contradiction
  | case3 before first _ hfirst =>
      obtain ⟨rfl, -⟩ := Prod.mk.inj (Option.some.inj h)
      rintro a ha
      obtain rfl := List.mem_singleton.1 ha
      exact ⟨before, _, hfirst⟩
  | case4 before first _ hfirst _ _ _ _ _ ih =>
      obtain ⟨⟨more, last⟩, hmore, heq⟩ := Option.map_eq_some_iff.1 h
      obtain ⟨rfl, -⟩ := Prod.mk.inj heq
      rintro a ha
      rcases List.mem_cons.1 ha with rfl | ha
      · exact ⟨before, _, hfirst⟩
      · exact ih hmore a ha

/-- Whatever is in a sequence that was read, the reader of its items read it somewhere. -/
theorem exists_read_of_readSequence {α : Type} {item : List Char → Option (α × List Char)}
    {closing : Char} {s : List Char} {all : List α} {rest : List Char}
    (h : readSequence item closing s = some (all, rest)) :
    ∀ a ∈ all, ∃ before after, item before = some (a, after) := by
  unfold readSequence at h
  split at h
  · contradiction
  · split at h
    · obtain ⟨rfl, -⟩ := Prod.mk.inj (Option.some.inj h)
      exact fun a ha => absurd ha List.not_mem_nil
    · exact exists_read_of_readItems h

/-- The value of a member that was read was read by the reader of values. -/
theorem exists_read_of_readMember {value : List Char → Option (Json × List Char)}
    {s rest : List Char} {member : String × Json} (h : readMember value s = some (member, rest)) :
    ∃ before after, value before = some (member.2, after) := by
  unfold readMember at h
  split at h
  · contradiction
  · split at h
    · obtain ⟨⟨j, last⟩, hread, heq⟩ := Option.map_eq_some_iff.1 h
      obtain ⟨rfl, -⟩ := Prod.mk.inj heq
      exact ⟨_, last, hread⟩
    · contradiction

/-- A word is read as the one value it stands for. -/
theorem eq_of_readWord {word s rest : List Char} {j own : Json}
    (h : readWord word j s = some (own, rest)) : own = j := by
  unfold readWord at h
  split at h
  · exact (Prod.mk.inj (Option.some.inj h)).1.symm
  · contradiction

/-- A value without parts is not nested. -/
theorem depth_of_readScalar {s rest : List Char} {j : Json} (h : readScalar s = some (j, rest)) :
    j.depth = 0 := by
  unfold readScalar at h
  split at h
  · contradiction
  · split at h
    · obtain ⟨⟨text, last⟩, -, heq⟩ := Option.map_eq_some_iff.1 h
      obtain ⟨rfl, -⟩ := Prod.mk.inj heq
      rfl
    split at h
    · rw [eq_of_readWord h, depth]
    split at h
    · rw [eq_of_readWord h, depth]
    split at h
    · rw [eq_of_readWord h, depth]
    · obtain ⟨⟨n, last⟩, -, heq⟩ := Option.map_eq_some_iff.1 h
      obtain ⟨rfl, -⟩ := Prod.mk.inj heq
      rfl

/-- No scalar starts with a bracket. -/
theorem ne_bracket_of_readScalar {c : Char} {rest : List Char} {answer : Json × List Char}
    (h : readScalar (c :: rest) = some answer) : c ≠ '[' ∧ c ≠ '\x7b' := by
  constructor <;> rintro rfl <;> contradiction

/-- The ways in which a value is read: as a scalar, or as an array or an object whose parts are read
with one level less. -/
inductive ReadAs (bound : Nat) (s rest : List Char) : Json → Prop
  | scalar {j : Json} (h : readScalar (skipBlanks s) = some (j, rest)) : ReadAs bound s rest j
  | array {start : List Char} {items : List Json} (blanks : skipBlanks s = '[' :: start)
      (h : readSequence (readValue bound) ']' start = some (items, rest)) :
      ReadAs bound s rest (.array items)
  | object {start : List Char} {members : List (String × Json)}
      (blanks : skipBlanks s = '\x7b' :: start)
      (h : readSequence (readMember (readValue bound)) '\x7d' start = some (members, rest)) :
      ReadAs bound s rest (.object members)

/-- What is read as a value is a scalar, or the array or the object of what is read in it with one
level less to go. -/
theorem readValue_succ_eq_some_iff {bound : Nat} {s rest : List Char} {j : Json} :
    readValue (bound + 1) s = some (j, rest) ↔ ReadAs bound s rest j := by
  constructor
  · intro h
    rw [readValue] at h
    split at h
    · contradiction
    next c start hblanks =>
      split at h
      · next harray =>
          obtain ⟨⟨items, last⟩, hitems, heq⟩ := Option.map_eq_some_iff.1 h
          obtain ⟨rfl, rfl⟩ := Prod.mk.inj heq
          exact .array (harray ▸ hblanks) hitems
      split at h
      · next hobject =>
          obtain ⟨⟨members, last⟩, hmembers, heq⟩ := Option.map_eq_some_iff.1 h
          obtain ⟨rfl, rfl⟩ := Prod.mk.inj heq
          exact .object (hobject ▸ hblanks) hmembers
      · exact .scalar (by rw [hblanks, h])
  · intro h
    rw [readValue]
    cases h with
    | scalar h =>
        cases hblanks : skipBlanks s with
        | nil =>
            rw [hblanks] at h
            contradiction
        | cons c start =>
            rw [hblanks] at h
            obtain ⟨harray, hobject⟩ := ne_bracket_of_readScalar h
            simp only [if_neg harray, if_neg hobject, h]
    | array blanks h =>
        rw [blanks]
        simp only [if_pos, h, Option.map_some]
    | object blanks h =>
        rw [blanks]
        simp [h]

/-- No value that was read is deeper than allowed. -/
theorem depth_le_of_readValue {bound : Nat} {s rest : List Char} {j : Json}
    (h : readValue bound s = some (j, rest)) : j.depth ≤ bound := by
  induction bound generalizing s rest j with
  | zero =>
      rw [readValue] at h
      exact Nat.le_of_eq (depth_of_readScalar h)
  | succ bound ih =>
      cases readValue_succ_eq_some_iff.1 h with
      | scalar h => exact depth_of_readScalar h ▸ Nat.zero_le _
      | array _ hitems =>
          refine Nat.succ_le_succ (depthOfItems_le_iff.2 fun item hitem => ?_)
          obtain ⟨before, after, hread⟩ := exists_read_of_readSequence hitems item hitem
          exact ih hread
      | object _ hmembers =>
          refine Nat.succ_le_succ (depthOfMembers_le_iff.2 fun member hmember => ?_)
          obtain ⟨before, after, hread⟩ := exists_read_of_readSequence hmembers member hmember
          obtain ⟨start, stop, hvalue⟩ := exists_read_of_readMember hread
          exact ih hvalue

/-- A text that is read has no more levels than texts may have. -/
theorem depth_le_of_parse? {text : String} {j : Json} (h : parse? text = some j) :
    j.depth ≤ maxDepth := by
  unfold parse? parseChars? whole? at h
  split at h
  · next own rest hread =>
      split at h
      · obtain rfl := Option.some.inj h
        exact depth_le_of_readValue hread
      · contradiction
  · contradiction

/-! ### Reading a sorted value -/

/-- What is written for a value that is not too deep is read as the sorted value. -/
theorem parseSorted?_of_sorted? {j sorted : Json} (hdepth : j.depth ≤ maxDepth)
    (h : j.sorted? = some sorted) : parseSorted? j.text = some sorted := by
  rw [parseSorted?, parse?_text hdepth, Option.bind_some, h]

/-- What is read from a text with its members sorted is ordered and not too deep. -/
theorem parse?_text_of_parseSorted? {text : String} {j : Json} (h : parseSorted? text = some j) :
    parse? j.text = some j := by
  obtain ⟨written, hwritten, hsorted⟩ := Option.bind_eq_some_iff.1 h
  exact parse?_text (Nat.le_trans (depth_le_of_sorted hsorted) (depth_le_of_parse? hwritten))

/-- A sorted value in which all objects stand for themselves is read back from its text. -/
theorem parseSorted?_text {text : String} {j : Json} (h : parseSorted? text = some j)
    (hfree : j.Unreserved) : parseSorted? j.text = some j := by
  obtain ⟨written, -, hsorted⟩ := Option.bind_eq_some_iff.1 h
  rw [parseSorted?, parse?_text_of_parseSorted? h, Option.bind_some,
    sorted?_self (ordered_of_sorted hsorted) hfree]

end Json

end FramedAvro
