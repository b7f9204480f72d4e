import Mathlib
import FramedAvro.Json.Basic
import FramedAvro.Proofs.Table

/-!
# What a JSON value is

Two texts are the same JSON value when the same stands at every path through them. A path goes to
items of arrays by their places and to members of objects by their keys, where the last of equal
keys counts, so neither the order of members nor a member that is overwritten can be told. A number
is the number it spells and not its spelling.

When the members of all objects are in order of their keys and numbers are spelled in one way only,
a value is known by what stands at its paths.

## Main definitions

* `Json.Inside`: the values inside a value.
* `Json.at?`: what stands at a path.
* `Json.Same`: the same at every path.

## Main results

* `Json.eq_of_same`: ordered values with plain integers are equal when they are the same.
-/

namespace FramedAvro.Json

/-! ### Values inside a value -/

/-- A value is inside itself, and inside the arrays and objects around it. -/
inductive Inside (j : Json) : Json → Prop
  | self : Inside j j
  | item {items : List Json} {item : Json} (h : item ∈ items) (inner : Inside j item) :
      Inside j (array items)
  | member {members : List (String × Json)} {key : String} {value : Json}
      (h : (key, value) ∈ members) (inner : Inside j value) : Inside j (object members)

/-- Nothing is inside null but null. -/
@[simp] theorem inside_null_iff {j : Json} : Inside j null ↔ j = null :=
  ⟨fun h => by cases h; rfl, fun h => h ▸ .self⟩

/-- Nothing is inside a truth value but itself. -/
@[simp] theorem inside_bool_iff {j : Json} {b : Bool} : Inside j (bool b) ↔ j = bool b :=
  ⟨fun h => by cases h; rfl, fun h => h ▸ .self⟩

/-- Nothing is inside a number but itself. -/
@[simp] theorem inside_number_iff {j : Json} {n : Number} : Inside j (number n) ↔ j = number n :=
  ⟨fun h => by cases h; rfl, fun h => h ▸ .self⟩

/-- Nothing is inside a string but itself. -/
@[simp] theorem inside_string_iff {j : Json} {text : String} :
    Inside j (string text) ↔ j = string text :=
  ⟨fun h => by cases h; rfl, fun h => h ▸ .self⟩

/-- What is inside an array is the array, or inside one of its items. -/
@[simp] theorem inside_array_iff {j : Json} {items : List Json} :
    Inside j (array items) ↔ j = array items ∨ ∃ item ∈ items, Inside j item := by
  constructor
  · intro h
    cases h with
    | self => exact .inl rfl
    | item hmem inner => exact .inr ⟨_, hmem, inner⟩
  · rintro (rfl | ⟨item, hmem, inner⟩)
    · exact .self
    · exact .item hmem inner

/-- What is inside an object is the object, or inside the value of one of its members. -/
@[simp] theorem inside_object_iff {j : Json} {members : List (String × Json)} :
    Inside j (object members) ↔
      j = object members ∨ ∃ member ∈ members, Inside j member.2 := by
  constructor
  · intro h
    cases h with
    | self => exact .inl rfl
    | member hmem inner => exact .inr ⟨_, hmem, inner⟩
  · rintro (rfl | ⟨⟨key, value⟩, hmem, inner⟩)
    · exact .self
    · exact .member hmem inner

/-- What holds of a value when it holds of its items, or of the values of its members, holds of
all. -/
@[elab_as_elim]
theorem inductionOn {P : Json → Prop} (j : Json) (null : P null) (bool : ∀ b, P (bool b))
    (number : ∀ n, P (number n)) (string : ∀ text, P (string text))
    (array : ∀ items, (∀ item ∈ items, P item) → P (array items))
    (object : ∀ members, (∀ key value, (key, value) ∈ members → P value) → P (object members)) :
    P j :=
  match j with
  | .null => null
  | .bool b => bool b
  | .number n => number n
  | .string text => string text
  | .array items => array items fun item _ =>
      inductionOn item null bool number string array object
  | .object members => object members fun _ value _ =>
      inductionOn value null bool number string array object
termination_by sizeOf j
decreasing_by
  · have := List.sizeOf_lt_of_mem ‹item ∈ items›
    simp only [Json.array.sizeOf_spec]
    omega
  · have := List.sizeOf_lt_of_mem ‹(_, value) ∈ members›
    simp only [Prod.mk.sizeOf_spec, Json.object.sizeOf_spec] at this ⊢
    omega

/-! ### Numbers -/

namespace Number

/-- The power of ten that a number is multiplied by. -/
def power (n : Number) : ℤ :=
  match n.exponent with
  | some e =>
    let size : ℤ := Digit.toNat (e.first :: e.others)
    if e.negative then -size else size
  | none => 0

/-- The number that is spelled. -/
def value (n : Number) : ℚ :=
  (if n.negative then -1 else 1) *
    (n.whole + Digit.toNat n.fraction / 10 ^ n.fraction.length) * 10 ^ n.power

/-- An integer without a point, an exponent or a needless sign. -/
def IsPlain (n : Number) : Prop :=
  n.isInteger = true ∧ ¬(n.negative = true ∧ n.whole = 0)

instance (n : Number) : Decidable n.IsPlain :=
  inferInstanceAs (Decidable (_ ∧ _))

/-- An integer is spelled by its sign and its digits before the point. -/
theorem eq_of_isInteger {n : Number} (h : n.isInteger = true) :
    n = ⟨n.negative, n.whole, [], none⟩ := by
  obtain ⟨negative, whole, fraction, exponent⟩ := n
  obtain ⟨hfraction, hexponent⟩ := Bool.and_eq_true_iff.1 h
  obtain rfl : fraction = [] := List.isEmpty_iff.1 hfraction
  obtain rfl : exponent = none := Option.isNone_iff_eq_none.1 hexponent
  rfl

/-- A number without fraction and exponent is worth its whole part, with its sign. -/
theorem value_of_isInteger {n : Number} (h : n.isInteger = true) :
    n.value = ((if n.negative then -n.whole else n.whole : ℤ) : ℚ) := by
  rw [eq_of_isInteger h]
  cases n.negative <;> simp [value, power, Digit.toNat]

/-- A plain integer has one spelling. -/
theorem eq_of_value_eq {n other : Number} (h : n.IsPlain) (h' : other.IsPlain)
    (heq : n.value = other.value) : n = other := by
  obtain ⟨hinteger, hsign⟩ := h
  obtain ⟨hinteger', hsign'⟩ := h'
  rw [value_of_isInteger hinteger, value_of_isInteger hinteger', Int.cast_inj] at heq
  rw [eq_of_isInteger hinteger, eq_of_isInteger hinteger']
  cases hnegative : n.negative <;> cases hnegative' : other.negative <;>
    simp [hnegative, hnegative'] at heq hsign hsign' ⊢ <;> omega

end Number

/-! ### Paths -/

/-- A step into a value: to an item of an array, or to a member of an object. -/
inductive Step where
  | item (place : Nat)
  | member (key : String)

/-- What a value is, without what is inside it. -/
inductive Shape where
  | null
  | bool (b : Bool)
  | number (value : ℚ)
  | string (text : String)
  | array
  | object

/-- What a value is, without what is inside it. -/
def shape : Json → Shape
  | null => .null
  | bool b => .bool b
  | number n => .number n.value
  | string text => .string text
  | array _ => .array
  | object _ => .object

/-- The value after a step. Of members with equal keys the last counts. -/
def enter? : Step → Json → Option Json
  | .item place, array items => items[place]?
  | .member key, object members => Entries.get? key members.reverse
  | _, _ => none

/-- What stands at a path. -/
def at? : List Step → Json → Option Shape
  | [], j => some j.shape
  | step :: path, j => (enter? step j).bind (at? path)

/-- Two values are the same when the same stands at each path. -/
def Same (j other : Json) : Prop :=
  ∀ path, j.at? path = other.at? path

/-- What is the same value one way round is the same value the other way round. -/
theorem Same.symm {j other : Json} (h : j.Same other) : other.Same j :=
  fun path => (h path).symm

/-- What is the same value as a third one is the same value. -/
theorem Same.trans {j middle other : Json} (h : j.Same middle) (h' : middle.Same other) :
    j.Same other :=
  fun path => (h path).trans (h' path)

/-- What is the same is the same after a step. -/
theorem Same.enter {j other : Json} (h : j.Same other) {step : Step} {inner : Json}
    (hinner : enter? step j = some inner) :
    ∃ own, enter? step other = some own ∧ inner.Same own := by
  have hat (path : List Step) : inner.at? path = (enter? step other).bind (at? path) := by
    have hpath := h (step :: path)
    rw [at?, hinner, at?] at hpath
    exact hpath
  cases hown : enter? step other with
  | none =>
      have hshape := hat []
      rw [hown, at?] at hshape
      contradiction
  | some own =>
      rw [hown] at hat
      exact ⟨own, rfl, hat⟩

/-- What is entered is inside. -/
theorem inside_of_enter {step : Step} {j inner : Json} (h : enter? step j = some inner) :
    ∀ {deep}, Inside deep inner → Inside deep j := by
  intro deep hdeep
  unfold enter? at h
  split at h
  · exact .item (List.mem_of_getElem? h) hdeep
  · exact .member (List.mem_reverse.1 (Entries.mem_of_get? h)) hdeep
  · contradiction

/-- Strings have nothing inside them. -/
theorem at?_string_congr {text other : String} {path : List Step} (h : path = [] → text = other) :
    (string text).at? path = (string other).at? path := by
  cases path with
  | nil => rw [h rfl]
  | cons step rest => cases step <;> rfl

/-- Another value for a member changes nothing but what stands below its key. -/
theorem at?_object_congr {key : String} {value other : Json} {path : List Step}
    (front back : List (String × Json))
    (h : ∀ rest, path = .member key :: rest → value.at? rest = other.at? rest) :
    (object (front ++ (key, value) :: back)).at? path =
      (object (front ++ (key, other) :: back)).at? path := by
  cases path with
  | nil => rfl
  | cons step rest =>
      cases step with
      | item place => rfl
      | member own =>
          simp only [at?, enter?, List.reverse_append, List.reverse_cons, List.append_assoc,
            List.singleton_append, Entries.get?_append, Entries.get?]
          cases Entries.get? own back.reverse with
          | some later => rfl
          | none =>
              by_cases hown : compare own key = .eq
              · simp only [Option.none_or, if_pos hown, Option.bind_some]
                exact h rest (by rw [Std.LawfulEqOrd.compare_eq_iff_eq.1 hown])
              · simp only [Option.none_or, if_neg hown]

/-! ### Ordered values -/

/-- The members of every object are in strictly ascending order of their keys. -/
def Ordered (j : Json) : Prop :=
  ∀ members, Inside (object members) j → Entries.Ascending members

/-- Every number is a plain integer. -/
def HasPlainNumbers (j : Json) : Prop :=
  ∀ n, Inside (number n) j → n.IsPlain

/-- There is one way to write the value: its members are in order and its numbers are plain. -/
structure Normal (j : Json) : Prop where
  ordered : j.Ordered
  numbers : j.HasPlainNumbers

/-- What is reached from a value in normal form is in normal form. -/
theorem Normal.enter {j inner : Json} (h : j.Normal) {step : Step}
    (hinner : enter? step j = some inner) : inner.Normal where
  ordered members hmembers := h.ordered members (inside_of_enter hinner hmembers)
  numbers n hn := h.numbers n (inside_of_enter hinner hn)

/-- Where no key comes twice, it does not matter which end a key is looked for from. -/
theorem get?_reverse_of_ascending {members : List (String × Json)}
    (h : Entries.Ascending members) (key : String) :
    Entries.get? key members.reverse = Entries.get? key members := by
  rw [← Entries.get?_ofList, Entries.ofList_eq_self h]

/-- Values after the same step are equal when those that are the same are equal. -/
theorem enter?_eq_of_same {j other : Json} (h : j.Same other) (step : Step)
    (heq : ∀ inner own, enter? step j = some inner → enter? step other = some own →
      inner.Same own → inner = own) : enter? step j = enter? step other := by
  cases hinner : enter? step j with
  | some inner =>
      obtain ⟨own, hown, hsame⟩ := h.enter hinner
      rw [hown, heq inner own hinner hown hsame]
  | none =>
      cases hown : enter? step other with
      | none => rfl
      | some own =>
          obtain ⟨inner, hsome, -⟩ := h.symm.enter hown
          rw [hinner] at hsome
          contradiction

/-- Ordered values with plain integers are equal when they are the same. -/
theorem eq_of_same {j other : Json} (h : j.Same other) (hj : j.Normal) (hother : other.Normal) :
    j = other := by
  -- The empty path gives the shape at the top, and the induction goes one step into the values.
  induction j using inductionOn generalizing other with
  | null =>
      have hshape := Option.some.inj (h [])
      cases other <;> first | rfl | contradiction
  | bool b =>
      have hshape := Option.some.inj (h [])
      cases other with
      | bool b' => rw [Shape.bool.inj hshape]
      | _ => contradiction
  | number n =>
      have hshape := Option.some.inj (h [])
      cases other with
      | number n' =>
          rw [Number.eq_of_value_eq (hj.numbers n .self) (hother.numbers n' .self)
            (Shape.number.inj hshape)]
      | _ => contradiction
  | string text =>
      have hshape := Option.some.inj (h [])
      cases other with
      | string text' => rw [Shape.string.inj hshape]
      | _ => contradiction
  | array items ih =>
      have hshape := Option.some.inj (h [])
      cases other with
      | array items' =>
          refine congrArg array (List.ext_getElem? fun place => ?_)
          refine enter?_eq_of_same h (.item place) fun inner own hinner hown hsame => ?_
          exact ih inner (List.mem_of_getElem? hinner) hsame (hj.enter hinner)
            (hother.enter hown)
      | _ => contradiction
  | object members ih =>
      have hshape := Option.some.inj (h [])
      cases other with
      | object members' =>
          have hmembers := hj.ordered members .self
          have hmembers' := hother.ordered members' .self
          -- A path takes the last of equal keys, and in order there is only one.
          refine congrArg object (Entries.eq_of_get?_eq hmembers hmembers' fun key => ?_)
          rw [← get?_reverse_of_ascending hmembers, ← get?_reverse_of_ascending hmembers']
          refine enter?_eq_of_same h (.member key) fun inner own hinner hown hsame => ?_
          exact ih key inner (List.mem_reverse.1 (Entries.mem_of_get? hinner)) hsame
            (hj.enter hinner) (hother.enter hown)
      | _ => contradiction

end FramedAvro.Json
