import Mathlib.Data.List.Forall2
import FramedAvro.Proofs.Avro.RoundTrip

/-!
# Records of types without parts

The fields of such a record define no names, so that each is written, read and resolved by itself,
and the budget of resolving is spent on nothing but defaults.

The reader refuses a text of more bytes than `Varint.maxSize`, although it is written: a record with
such a text has a payload that nobody reads.

## Main definitions

* `Partless`: fields of types without parts, told apart by their names.
* `Primitive.Admits`, `Field.Admits`: the values of a type, and the entries of a field.

## Main results

* `Partless.resolve?_admitted`: what the fields admit is resolved to itself.
* `Partless.exists_encode?`: it is written.
* `Partless.decode?_legible`: it is read back when its texts are not too long.
* `Partless.decode?_illegible`: nothing is read when one of them is.
-/

namespace FramedAvro.Avro

/-- Fields of types without parts, told apart by their names, of which they have one each. -/
structure Partless (fields : List Field) : Prop where
  distinct : (fields.map Field.name).Nodup
  unaliased : ∀ field ∈ fields, field.label.aliases = []
  typed : ∀ field ∈ fields, ∃ type, field.type = .primitive type

/-- The values of the types for null, truth values, integers and texts. -/
inductive Primitive.Admits : Primitive → Value → Prop
  | null : Admits .null .null
  | boolean (b : Bool) : Admits .boolean (.boolean b)
  | int (i : Int32) : Admits .int (.int i)
  | long (i : Int64) : Admits .long (.long i)
  | string (text : String) : Admits .string (.string text)

/-- The entries of a field: its name with a value of its type. -/
inductive Field.Admits : Field → String × Value → Prop
  | mk (label : FieldLabel) (type : Primitive) (v : Value) (value : type.Admits v) :
    Admits (.mk label (.primitive type)) (label.name, v)

/-- Whether the length of a text is an integer of 64 bits. -/
def Value.Addressable : Value → Prop
  | string text => ((Utf8.encode text).length : Int) ≤ Int64.maxValue.toInt
  | _ => True

/-! ### Values -/

namespace Primitive.Admits

variable {type : Primitive} {v : Value}

/-- A value that a type admits is resolved to itself. -/
theorem resolvePrimitive_eq (h : type.Admits v) : v.unwrapped.resolvePrimitive type = some v := by
  cases h <;> rfl

/-- A value that a type admits may be written as the type. -/
theorem fitsPrimitive_eq (h : type.Admits v) : v.fitsPrimitive type = true := by
  cases h <;> rfl

/-- A value that a type admits is written, however long it is. -/
theorem exists_encodePartless (h : type.Admits v) :
    ∃ content, v.encodePartless (.primitive type) = some content := by
  cases h <;> exact ⟨_, rfl⟩

/-- A value that a type without parts admits has no fixed bytes in it that could lie about their
number. -/
theorem isWhole (h : type.Admits v) : v.IsWhole := by
  cases h <;> trivial

/-- A value that a type without parts admits has no map in it that could be put in order. -/
theorem sorted_eq (h : type.Admits v) : v.sorted = v := by
  cases h <;> rfl

/-- A legible value that a type admits is read back. -/
theorem readsBack (h : type.Admits v) (hlegible : v.Legible) {definitions : Definitions}
    {writing reading : Option String} :
    v.ReadsBack definitions writing reading (.primitive type) := by
  cases h with
  | null => exact Value.readsBack_null
  | boolean b => exact Value.readsBack_boolean b
  | int i => exact Value.readsBack_int i
  | long i => exact Value.readsBack_long i
  | string text => exact Value.readsBack_string hlegible

/-- A value is read back in front of whatever stands after it. -/
theorem decode_encodePartless (h : type.Admits v) (hlegible : v.Legible) {content : Bytes}
    (hcontent : v.encodePartless (.primitive type) = some content) {definitions : Definitions}
    {available : List Name} {enclosing : Option String} (rest : Bytes) :
    Value.decode definitions available enclosing (.primitive type) (content ++ rest) =
      some (v, rest) := by
  have hencode : v.encode definitions enclosing (.primitive type) = some content := by
    rw [Value.encode.eq_def]
    exact hcontent
  have hback : v.ReadsBack definitions enclosing enclosing (.primitive type) :=
    h.readsBack hlegible
  rw [hback content hencode available (fun _ henters => nomatch henters) rest, h.sorted_eq]

/-- Nothing is read where a text is too long. -/
theorem decodePrimitive_eq_none (h : type.Admits v) (hillegible : ¬v.Legible)
    (haddressable : v.Addressable) {content : Bytes}
    (hcontent : v.encodePartless (.primitive type) = some content) (rest : Bytes) :
    Value.decodePrimitive type (content ++ rest) = none := by
  cases h with
  | string text =>
      have hlong : ¬(Utf8.encode text).length ≤ Varint.maxSize := hillegible
      have hmin : Int64.minValue.toInt ≤ ((Utf8.encode text).length : Int) :=
        Int.le_trans (by decide) (Int.natCast_nonneg _)
      obtain rfl := Option.some.inj hcontent
      rw [Value.decodePrimitive, Value.decodeText, Value.encodeSized, List.append_assoc,
        Varint.decodeLength?, Varint.decode?_encode hmin haddressable]
      simp only [Int.toNat_natCast, hlong, and_false, if_false]
  | _ => exact absurd trivial hillegible

end Primitive.Admits

/-! ### Single fields -/

namespace Value

variable {definitions : Definitions} {budget : Nat} {enclosing : Option String}
  {contents : List (String × Value)} {label : FieldLabel} {type : Primitive}

/-- A field without parts has the value that is found under its name. -/
theorem resolveField_found {v : Value} (h : lastOf label.name contents = some v) :
    resolveField definitions budget enclosing contents label (.primitive type) =
      .ofOption (v.unwrapped.resolvePrimitive type) := by
  rw [resolveField.eq_def]
  split
  · next found hfound =>
      obtain rfl := Option.some.inj (h.symm.trans hfound)
      rw [resolve]
  · next hnone => exact absurd (h.symm.trans hnone) (by simp)

/-- A field without parts that is missing has its default. -/
theorem resolveField_fallback (h : lastOf label.name contents = none) (hbudget : 0 < budget)
    {fallback : Json} (hfallback : label.fallback = some fallback) {v : Value}
    (hvalue : ofJson? fallback = some v) :
    resolveField definitions budget enclosing contents label (.primitive type) =
      .ofOption (v.unwrapped.resolvePrimitive type) := by
  obtain ⟨left, rfl⟩ := Nat.exists_eq_add_of_lt hbudget
  rw [resolveField.eq_def]
  split
  · next found hfound => exact absurd (h.symm.trans hfound) (by simp)
  · rw [hfallback, Nat.zero_add]
    simp only [hvalue, resolve]

/-- A field that is missing and has no default is refused. -/
theorem resolveField_refused {schema : Schema} (h : lastOf label.name contents = none)
    (hfallback : label.fallback = none) :
    resolveField definitions budget enclosing contents label schema = .error .refused := by
  rw [resolveField.eq_def]
  split
  · next found hfound => exact absurd (h.symm.trans hfound) (by simp)
  · rw [hfallback]

/-- A field without parts breaks only on a default that has no value. -/
theorem resolveField_ne_crash (hbudget : 0 < budget)
    (hvalued : ∀ fallback, label.fallback = some fallback → (ofJson? fallback).isSome = true) :
    resolveField definitions budget enclosing contents label (.primitive type) ≠
      .error .crash := by
  cases hfound : lastOf label.name contents with
  | some v =>
      rw [resolveField_found hfound]
      cases v.unwrapped.resolvePrimitive type <;> simp [Checked.ofOption]
  | none =>
      cases hfallback : label.fallback with
      | none => simp [resolveField_refused hfound hfallback]
      | some fallback =>
          obtain ⟨v, hvalue⟩ := Option.isSome_iff_exists.1 (hvalued fallback hfallback)
          rw [resolveField_fallback hfound hbudget hfallback hvalue]
          cases v.unwrapped.resolvePrimitive type <;> simp [Checked.ofOption]

/-! ### Many fields -/

/-- Fields are resolved to the entries that each of them is resolved to. -/
theorem resolveFields_eq_ok {fields : List Field} {view : List (String × Value)}
    (h : List.Forall₂ (fun field entry => entry.1 = field.name ∧
      resolveField definitions budget enclosing contents field.label field.type = .ok entry.2)
      fields view) :
    resolveFields definitions budget enclosing contents fields = .ok view := by
  induction h with
  | nil => rw [resolveFields]
  | @cons field entry fields view hfirst _ ih =>
      obtain ⟨label, type⟩ := field
      obtain ⟨name, v⟩ := entry
      obtain ⟨rfl, hfield⟩ := hfirst
      have hfield : resolveField definitions budget enclosing contents label type = .ok v := hfield
      rw [resolveFields, hfield, ih]
      rfl

/-- Fields are refused when one of them is and none of them breaks. -/
theorem resolveFields_refused {fields : List Field} {field : Field} (hmem : field ∈ fields)
    (h : resolveField definitions budget enclosing contents field.label field.type =
      .error .refused)
    (hreturn : ∀ field ∈ fields,
      resolveField definitions budget enclosing contents field.label field.type ≠ .error .crash) :
    resolveFields definitions budget enclosing contents fields = .error .refused := by
  induction fields with
  | nil => exact absurd hmem List.not_mem_nil
  | cons first rest ih =>
      obtain ⟨label, type⟩ := first
      obtain ⟨hfirst, hothers⟩ := List.forall_mem_cons.1 hreturn
      have hfirst : resolveField definitions budget enclosing contents label type ≠
          .error .crash := hfirst
      rw [resolveFields]
      cases hfield : resolveField definitions budget enclosing contents label type with
      | error obstacle =>
          cases obstacle with
          | refused => rfl
          | crash => exact absurd hfield hfirst
      | ok r =>
          rcases List.mem_cons.1 hmem with rfl | hrest
          · have hown : resolveField definitions budget enclosing contents label type =
                .error .refused := h
            exact absurd (hown.symm.trans hfield) (by simp)
          · rw [ih hrest hothers]
            rfl

/-- A field without parts is written as the value that is found under its name. -/
theorem encodeFields_found {v : Value} (h : lastOf label.name contents = some v) {content : Bytes}
    (hcontent : v.encodePartless (.primitive type) = some content) (rest : List Field) :
    encodeFields definitions enclosing contents (.mk label (.primitive type) :: rest) =
      (encodeFields definitions enclosing contents rest).map (content ++ ·) := by
  have hvalue : valueOf label contents = some v := valueOf_of_lastOf h
  have hencode : v.encode definitions enclosing (.primitive type) = some content := by
    rw [encode.eq_def]
    exact hcontent
  rw [encodeFields.eq_def]
  dsimp only
  split
  · next found hfound =>
      obtain rfl := Option.some.inj (hvalue.symm.trans hfound)
      rw [hencode]
  · next hnone => exact absurd (hvalue.symm.trans hnone) (by simp)

end Value

/-! ### Entries -/

section Entries

variable {fields : List Field} {contents all : List (String × Value)} {definitions : Definitions}
  {enclosing : Option String}

/-- Entries that fields admit have the names of the fields, in their order. -/
theorem names_of_admitted (h : List.Forall₂ Field.Admits fields contents) :
    contents.map (·.1) = fields.map Field.name := by
  induction h with
  | nil => rfl
  | cons hfirst _ ih =>
      obtain ⟨label, type, v, hvalue⟩ := hfirst
      rw [List.map_cons, List.map_cons, ih]
      rfl

/-- Entries that fields admit have whole values. -/
theorem isWhole_admitted (h : List.Forall₂ Field.Admits fields contents) :
    ∀ entry ∈ contents, entry.2.IsWhole := by
  induction h with
  | nil => exact fun _ hmem => absurd hmem List.not_mem_nil
  | cons hfirst _ ih =>
      obtain ⟨label, type, v, hvalue⟩ := hfirst
      exact List.forall_mem_cons.2 ⟨hvalue.isWhole, ih⟩

/-- Entries that fields admit are not changed when their values are put in order. -/
theorem sortedEntries_admitted (h : List.Forall₂ Field.Admits fields contents) :
    Value.sortedEntries contents = contents := by
  induction h with
  | nil => rfl
  | cons hfirst _ ih =>
      obtain ⟨label, type, v, hvalue⟩ := hfirst
      rw [Value.sortedEntries, hvalue.sorted_eq, ih]

/-- Fields admit what is resolved to itself, where it is found under their names. -/
theorem resolveFields_admitted {budget : Nat} (h : List.Forall₂ Field.Admits fields contents)
    (hfound : ∀ entry ∈ contents, Value.lastOf entry.1 all = some entry.2) :
    Value.resolveFields definitions budget enclosing all fields = .ok contents := by
  refine Value.resolveFields_eq_ok ?_
  induction h with
  | nil => exact .nil
  | cons hfirst _ ih =>
      obtain ⟨label, type, v, hvalue⟩ := hfirst
      obtain ⟨hentry, hrest⟩ := List.forall_mem_cons.1 hfound
      have hfield : Value.resolveField definitions budget enclosing all label (.primitive type) =
          .ok v := by
        rw [Value.resolveField_found hentry, hvalue.resolvePrimitive_eq, Checked.ofOption]
      exact .cons ⟨rfl, hfield⟩ (ih hrest)

/-- Fields admit what is written as the types that are found under their names. -/
theorem fieldsFit_admitted {every : List Field} (h : List.Forall₂ Field.Admits fields contents)
    (hfound : ∀ field ∈ fields, Value.typeOfField field.name every = some field.type) :
    Value.fieldsFit? definitions enclosing contents every = some true := by
  induction h with
  | nil => rw [Value.fieldsFit?]
  | cons hfirst _ ih =>
      obtain ⟨label, type, v, hvalue⟩ := hfirst
      obtain ⟨hfield, hrest⟩ := List.forall_mem_cons.1 hfound
      have hfield : Value.typeOfField label.name every = some (.primitive type) := hfield
      rw [Value.fieldsFit?, hfield]
      simp [Value.fits?, hvalue.fitsPrimitive_eq, ih hrest]

/-- Entries that are found are written. -/
theorem exists_encodeFields (h : List.Forall₂ Field.Admits fields contents)
    (hfound : ∀ entry ∈ contents, Value.lastOf entry.1 all = some entry.2) :
    ∃ payload, Value.encodeFields definitions enclosing all fields = some payload := by
  induction h with
  | nil => exact ⟨[], by rw [Value.encodeFields]⟩
  | cons hfirst _ ih =>
      obtain ⟨label, type, v, hvalue⟩ := hfirst
      obtain ⟨hentry, hrest⟩ := List.forall_mem_cons.1 hfound
      obtain ⟨content, hcontent⟩ := hvalue.exists_encodePartless
      obtain ⟨payload, hpayload⟩ := ih hrest
      refine ⟨content ++ payload, ?_⟩
      rw [Value.encodeFields_found hentry hcontent, hpayload, Option.map_some]

/-- Nothing is read from what is written for entries when one of them has a text that is too long.
The entries before it are read, by induction over the fields. -/
theorem decodeFields_illegible {writing reading : Option String} {available : List Name}
    (h : List.Forall₂ Field.Admits fields contents)
    (hfound : ∀ entry ∈ contents, Value.lastOf entry.1 all = some entry.2)
    (hillegible : ∃ entry ∈ contents, ¬entry.2.Legible)
    (haddressable : ∀ entry ∈ contents, entry.2.Addressable)
    {payload : Bytes} (hencode : Value.encodeFields definitions writing all fields = some payload) :
    Value.decodeFields definitions available reading fields payload = none := by
  induction h generalizing payload with
  | nil => exact absurd hillegible (by simp)
  | @cons field entry fields contents hfirst _ ih =>
      obtain ⟨label, type, v, hvalue⟩ := hfirst
      obtain ⟨hentry, hothers⟩ := List.forall_mem_cons.1 hfound
      obtain ⟨hsize, hsizes⟩ := List.forall_mem_cons.1 haddressable
      obtain ⟨content, hcontent⟩ := hvalue.exists_encodePartless
      rw [Value.encodeFields_found hentry hcontent] at hencode
      obtain ⟨more, hmore, rfl⟩ := Option.map_eq_some_iff.1 hencode
      rw [Value.decodeFields]
      by_cases hlegible : v.Legible
      · obtain ⟨later, hlater, hlong⟩ := hillegible
        rcases List.mem_cons.1 hlater with rfl | hlater
        · exact absurd hlegible hlong
        rw [hvalue.decode_encodePartless hlegible hcontent]
        simp only [List.length_append, Nat.le_add_left, if_true,
          ih hothers ⟨later, hlater, hlong⟩ hsizes hmore, Option.map_none]
      · rw [Value.decode, hvalue.decodePrimitive_eq_none hlegible hsize hcontent]

end Entries

/-! ### Records -/

namespace Partless

variable {fields : List Field} {contents : List (String × Value)}

/-- Fields of types without parts define no names. -/
theorem addFields?_eq (typed : ∀ field ∈ fields, ∃ type, field.type = .primitive type)
    (outside before : Definitions) (enclosing : Option String) :
    Definitions.addFields? outside before enclosing fields = some before := by
  induction fields with
  | nil => rw [Definitions.addFields?]
  | cons field rest ih =>
      obtain ⟨label, schema⟩ := field
      obtain ⟨⟨type, rfl⟩, hrest⟩ := List.forall_mem_cons.1 typed
      exact ih hrest

/-- Fields of types without parts count once each. -/
theorem fieldCount_eq (typed : ∀ field ∈ fields, ∃ type, field.type = .primitive type) :
    fieldCountOfFields fields = fields.length := by
  induction fields with
  | nil => rw [fieldCountOfFields, List.length_nil]
  | cons field rest ih =>
      obtain ⟨label, schema⟩ := field
      obtain ⟨⟨type, rfl⟩, hrest⟩ := List.forall_mem_cons.1 typed
      have hnone : (Schema.primitive type).fieldCount = 0 := rfl
      rw [fieldCountOfFields, hnone, ih hrest, List.length_cons]
      omega

variable (h : Partless fields) (label : Label)
include h

/-- The record is the one definition in it. -/
theorem ofSchema?_eq : Definitions.ofSchema? (.named (.record label fields)) =
    some [(label.name.within none, .record label fields)] := by
  rw [Definitions.ofSchema?, Definitions.addSchema?, Definitions.addDefinition?]
  exact addFields?_eq h.typed _ _ _

/-- Resolving a record is resolving its fields, with a budget of one default for each. -/
theorem resolve?_eq : ∃ definitions enclosing, ∀ contents,
    (Schema.named (.record label fields)).resolve? (.record contents) =
      (Value.resolveFields definitions fields.length enclosing contents fields).map .record := by
  refine ⟨[(label.name.within none, .record label fields)], label.name.space, fun contents => ?_⟩
  have hcount : Definitions.fieldCount [(label.name.within none, .record label fields)] =
      fields.length := fieldCount_eq h.typed
  have hunwrapped : (Value.record contents).unwrapped = .record contents := rfl
  rw [Schema.resolve?, h.ofSchema?_eq label]
  dsimp only
  rw [hcount, Value.resolve, hunwrapped, Value.resolveDefinition]
  rfl

/-- Fields without parts have no aliases, so that none is found under the name of another. -/
theorem pairwise_unaliased :
    fields.Pairwise fun field later => field.name ∉ later.label.aliases :=
  List.pairwise_of_forall_mem_list fun _ _ later hlater => by simp [h.unaliased later hlater]

/-- The record is regular. -/
theorem regular : (Schema.named (.record label fields)).Every Schema.Regular none := by
  refine ⟨⟨trivial, trivial, h.distinct, h.pairwise_unaliased⟩, everyField_iff.2 ?_⟩
  intro field hmem
  obtain ⟨type, htype⟩ := h.typed field hmem
  rw [htype]
  exact ⟨trivial, trivial, trivial, trivial⟩

variable (hcontents : List.Forall₂ Field.Admits fields contents)
include hcontents

/-- What the fields admit is found under their names. -/
theorem lastOf_admitted : ∀ entry ∈ contents, Value.lastOf entry.1 contents = some entry.2 :=
  Value.lastOf_of_mem (names_of_admitted hcontents ▸ h.distinct)

/-- What the fields admit is resolved to itself. -/
theorem resolve?_admitted :
    (Schema.named (.record label fields)).resolve? (.record contents) =
      .ok (.record contents) := by
  obtain ⟨definitions, enclosing, hresolve⟩ := h.resolve?_eq label
  rw [hresolve, resolveFields_admitted hcontents (h.lastOf_admitted hcontents), Except.map]

/-- What the fields admit is written. -/
theorem exists_encode? : ∃ payload,
    (Schema.named (.record label fields)).encode? (.record contents) = .ok payload := by
  have hlength : fields.length = contents.length := hcontents.length_eq
  have hrequired : Value.requiredCount fields ≤ contents.length :=
    hlength ▸ List.length_filter_le _ _
  have hfit (definitions : Definitions) (enclosing : Option String) :
      Value.fieldsFit? definitions enclosing contents fields = some true :=
    fieldsFit_admitted hcontents (Value.typeOfField_name h.distinct h.pairwise_unaliased)
  rw [Schema.encode?, h.ofSchema?_eq label]
  dsimp only
  rw [Value.fits?, Value.fitsDefinition?, Value.encode, Value.encodeDefinition]
  simp only [hrequired, hlength, hfit, Nat.le_refl, and_self, if_true,
    Checked.ofOption_eq_ok_iff]
  exact exists_encodeFields hcontents (h.lastOf_admitted hcontents)

variable {payload : Bytes}
  (hpayload : (Schema.named (.record label fields)).encode? (.record contents) = .ok payload)
include hpayload

/-- What the fields admit is read back when its texts are not too long. -/
theorem decode?_legible (hlegible : (Value.record contents).Legible) :
    (Schema.named (.record label fields)).decode? payload = some (.record contents) := by
  have hread := Schema.decode?_encode? (h.regular label) (h.resolve?_admitted label hcontents)
    hpayload hlegible (Value.wholeEntries_iff.2 (isWhole_admitted hcontents))
  rwa [Value.sorted, sortedEntries_admitted hcontents] at hread

/-- Nothing is read when a text is too long. -/
theorem decode?_illegible (hillegible : ¬(Value.record contents).Legible)
    (haddressable : ∀ entry ∈ contents, entry.2.Addressable) :
    (Schema.named (.record label fields)).decode? payload = none := by
  have hsome : ∃ entry ∈ contents, ¬entry.2.Legible := by
    by_contra hnone
    push Not at hnone
    exact hillegible (Value.legibleFields_iff.2 hnone)
  obtain ⟨-, hencode⟩ := Schema.encode?_eq_ok (h.ofSchema?_eq label) hpayload
  rw [Value.encode, Value.encodeDefinition] at hencode
  rw [Schema.decode?, h.ofSchema?_eq label]
  dsimp only
  rw [Value.decode, Value.decodeDefinition,
    decodeFields_illegible hcontents (h.lastOf_admitted hcontents) hsome haddressable hencode]
  rfl

end Partless

end FramedAvro.Avro
