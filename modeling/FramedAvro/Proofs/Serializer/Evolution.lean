import FramedAvro.Proofs.Avro.Partless
import FramedAvro.Proofs.Pairing
import FramedAvro.Proofs.Text.Utf8
import FramedAvro.Serializer.Payload

/-!
# Reading with another schema

A payload has no names in it, so whatever is asked for, it is read with the fields that it was
written with, all of them and in their order. Only then are the fields that are asked for looked up
by name: one that was written has the value it was written with, one that was not has its default,
and one that nobody asks for is gone, wherever it stood. The names of the two records play no part.

## Main definitions

* `Primitive.Spells`, `Field.HasDefault`: what a default is as a type, and fields that have one.
* `Field.Views`: the entry of a field that is asked for.

## Main results

* `Partless.resolve?_view`: a record resolves to the view of the fields that are asked for.
* `readPayload_evolved`: what is read with another schema is this view.
* `readPayload_evolved_fails`: a text that is too long for the reader is written all the same.
-/

namespace FramedAvro

namespace Avro

/-- The value that a default is, as a type. -/
inductive Primitive.Spells : Primitive → Json → Value → Prop
  | null : Spells .null .null .null
  | boolean (b : Bool) : Spells .boolean (.bool b) (.boolean b)
  | int {n : Json.Number} {i : Int} (integer : n.toInt? = some i)
      (lower : Int32.minValue.toInt ≤ i) (upper : i ≤ Int32.maxValue.toInt) :
    Spells .int (.number n) (.int (Int32.ofInt i))
  | long {n : Json.Number} {i : Int} (integer : n.toInt? = some i)
      (lower : Int64.minValue.toInt ≤ i) (upper : i ≤ Int64.maxValue.toInt) :
    Spells .long (.number n) (.long (Int64.ofInt i))
  | string (text : String) : Spells .string (.string text) (.string text)

/-- A field that has a default of its type. -/
inductive Field.HasDefault : Field → Prop
  | mk (label : FieldLabel) (type : Primitive) {fallback : Json} {v : Value}
      (given : label.fallback = some fallback) (spelled : type.Spells fallback v) :
    HasDefault (.mk label (.primitive type))

/-- The entry of a field that is asked for, when a record has the contents: the value under its
name, or the default where there is none. -/
inductive Field.Views (contents : List (String × Value)) : Field → String × Value → Prop
  | written (field : Field) (v : Value) (found : (field.name, v) ∈ contents) :
    Views contents field (field.name, v)
  | fallback (label : FieldLabel) (type : Primitive) (v : Value) {fallback : Json}
      (missing : label.name ∉ contents.map (·.1)) (given : label.fallback = some fallback)
      (spelled : type.Spells fallback v) :
    Views contents (.mk label (.primitive type)) (label.name, v)

/-! ### Defaults -/

/-- An integer is the same as 64 bits when it was kept in 32 bits before. -/
theorem toInt64_ofInt {i : Int} (lower : Int32.minValue.toInt ≤ i)
    (upper : i ≤ Int32.maxValue.toInt) : (Int32.ofInt i).toInt64 = Int64.ofInt i := by
  have hmin : Int32.minValue.toInt = -2147483648 := by decide
  have hmax : Int32.maxValue.toInt = 2147483647 := by decide
  rw [← Int64.toInt_inj, Int32.toInt_toInt64, Int32.toInt_ofInt_of_le (by omega) (by omega),
    Int64.toInt_ofInt_of_le (by omega) (by omega)]

/-- A default has a value that resolves to the one that it is. -/
theorem Primitive.Spells.exists_ofJson? {type : Primitive} {fallback : Json} {v : Value}
    (h : type.Spells fallback v) :
    ∃ w, Value.ofJson? fallback = some w ∧ w.unwrapped.resolvePrimitive type = some v := by
  cases h with
  | null => exact ⟨.null, rfl, rfl⟩
  | boolean b => exact ⟨.boolean b, rfl, rfl⟩
  | string text => exact ⟨.string text, rfl, rfl⟩
  | @int n i integer lower upper =>
      have hnumber : Value.ofJson? (.number n) = some (.int (Int32.ofInt i)) := by
        rw [Value.ofJson?, Value.ofNumber?, integer]
        exact if_pos ⟨lower, upper⟩
      exact ⟨_, hnumber, rfl⟩
  | @long n i integer lower upper =>
      by_cases hsmall : Int32.minValue.toInt ≤ i ∧ i ≤ Int32.maxValue.toInt
      · have hnumber : Value.ofJson? (.number n) = some (.int (Int32.ofInt i)) := by
          rw [Value.ofJson?, Value.ofNumber?, integer]
          exact if_pos hsmall
        have hlong : Int64.ofInt i = (Int32.ofInt i).toInt64 :=
          (toInt64_ofInt hsmall.1 hsmall.2).symm
        exact ⟨_, hnumber, by rw [hlong]; rfl⟩
      · have hnumber : Value.ofJson? (.number n) = some (.long (Int64.ofInt i)) := by
          rw [Value.ofJson?, Value.ofNumber?, integer]
          dsimp only
          have hmax : Int64.maxValue.toInt < (UInt64.size : Int) := by decide
          rw [if_neg hsmall, if_pos ⟨lower, by omega⟩]
        exact ⟨_, hnumber, rfl⟩

/-! ### Views -/

/-- A field that is asked for resolves to its entry. -/
theorem Field.Views.resolveField_eq {contents : List (String × Value)} {field : Field}
    {entry : String × Value} (h : Views contents field entry)
    (hdistinct : (contents.map (·.1)).Nodup)
    (hadmitted : ∀ v, (field.name, v) ∈ contents →
      ∃ type, field.type = .primitive type ∧ type.Admits v)
    {definitions : Definitions} {budget : Nat} {enclosing : Option String} (hbudget : 0 < budget) :
    entry.1 = field.name ∧
      Value.resolveField definitions budget enclosing contents field.label field.type =
        .ok entry.2 := by
  cases h with
  | written field v found =>
      obtain ⟨type, htype, hvalue⟩ := hadmitted v found
      have hfound : Value.lastOf field.name contents = some v :=
        Value.lastOf_of_mem hdistinct _ found
      refine ⟨rfl, ?_⟩
      rw [htype, Value.resolveField_found hfound, hvalue.resolvePrimitive_eq, Checked.ofOption]
  | fallback label type v missing given spelled =>
      refine ⟨rfl, ?_⟩
      have hmissing : Value.lastOf label.name contents = none := Value.lastOf_eq_none missing
      obtain ⟨w, hw, hresolved⟩ := spelled.exists_ofJson?
      have hfield : Value.resolveField definitions budget enclosing contents label
          (.primitive type) = .ok v := by
        rw [Value.resolveField_fallback hmissing hbudget given hw, hresolved, Checked.ofOption]
      exact hfield

namespace Partless

variable {asked : List Field} {contents view : List (String × Value)}

/-- Fields that are asked for resolve to their view. -/
theorem resolve?_view (h : Partless asked) (label : Label) (hdistinct : (contents.map (·.1)).Nodup)
    (hadmitted : ∀ field ∈ asked, ∀ v, (field.name, v) ∈ contents →
      ∃ type, field.type = .primitive type ∧ type.Admits v)
    (hview : List.Forall₂ (Field.Views contents) asked view) :
    (Schema.named (.record label asked)).resolve? (.record contents) = .ok (.record view) := by
  obtain ⟨definitions, enclosing, hresolve⟩ := h.resolve?_eq label
  have hmembers : List.Forall₂ (fun field entry => field ∈ asked ∧ field.Views contents entry)
      asked view := (List.forall₂_and_left asked view).2 ⟨fun _ hfield => hfield, hview⟩
  have hfields :
      Value.resolveFields definitions asked.length enclosing contents asked = .ok view :=
    Value.resolveFields_eq_ok <| hmembers.imp fun field _ hentry =>
      hentry.2.resolveField_eq hdistinct (hadmitted field hentry.1)
        (List.length_pos_of_mem hentry.1)
  rw [hresolve, hfields, Except.map]

/-- Where a field that is asked for is missing and has no default, nothing is resolved, if the other
missing ones have no default or one with a value. -/
theorem resolve?_refused (h : Partless asked) (label : Label) {field : Field}
    (hfield : field ∈ asked) (hmissing : field.name ∉ contents.map (·.1))
    (hfallback : field.label.fallback = none)
    (hvalued : ∀ other ∈ asked, ∀ fallback, other.label.fallback = some fallback →
      (Value.ofJson? fallback).isSome = true) :
    (Schema.named (.record label asked)).resolve? (.record contents) = .error .refused := by
  obtain ⟨definitions, enclosing, hresolve⟩ := h.resolve?_eq label
  have hlast : Value.lastOf field.label.name contents = none := Value.lastOf_eq_none hmissing
  have hreturn : ∀ other ∈ asked,
      Value.resolveField definitions asked.length enclosing contents other.label other.type ≠
        .error .crash := by
    intro other hother
    obtain ⟨type, htype⟩ := h.typed other hother
    rw [htype]
    exact Value.resolveField_ne_crash (List.length_pos_of_mem hother) (hvalued other hother)
  rw [hresolve, Value.resolveFields_refused hfield (Value.resolveField_refused hlast hfallback)
    hreturn, Except.map]

end Partless

end Avro

/-! ### Payloads -/

open Avro

section Payloads

variable {written asked : List Field} {contents : List (String × Value)}

/-- What was written under the name of a field that is asked for is a value of its type. -/
theorem exists_admits_of_mem (hcontents : List.Forall₂ Field.Admits written contents)
    {field : Field} (hsame : ∀ own ∈ written, own.name = field.name → own.type = field.type)
    {v : Value} (hmem : (field.name, v) ∈ contents) :
    ∃ type, field.type = .primitive type ∧ type.Admits v := by
  obtain ⟨own, hown, hadmits⟩ := exists_of_mem_forall₂ hcontents hmem
  generalize hentry : (field.name, v) = entry at hadmits
  obtain ⟨label, type, v, hvalue⟩ := hadmits
  obtain ⟨hname, rfl⟩ := Prod.mk.inj hentry
  exact ⟨type, (hsame _ hown hname.symm).symm, hvalue⟩

/-- A field that was written or has a default has an entry. -/
theorem exists_view (hcontents : List.Forall₂ Field.Admits written contents)
    (hdefaults : ∀ field ∈ asked, field.name ∉ written.map Field.name → field.HasDefault) :
    ∃ view, List.Forall₂ (Field.Views contents) asked view := by
  have hnames := names_of_admitted hcontents
  refine exists_forall₂ fun field hfield => ?_
  by_cases hname : field.name ∈ contents.map (·.1)
  · obtain ⟨⟨name, v⟩, hmem, hkey⟩ := List.mem_map.1 hname
    obtain rfl : name = field.name := hkey
    exact ⟨_, .written field v hmem⟩
  · obtain ⟨label, type, given, spelled⟩ := hdefaults field hfield (hnames ▸ hname)
    exact ⟨_, .fallback label type _ hname given spelled⟩

/-- Let the fields that were written and those that are asked for be told apart by their names,
without aliases, and be of types without parts, the same where they have the same name. Let the
written ones hold nulls, truth values, integers and texts. Then the record is written.

When its texts are within the limit of the reader, it is read back without another schema. With one
it is read as the view of the fields that are asked for. They have one if each that was not written
has a default of its type. If one of these has no default at all, nothing is read, where the
defaults that there are have values.

When a text is longer than the limit nothing is read. -/
theorem readPayload_evolved (writer reader : Label) (hwritten : Partless written)
    (hasked : Partless asked)
    (hsame : ∀ field ∈ asked, ∀ own ∈ written, own.name = field.name → own.type = field.type)
    (hcontents : List.Forall₂ Field.Admits written contents) :
    ∃ payload,
      (Schema.named (.record writer written)).encode? (.record contents) = .ok payload ∧
      ((Value.record contents).Legible →
        readPayload (.named (.record writer written)) none payload = .ok (.record contents) ∧
        (∀ view, List.Forall₂ (Field.Views contents) asked view →
          readPayload (.named (.record writer written)) (some (.named (.record reader asked)))
            payload = .ok (.record view)) ∧
        ((∀ field ∈ asked, field.name ∉ written.map Field.name → field.HasDefault) →
          ∃ view, List.Forall₂ (Field.Views contents) asked view) ∧
        ((∃ field ∈ asked, field.name ∉ written.map Field.name ∧ field.label.fallback = none) →
          (∀ field ∈ asked, ∀ fallback, field.label.fallback = some fallback →
            (Value.ofJson? fallback).isSome = true) →
          ∃ failure,
            readPayload (.named (.record writer written)) (some (.named (.record reader asked)))
              payload = .error (.failed failure) ∧ failure.kind = .deserialization)) ∧
      (¬(Value.record contents).Legible → (∀ entry ∈ contents, entry.2.Addressable) →
        ∀ other, ∃ failure,
          readPayload (.named (.record writer written)) other payload = .error (.failed failure) ∧
            failure.kind = .deserialization) := by
  have hnames := names_of_admitted hcontents
  have hdistinct : (contents.map (·.1)).Nodup := hnames ▸ hwritten.distinct
  obtain ⟨payload, hpayload⟩ := hwritten.exists_encode? writer hcontents
  refine ⟨payload, hpayload, fun hlegible => ?_, fun hillegible haddressable other => ?_⟩
  · have hread := hwritten.decode?_legible writer hcontents hpayload hlegible
    refine ⟨by rw [readPayload, hread], fun view hview => ?_, exists_view hcontents,
      fun hmissing hvalued => ?_⟩
    · have hresolve := hasked.resolve?_view reader hdistinct
        (fun field hfield _ => exists_admits_of_mem hcontents (hsame field hfield)) hview
      rw [readPayload, hread]
      dsimp only
      rw [hresolve, Outcome.ofChecked]
    · obtain ⟨field, hfield, hname, hfallback⟩ := hmissing
      have hresolve := hasked.resolve?_refused reader hfield (hnames ▸ hname) hfallback hvalued
      refine ⟨badPayload payload, ?_, rfl⟩
      rw [readPayload, hread]
      dsimp only
      rw [hresolve, Outcome.ofChecked]
  · have hread := hwritten.decode?_illegible writer hcontents hpayload hillegible haddressable
    exact ⟨badPayload payload, by rw [readPayload, hread], rfl⟩

end Payloads

/-- The fields of an order that is stored: an id, a note and whether it is open. -/
def storedOrder : List Field :=
  [.mk ⟨"id", none, [], []⟩ (.primitive .long), .mk ⟨"note", none, [], []⟩ (.primitive .string),
    .mk ⟨"open", none, [], []⟩ (.primitive .boolean)]

/-- The fields of an order that is counted: a note, a count that is one by default, and an id. -/
def countedOrder : List Field :=
  [.mk ⟨"note", none, [], []⟩ (.primitive .string),
    .mk ⟨"count", some (.ofInt 1), [], []⟩ (.primitive .int),
    .mk ⟨"id", none, [], []⟩ (.primitive .long)]

/-- An order that is read by a reader without one of its fields and with another one that has a
default. -/
theorem readPayload_evolved_order : ∃ payload,
    (Schema.named (.record ⟨⟨none, "Order"⟩, []⟩ storedOrder)).encode?
      (.record [("id", .long 7), ("note", .string "tea"), ("open", .boolean true)]) =
        .ok payload ∧
    readPayload (.named (.record ⟨⟨none, "Order"⟩, []⟩ storedOrder)) none payload =
      .ok (.record [("id", .long 7), ("note", .string "tea"), ("open", .boolean true)]) ∧
    readPayload (.named (.record ⟨⟨none, "Order"⟩, []⟩ storedOrder))
      (some (.named (.record ⟨⟨some "shop", "Counted"⟩, []⟩ countedOrder))) payload =
        .ok (.record [("note", .string "tea"), ("count", .int 1), ("id", .long 7)]) := by
  have hstored : Partless storedOrder :=
    ⟨by decide, by simp [storedOrder, Field.label], by simp [storedOrder, Field.type]⟩
  have hcounted : Partless countedOrder :=
    ⟨by decide, by simp [countedOrder, Field.label], by simp [countedOrder, Field.type]⟩
  have hsame : ∀ field ∈ countedOrder, ∀ own ∈ storedOrder, own.name = field.name →
      own.type = field.type := by
    simp [countedOrder, storedOrder, Field.name, Field.label, Field.type]
  have hcontents : List.Forall₂ Field.Admits storedOrder
      [("id", .long 7), ("note", .string "tea"), ("open", .boolean true)] :=
    .cons (.mk _ _ _ (.long 7)) <| .cons (.mk _ _ _ (.string "tea")) <|
      .cons (.mk _ _ _ (.boolean true)) .nil
  have hlegible : (Value.record [("id", .long 7), ("note", .string "tea"),
      ("open", .boolean true)]).Legible :=
    ⟨trivial, show (Utf8.encode "tea").length ≤ Varint.maxSize by decide, trivial, trivial⟩
  have hspelled : Primitive.int.Spells (.ofInt 1) (.int (Int32.ofInt 1)) :=
    .int rfl (by decide) (by decide)
  have hview : List.Forall₂ (Field.Views [("id", .long 7), ("note", .string "tea"),
        ("open", .boolean true)]) countedOrder
      [("note", .string "tea"), ("count", .int 1), ("id", .long 7)] :=
    .cons (.written _ _ (by simp [Field.name, Field.label])) <|
      .cons (.fallback _ _ _ (by decide) rfl hspelled) <|
        .cons (.written _ _ (by simp [Field.name, Field.label])) .nil
  obtain ⟨payload, hpayload, hread, -⟩ := readPayload_evolved ⟨⟨none, "Order"⟩, []⟩
    ⟨⟨some "shop", "Counted"⟩, []⟩ hstored hcounted hsame hcontents
  obtain ⟨hplain, hother, -⟩ := hread hlegible
  exact ⟨payload, hpayload, hplain, hother _ hview⟩

/-- A text of as many letters. -/
def letters (count : Nat) : String :=
  String.ofList (List.replicate count 'a')

/-- A text of letters has as many bytes as letters. -/
theorem length_encode_letters (count : Nat) : (Utf8.encode (letters count)).length = count := by
  induction count with
  | zero => rfl
  | succ count ih =>
      have hletter : (String.utf8EncodeChar 'a').length = 1 := rfl
      rw [letters, List.replicate_succ, Utf8.encode_cons, Utf8.encode_singleton, List.length_append,
        hletter]
      rw [letters] at ih
      omega

/-- The schema of a record with one field. -/
def single (type : Primitive) : Schema :=
  .named (.record ⟨⟨none, "R"⟩, []⟩ [.mk ⟨"x", none, [], []⟩ (.primitive type)])

/-- The fields of a record that is asked for, of which one has a default that no value has and the
other has none. -/
def oversized : List Field :=
  [.mk ⟨"big", some (.ofInt (2 ^ 64)), [], []⟩ (.primitive .long),
    .mk ⟨"y", none, [], []⟩ (.primitive .long)]

/-- A text that is longer than the limit of the reader is written, and reading it fails. An int is
written as the long that its field asks for, and read as the long. A default that no value has
breaks the reading before the field that has no default is looked at. -/
theorem readPayload_evolved_fails :
    (∃ text payload failure,
      ParsedSchema.frameValue ⟨1, .bare .null, single .string⟩ (.record [("x", .string text)]) =
        .ok (Frame.encode 1 payload) ∧
      readPayload (single .string) none payload = .error (.failed failure) ∧
        failure.kind = .deserialization) ∧
    ∃ payload,
      ParsedSchema.frameValue ⟨1, .bare .null, single .long⟩ (.record [("x", .int 5)]) =
        .ok (Frame.encode 1 payload) ∧
      readPayload (single .long) none payload = .ok (.record [("x", .long 5)]) ∧
      readPayload (single .long) (some (.named (.record ⟨⟨none, "R"⟩, []⟩ oversized))) payload =
        .error .crashed := by
  constructor
  · have hfields : Partless [.mk ⟨"x", none, [], []⟩ (.primitive .string)] :=
      ⟨by simp, by simp [Field.label], by simp [Field.type]⟩
    have hcontents (text : String) : List.Forall₂ Field.Admits
        [.mk ⟨"x", none, [], []⟩ (.primitive .string)] [("x", .string text)] :=
      .cons (.mk ⟨"x", none, [], []⟩ _ _ (.string text)) .nil
    have hlength := length_encode_letters (Varint.maxSize + 1)
    generalize letters (Varint.maxSize + 1) = text at hlength
    have hresolved := hfields.resolve?_admitted ⟨⟨none, "R"⟩, []⟩ (hcontents text)
    obtain ⟨payload, hpayload⟩ := hfields.exists_encode? ⟨⟨none, "R"⟩, []⟩ (hcontents text)
    have hillegible : ¬(Value.record [("x", .string text)]).Legible := by
      simp [Value.Legible, Value.LegibleFields, hlength]
    have haddressable : ((Utf8.encode text).length : Int) ≤ Int64.maxValue.toInt := by
      rw [hlength]
      decide
    have hread := hfields.decode?_illegible ⟨⟨none, "R"⟩, []⟩ (hcontents text) hpayload hillegible
      (by simpa [Value.Addressable] using haddressable)
    refine ⟨text, payload, badPayload payload, ?_, ?_, rfl⟩
    · rw [ParsedSchema.frameValue, single, hresolved]
      simp only [Outcome.ofChecked, Checked.ok_bind, hpayload, Checked.pure_eq_ok]
    · rw [readPayload, single, hread]
  · exact ⟨[10], by cbv, by cbv, by cbv⟩

end FramedAvro
