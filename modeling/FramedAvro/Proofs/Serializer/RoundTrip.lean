import Mathlib
import FramedAvro.Proofs.Avro.Parse
import FramedAvro.Proofs.Avro.RoundTrip
import FramedAvro.Proofs.Frame
import FramedAvro.Proofs.Json.RoundTrip
import FramedAvro.Proofs.Serializer.Cache

/-!
# Reading messages back

What a serializer wrote for a value is read back by every serializer on the same registry, then or
after more schemas were registered, as the value resolved against its schema. Two kinds of schemas
have to be left out, since a value may be checked as one type and written or read as another. Where
a field has the name of an earlier field as an alias, values of the earlier one are checked as the
later one; and a reference to a name without a namespace stands for different types from place to
place when namespaces surround it. Values have to be left out too: a fixed value is taken by the
size it says it has, and written with the bytes it has.

## Main results

* `Schema.Recoverable.regular`: the other schemas are regular.
* `Serializing.deserializeValue_serializeValue`: their values are read back.
* `Serializing.deserializeValue_fails`: what is left out is not always read back.
-/

namespace FramedAvro

open Avro

/-! ### Schemas whose values are read back -/

/-- Schemas without logical types, whose references read as themselves and whose fields are no
aliases of later ones. -/
structure Avro.Schema.Recoverable (schema : Schema) : Prop where
  plain : schema.Every (fun _ s => s.IsPlain) none
  settled : schema.Every Schema.ReadsAsItself none
  aliased : schema.Every (fun _ s => s.HasOwnAliases) none

/-- A schema that can be recovered is regular everywhere, as long as the fields of its records have
different names. -/
theorem Avro.Schema.Recoverable.regular {schema : Schema} (h : schema.Recoverable)
    (hdistinct : schema.Distinct) : schema.Every Schema.Regular none := by
  have hall := ((h.plain.and h.settled).and h.aliased).and (hdistinct none)
  exact hall.mono fun _ _ ⟨⟨⟨hplain, hsettled⟩, haliased⟩, hdistinct⟩ =>
    ⟨hplain, hsettled, hdistinct, haliased⟩

/-- The schema of an id has the id, and was read from its text. -/
theorem Memory.parse?_of_schemaOf {memory : Memory} {id : UInt32} {schema : ParsedSchema}
    (h : memory.schemaOf id = .ok schema) :
    schema.id = id ∧ Schema.parse? schema.document.text = .ok schema.schema := by
  cases hdocument : memory.fetchById id with
  | error failure =>
      rw [Memory.schemaOf, hdocument] at h
      contradiction
  | ok document =>
      rw [Memory.schemaOf_eq_parse hdocument] at h
      obtain ⟨hid, rfl, hparse⟩ := ParsedSchema.parse_eq_ok_iff.1 h
      exact ⟨hid, hparse⟩

/-- A document that is put under an id is parsed when it is sorted, not too deep and no envelope. -/
theorem Memory.schemaOf_addSchema {memory : Memory} {id : UInt32} {content : Json}
    {coordinate : Coordinate} {schema : Schema} (hbare : content.get? "schema" = none)
    (hdepth : content.depth ≤ Json.maxDepth) (hsorted : content.sorted? = some content)
    (hschema : Schema.ofJson? content = .ok schema) :
    (memory.addSchema id content coordinate).schemaOf id = .ok ⟨id, .bare content, schema⟩ := by
  have hdocument : (memory.addSchema id content coordinate).fetchById id = .ok (.bare content) := by
    rw [Memory.fetchById, Memory.addSchema, Memory.documents_addVersion]
    simp [Table.get?_insert, Document.ofJson, hbare]
  have hread : Json.parseSorted? content.text = some content := by
    rw [Json.parseSorted?, Json.parse?_text hdepth]
    exact hsorted
  rw [Memory.schemaOf_eq_parse hdocument]
  exact ParsedSchema.parse_eq_ok_iff.2 ⟨rfl, rfl, Schema.parse?_eq_ok_iff.2 ⟨_, hread, hschema⟩⟩

/-! ### Schemas that are kept during a run -/

namespace Registration

/-- Registrations one after the other are performed one after the other. -/
theorem performAll_append (done left : List Registration) (memory : Memory) :
    (performAll (done ++ left) memory).2 = (performAll left (performAll done memory).2).2 := by
  induction done generalizing memory with
  | nil => rfl
  | cons call rest ih =>
      rw [List.cons_append, performAll_cons, performAll_cons]
      exact ih _

end Registration

namespace Serializer

variable {serializer : Serializer} {calls : List Registration} {memory : Memory}

/-- Every schema that is kept is one that the document of its id parsed to at some time between the
first call and the last. -/
def FilledDuring (serializer : Serializer) (calls : List Registration) (memory : Memory) : Prop :=
  ∀ id schema, serializer.kept? id = some schema → ∃ done left, calls = done ++ left ∧
    (Registration.performAll done memory).2.schemaOf id = .ok schema

/-- Schemas that were right before the first call were right at some time. -/
theorem FilledFrom.filledDuring (h : serializer.FilledFrom memory) (calls : List Registration) :
    serializer.FilledDuring calls memory :=
  fun id schema hkept => ⟨[], calls, rfl, h id schema hkept⟩

/-- Schemas that were right at some time are right after the last call. -/
theorem FilledDuring.filledFrom (h : serializer.FilledDuring calls memory) :
    serializer.FilledFrom (Registration.performAll calls memory).2 := by
  intro id schema hkept
  obtain ⟨done, left, rfl, hschema⟩ := h id schema hkept
  rw [Registration.performAll_append]
  exact (Registration.performAll_grows left _).schemaOf hschema

end Serializer

/-! ### Messages -/

/-- A message of a value holds the id of its schema and the bytes of the resolved value. -/
theorem ParsedSchema.frameValue_eq_ok {schema : ParsedSchema} {v : Value} {message : Bytes}
    (h : schema.frameValue v = .ok message) :
    ∃ resolved payload, schema.schema.resolve? v = .ok resolved ∧
      schema.schema.encode? resolved = .ok payload ∧ message = Frame.encode schema.id payload := by
  obtain ⟨resolved, hresolved, hrest⟩ := Checked.bind_eq_ok_iff.1 h
  obtain ⟨payload, hpayload, hmessage⟩ := Checked.bind_eq_ok_iff.1 hrest
  exact ⟨resolved, payload, Outcome.ofChecked_eq_ok_iff.1 hresolved,
    Outcome.ofChecked_eq_ok_iff.1 hpayload, (Except.ok.inj hmessage).symm⟩

namespace Serializing

/-- A value is written as soon as its schema frames it, whatever the serializer keeps. -/
theorem serializeValue_eq_ok_iff {memory : Memory} {serializer : Serializer}
    (hfilled : serializer.FilledFrom memory) {id : UInt32} {schema : ParsedSchema}
    (hschema : memory.schemaOf id = .ok schema) {v : Value} {message : Bytes} :
    ((serializeValue Memory.registry v id).perform ⟨serializer, memory⟩).1 = .ok message ↔
      schema.frameValue v = .ok message := by
  obtain ⟨wrap, hanswers⟩ : ∃ wrap, Answers memory serializer.lookupGroup
      (serializeValue Memory.registry v id)
      (((memory.schemaOf id).bind fun schema => schema.frameValue v).mapError wrap) :=
    Answers.serializeValue v id
  obtain ⟨after, hperform, -⟩ := hanswers serializer rfl hfilled
  rw [hperform, hschema, Except.bind]
  cases schema.frameValue v with
  | error failure =>
      constructor
      · intro h
        contradiction
      · intro h
        contradiction
  | ok own => exact Iff.rfl

/-- The value of a message is the one in its payload, whatever the serializer keeps. -/
theorem deserializeValue_eq_ok_iff {memory : Memory} {serializer : Serializer}
    (hfilled : serializer.FilledFrom memory) {id : UInt32} {schema : ParsedSchema}
    (hschema : memory.schemaOf id = .ok schema) {payload : Bytes} {result : Option Name × Value} :
    ((deserializeValue Memory.registry (Frame.encode id payload)).perform
        ⟨serializer, memory⟩).1 = .ok result ↔
      ∃ v, schema.schema.decode? payload = some v ∧ result = (recordName? schema.schema, v) := by
  obtain ⟨wrap, hanswers⟩ := Answers.deserializeValue (Frame.encode id payload)
  obtain ⟨after, hperform, -⟩ := hanswers serializer rfl hfilled
  rw [hperform, Frame.decode_encode, Outcome.ofExcept_ok, Except.bind, hschema, Except.bind,
    Except.bind, readPayload]
  cases schema.schema.decode? payload with
  | none =>
      constructor
      · intro h
        contradiction
      · rintro ⟨v, hv, -⟩
        contradiction
  | some v =>
      constructor
      · intro h
        exact ⟨v, rfl, (Except.ok.inj h).symm⟩
      · rintro ⟨own, hown, rfl⟩
        obtain rfl := Option.some.inj hown
        rfl

/-- A value that was written is read back, at once or after any calls, as it was resolved. -/
theorem deserializeValue_serializeValue {memory : Memory} {id : UInt32} {schema : ParsedSchema}
    (hschema : memory.schemaOf id = .ok schema) (hrecoverable : schema.schema.Recoverable)
    {writer : Serializer} (hwriter : writer.FilledFrom memory) {v : Value} {message : Bytes}
    (hwritten : ((serializeValue Memory.registry v id).perform ⟨writer, memory⟩).1 = .ok message)
    {calls : List Registration} {reader : Serializer} (hreader : reader.FilledDuring calls memory) :
    ∃ resolved, schema.schema.resolve? v = .ok resolved ∧ (resolved.IsWhole → resolved.Legible →
      ((deserializeValue Memory.registry message).perform
        ⟨reader, (Registration.performAll calls memory).2⟩).1 =
        .ok (recordName? schema.schema, resolved.sorted)) := by
  obtain ⟨rfl, hparse⟩ := Memory.parse?_of_schemaOf hschema
  have hregular := hrecoverable.regular (Schema.parse?_distinct hparse)
  have hlater := (Registration.performAll_grows calls memory).schemaOf hschema
  rw [serializeValue_eq_ok_iff hwriter hschema] at hwritten
  obtain ⟨resolved, payload, hresolved, hpayload, rfl⟩ := ParsedSchema.frameValue_eq_ok hwritten
  refine ⟨resolved, hresolved, fun hwhole hlegible => ?_⟩
  rw [deserializeValue_eq_ok_iff hreader.filledFrom hlater]
  exact ⟨_, Schema.decode?_encode? hregular hresolved hpayload hlegible hwhole, rfl⟩

/-- The lines of an order, each but the last with the next one. -/
def lineJson : Json :=
  SchemaJson.recordJson "shop.Line" [
    SchemaJson.fieldMembers "count" [] (.string "long"),
    SchemaJson.fieldMembers "next" [] (.array [.string "null", .string "Line"])]

/-- The schema of lines, which refers to itself. -/
def line : Schema :=
  .named (.record ⟨⟨some "shop", "Line"⟩, []⟩ [
    .mk ⟨"count", none, [], []⟩ (.primitive .long),
    .mk ⟨"next", none, [], []⟩ (.union [.primitive .null, .reference ⟨some "shop", "Line"⟩])])

/-- The schema of a line as a document. -/
theorem ofJson?_lineJson : Schema.ofJson? lineJson = .ok line := by
  have hcount (known : Known) : (SchemaJson.read (some "shop") (.string "long")).run known =
      .ok (.primitive .long, known) := by cbv
  have hnext : (SchemaJson.read (some "shop") (.array [.string "null", .string "Line"])).run
      (Known.empty.start ⟨some "shop", "Line"⟩ []) =
      .ok (.union [.primitive .null, .reference ⟨some "shop", "Line"⟩],
        Known.empty.start ⟨some "shop", "Line"⟩ []) := by cbv
  exact Schema.ofJson?_of_run (SchemaJson.run_read_recordJson (by cbv)
    (SchemaJson.run_readFields_fieldMembers (by cbv) rfl (hcount _)
      (SchemaJson.run_readFields_fieldMembers (by cbv) rfl hnext SchemaJson.run_readFields_nil))
    (by cbv))

/-- The schema of a line can be recovered from what is written of it. -/
theorem recoverable_line : line.Recoverable := by
  refine ⟨?_, ?_, ?_⟩
  · simp [line, Schema.Every, Definition.Every, EveryField, EveryVariant, Schema.IsPlain]
  · simp [line, Schema.Every, Definition.Every, EveryField, EveryVariant, Schema.ReadsAsItself,
      Name.within]
  · simp [line, Schema.Every, Definition.Every, EveryField, EveryVariant, Schema.HasOwnAliases,
      Field.label]

/-- A registry with the schema of lines. -/
def ofLines : Memory :=
  Memory.empty.addSchema 1 lineJson ⟨"shop", "line"⟩

/-- Two lines, with ints as counts and their fields in another order. -/
def twoLines : Value :=
  .record [("next", .record [("next", .null), ("count", .int 2)]), ("count", .int 1)]

/-- A line that is written with one serializer is read with another one, which keeps the schema,
after another registration. -/
theorem deserializeValue_twoLines :
    ((serializeValue Memory.registry twoLines 1).perform ⟨.standard, ofLines⟩).1 =
        .ok (Frame.encode 1 [2, 2, 4, 0]) ∧
      ((deserializeValue Memory.registry (Frame.encode 1 [2, 2, 4, 0])).perform
        ⟨Serializer.standard.keep ⟨1, .bare lineJson, line⟩, (Registration.performAll
          [.register ⟨"shop", "order"⟩ "\"int\"" .avro] ofLines).2⟩).1 =
        .ok (some ⟨some "shop", "Line"⟩, .record [("count", .long 1), ("next", .union 1
          (.record [("count", .long 2), ("next", .union 0 .null)]))]) := by
  have hschema : ofLines.schemaOf 1 = .ok ⟨1, .bare lineJson, line⟩ :=
    Memory.schemaOf_addSchema rfl (by cbv) (by cbv) ofJson?_lineJson
  have hfilled : Serializer.standard.FilledFrom ofLines := Serializer.filledFrom_make true none _
  have hwritten : ((serializeValue Memory.registry twoLines 1).perform ⟨.standard, ofLines⟩).1 =
      .ok (Frame.encode 1 [2, 2, 4, 0]) := (serializeValue_eq_ok_iff hfilled hschema).2 (by cbv)
  have hkept : (Serializer.standard.keep ⟨1, .bare lineJson, line⟩).FilledFrom ofLines :=
    hfilled.keep hschema
  refine ⟨hwritten, ?_⟩
  obtain ⟨resolved, hresolved, hread⟩ := deserializeValue_serializeValue hschema recoverable_line
    hfilled hwritten (hkept.filledDuring [.register ⟨"shop", "order"⟩ "\"int\"" .avro])
  have hown : line.resolve? twoLines = .ok (.record [("count", .long 1), ("next", .union 1
      (.record [("count", .long 2), ("next", .union 0 .null)]))]) := by cbv
  obtain rfl := Except.ok.inj (hown.symm.trans hresolved)
  refine hread (by simp [Value.IsWhole, Value.WholeEntries]) ?_
  simp only [Value.Legible, Value.LegibleFields]
  decide

/-! ### Schemas whose values are not always read back -/

/-- A value of the schema of a document is written, and not read back as it was resolved. -/
def Loses (content : Json) (schema : Schema) (v : Value) : Prop :=
  ∃ memory message resolved, memory.schemaOf 1 = .ok ⟨1, .bare content, schema⟩ ∧
    schema.Every (fun _ s => s.IsPlain) none ∧
    ((serializeValue Memory.registry v 1).perform ⟨.standard, memory⟩).1 = .ok message ∧
    schema.resolve? v = .ok resolved ∧ resolved.Legible ∧
    ((deserializeValue Memory.registry message).perform ⟨.standard, memory⟩).1 ≠
      .ok (recordName? schema, resolved.sorted)

/-- A value is lost when its payload is not read back. -/
theorem loses {content : Json} {schema : Schema} (hbare : content.get? "schema" = none)
    (hdepth : content.depth ≤ Json.maxDepth) (hsorted : content.sorted? = some content)
    (hschema : Schema.ofJson? content = .ok schema)
    (hplain : schema.Every (fun _ s => s.IsPlain) none) {v resolved : Value} {payload : Bytes}
    (hframe : ParsedSchema.frameValue ⟨1, .bare content, schema⟩ v =
      .ok (Frame.encode 1 payload))
    (hresolved : schema.resolve? v = .ok resolved) (hlegible : resolved.Legible)
    (hread : schema.decode? payload ≠ some resolved.sorted) : Loses content schema v := by
  have hid : (Memory.empty.addSchema 1 content ⟨"shop", "order"⟩).schemaOf 1 =
      .ok ⟨1, .bare content, schema⟩ :=
    Memory.schemaOf_addSchema hbare hdepth hsorted hschema
  have hfilled : Serializer.standard.FilledFrom
      (Memory.empty.addSchema 1 content ⟨"shop", "order"⟩) :=
    Serializer.filledFrom_make true none _
  refine ⟨_, Frame.encode 1 payload, resolved, hid, hplain,
    (serializeValue_eq_ok_iff hfilled hid).2 hframe, hresolved, hlegible, ?_⟩
  rw [ne_eq, deserializeValue_eq_ok_iff hfilled hid]
  rintro ⟨v, hv, hresult⟩
  obtain rfl := (Prod.mk.inj hresult).2
  exact hread hv

/-- A record in which the second field has the name of the first as an alias. -/
def shadowedJson : Json :=
  SchemaJson.recordJson "R" [
    SchemaJson.fieldMembers "x" [] (.object [("name", .string "F"), ("size", .number (.ofInt 1)),
      ("type", .string "fixed")]),
    SchemaJson.fieldMembers "y" ["x"] (.object [("name", .string "G"), ("size", .number (.ofInt 2)),
      ("type", .string "fixed")])]

/-- The schema with the alias. -/
def shadowed : Schema :=
  .named (.record ⟨⟨none, "R"⟩, []⟩ [
    .mk ⟨"x", none, [], []⟩ (.named (.fixed ⟨⟨⟨none, "F"⟩, []⟩, 1⟩)),
    .mk ⟨"y", none, ["x"], []⟩ (.named (.fixed ⟨⟨⟨none, "G"⟩, []⟩, 2⟩))])

/-- The alias does not keep the document from being read. -/
theorem ofJson?_shadowedJson : Schema.ofJson? shadowedJson = .ok shadowed := by
  have hx (known : Known) : (SchemaJson.read none (.object [("name", .string "F"),
      ("size", .number (.ofInt 1)), ("type", .string "fixed")])).run known =
      .ok (.named (.fixed ⟨⟨⟨none, "F"⟩, []⟩, 1⟩),
        known.finish (.fixed ⟨⟨⟨none, "F"⟩, []⟩, 1⟩) []) := by
    rw [SchemaJson.read, SchemaJson.readObject_fixed (by cbv) (by cbv)]
    cbv
  have hy (known : Known) : (SchemaJson.read none (.object [("name", .string "G"),
      ("size", .number (.ofInt 2)), ("type", .string "fixed")])).run known =
      .ok (.named (.fixed ⟨⟨⟨none, "G"⟩, []⟩, 2⟩),
        known.finish (.fixed ⟨⟨⟨none, "G"⟩, []⟩, 2⟩) []) := by
    rw [SchemaJson.read, SchemaJson.readObject_fixed (by cbv) (by cbv)]
    cbv
  exact Schema.ofJson?_of_run (SchemaJson.run_read_recordJson (by cbv)
    (SchemaJson.run_readFields_fieldMembers (by cbv) rfl (hx _)
      (SchemaJson.run_readFields_fieldMembers (by cbv) rfl (hy _) SchemaJson.run_readFields_nil))
    (by cbv))

/-- An enum in a namespace, with fewer symbols than the one without. -/
def narrow : Definition :=
  .enum ⟨⟨some "b", "C"⟩, [("default", .string "P")]⟩ ["P"] (some "P")

/-- A record without a namespace that refers to an enum without one, inside a record with a
namespace that has an enum of this name as well. -/
def mixedJson : Json :=
  SchemaJson.recordJson "R" [
    SchemaJson.fieldMembers "c" [] (.object [("name", .string "C"),
      ("symbols", .array [.string "P", .string "Q"]), ("type", .string "enum")]),
    SchemaJson.fieldMembers "b" [] (SchemaJson.recordJson "b.B" [
      SchemaJson.fieldMembers "h" [] (.object [("default", .string "P"), ("name", .string "C"),
        ("symbols", .array [.string "P"]), ("type", .string "enum")]),
      SchemaJson.fieldMembers "d" [] (SchemaJson.recordJson ".D" [
        SchemaJson.fieldMembers "z" [] (.string "C")])])]

/-- The schema with the two enums. -/
def mixed : Schema :=
  .named (.record ⟨⟨none, "R"⟩, []⟩ [
    .mk ⟨"c", none, [], []⟩ (.named (.enum ⟨⟨none, "C"⟩, []⟩ ["P", "Q"] none)),
    .mk ⟨"b", none, [], []⟩ (.named (.record ⟨⟨some "b", "B"⟩, []⟩ [
      .mk ⟨"h", none, [], []⟩ (.named narrow),
      .mk ⟨"d", none, [], []⟩ (.named (.record ⟨⟨none, "D"⟩, []⟩ [
        .mk ⟨"z", none, [], []⟩ (.reference ⟨none, "C"⟩)]))]))])

/-- The two enums do not keep the document from being read: the reference is to the one without a
namespace. -/
theorem ofJson?_mixedJson : Schema.ofJson? mixedJson = .ok mixed := by
  have hc (known : Known) : (SchemaJson.read none (.object [("name", .string "C"),
      ("symbols", .array [.string "P", .string "Q"]), ("type", .string "enum")])).run known =
      .ok (.named (.enum ⟨⟨none, "C"⟩, []⟩ ["P", "Q"] none),
        known.finish (.enum ⟨⟨none, "C"⟩, []⟩ ["P", "Q"] none) []) := by
    rw [SchemaJson.read, SchemaJson.readObject_enum (by cbv) (by cbv)]
    cbv
  have hh (known : Known) : (SchemaJson.read (some "b") (.object [("default", .string "P"),
      ("name", .string "C"), ("symbols", .array [.string "P"]), ("type", .string "enum")])).run
      known = .ok (.named narrow, known.finish narrow []) := by
    rw [SchemaJson.read, SchemaJson.readObject_enum (by cbv) (by cbv)]
    cbv
  exact Schema.ofJson?_of_run (SchemaJson.run_read_recordJson (by cbv)
    (SchemaJson.run_readFields_fieldMembers (by cbv) rfl (hc _)
      (SchemaJson.run_readFields_fieldMembers (by cbv) rfl
        (SchemaJson.run_read_recordJson (by cbv)
          (SchemaJson.run_readFields_fieldMembers (by cbv) rfl (hh _)
            (SchemaJson.run_readFields_fieldMembers (by cbv) rfl
              (SchemaJson.run_read_recordJson (by cbv)
                (SchemaJson.run_readFields_fieldMembers (by cbv) rfl
                  (SchemaJson.run_read_reference (by cbv) (by cbv) (by rfl))
                  SchemaJson.run_readFields_nil)
                (by cbv))
              SchemaJson.run_readFields_nil))
          (by cbv))
        SchemaJson.run_readFields_nil))
    (by cbv))

/-- A fixed type of two bytes. -/
def twoBytesJson : Json :=
  .object [("name", .string "F"), ("size", .number (.ofInt 2)), ("type", .string "fixed")]

/-- The schema of two bytes. -/
def twoBytes : Schema :=
  .named (.fixed ⟨⟨⟨none, "F"⟩, []⟩, 2⟩)

/-- A document with a fixed type of two bytes. -/
theorem ofJson?_twoBytesJson : Schema.ofJson? twoBytesJson = .ok twoBytes := by
  have hrun : (SchemaJson.read none twoBytesJson).run Known.empty =
      .ok (twoBytes, Known.empty.finish (.fixed ⟨⟨⟨none, "F"⟩, []⟩, 2⟩) []) := by
    rw [twoBytesJson, SchemaJson.read, SchemaJson.readObject_fixed (by cbv) (by cbv)]
    cbv
  exact Schema.ofJson?_of_run hrun

/-- A text of two bytes is written for the first field, which takes one, and the bytes of both
fields are read as if they were cut after the first. -/
theorem loses_shadowed :
    Loses shadowedJson shadowed (.record [("x", .string "ab"), ("y", .fixed 2 [0, 0])]) := by
  have hresolved : shadowed.resolve? (.record [("x", .string "ab"), ("y", .fixed 2 [0, 0])]) =
      .ok (.record [("x", .fixed 2 [97, 98]), ("y", .fixed 2 [0, 0])]) := by cbv
  have hframe : ParsedSchema.frameValue ⟨1, .bare shadowedJson, shadowed⟩
      (.record [("x", .string "ab"), ("y", .fixed 2 [0, 0])]) =
      .ok (Frame.encode 1 [97, 98, 0, 0]) := by cbv
  have hread : shadowed.decode? [97, 98, 0, 0] =
      some (.record [("x", .fixed 1 [97]), ("y", .fixed 2 [98, 0])]) := by cbv
  refine loses rfl (by cbv) (by cbv) ofJson?_shadowedJson ?_ hframe hresolved ?_ ?_
  · simp [shadowed, Schema.Every, Definition.Every, EveryField, Schema.IsPlain]
  · simp [Value.Legible, Value.LegibleFields]
  · rw [hread]
    simp [Value.sorted, Value.sortedEntries]

/-- A symbol of the wide enum is written with an index that the narrow enum of the same name does
not have, and cannot be read. -/
theorem loses_mixed :
    Loses mixedJson mixed (.record [("c", .string "P"),
      ("b", .record [("h", .string "P"), ("d", .record [("z", .string "Q")])])]) := by
  have hresolved : mixed.resolve? (.record [("c", .string "P"),
      ("b", .record [("h", .string "P"), ("d", .record [("z", .string "Q")])])]) =
      .ok (.record [("c", .enum 0 "P"),
        ("b", .record [("h", .enum 0 "P"), ("d", .record [("z", .enum 1 "Q")])])]) := by cbv
  have hframe : ParsedSchema.frameValue ⟨1, .bare mixedJson, mixed⟩ (.record [("c", .string "P"),
      ("b", .record [("h", .string "P"), ("d", .record [("z", .string "Q")])])]) =
      .ok (Frame.encode 1 [0, 0, 2]) := by cbv
  have hread : mixed.decode? [0, 0, 2] = none := by cbv
  refine loses rfl (by cbv) (by cbv) ofJson?_mixedJson ?_ hframe hresolved ?_ ?_
  · simp [mixed, narrow, Schema.Every, Definition.Every, EveryField, Schema.IsPlain]
  · simp only [Value.Legible, Value.LegibleFields]
    decide
  · rw [hread]
    simp

/-- Of three bytes that say they are two, all are written and two are read. -/
theorem loses_twoBytes : Loses twoBytesJson twoBytes (.fixed 2 [1, 2, 3]) := by
  have hresolved : twoBytes.resolve? (.fixed 2 [1, 2, 3]) = .ok (.fixed 2 [1, 2, 3]) := by cbv
  have hframe : ParsedSchema.frameValue ⟨1, .bare twoBytesJson, twoBytes⟩ (.fixed 2 [1, 2, 3]) =
      .ok (Frame.encode 1 [1, 2, 3]) := by cbv
  have hread : twoBytes.decode? [1, 2, 3] = some (.fixed 2 [1, 2]) := by cbv
  refine loses rfl (by cbv) (by cbv) ofJson?_twoBytesJson ?_ hframe hresolved ?_ ?_
  · simp [twoBytes, Schema.Every, Definition.Every, Schema.IsPlain]
  · simp [Value.Legible]
  · rw [hread]
    simp [Value.sorted]

/-- What is written is not always read back: not when a field has the name of another one as an
alias, not when the name of an enum is also that of one in the namespace around a reference to it,
and not when a fixed value does not have as many bytes as it says. -/
theorem deserializeValue_fails :
    Loses shadowedJson shadowed (.record [("x", .string "ab"), ("y", .fixed 2 [0, 0])]) ∧
      Loses mixedJson mixed (.record [("c", .string "P"),
        ("b", .record [("h", .string "P"), ("d", .record [("z", .string "Q")])])]) ∧
      Loses twoBytesJson twoBytes (.fixed 2 [1, 2, 3]) :=
  ⟨loses_shadowed, loses_mixed, loses_twoBytes⟩

end Serializing

end FramedAvro
