import FramedAvro.Model.Samples
import FramedAvro.Proofs.Avro.Flat
import FramedAvro.Proofs.Json.Sorted
import FramedAvro.Serializer.Payload

/-!
# Models of flat records

An item of such a model is a record with one number or one text in each column, and is read from it
again. The text of the schema may have the members of its objects in any order; the document that it
is read as has them sorted, and its own text describes the same schema.

## Main definitions

* `Model.Flat`: what makes a model one of flat records.

## Main results

* `Model.Flat.readerSchema_eq`, `Model.Flat.parse?_text`: both texts describe the schema.
* `Model.Flat.exists_frameItem`: an item is written, and its contents are read back.
-/

namespace FramedAvro

open Avro

/-! ### Reading parts of items -/

namespace Avro.Value

/-- An int is taken for one. -/
@[simp] theorem asInt_int (i : Int32) : (int i).asInt = some i := by
  have hinteger : (int i).asInteger Int32.minValue.toInt Int32.maxValue.toInt = some i.toInt :=
    if_pos ⟨Int32.minValue_le_toInt i, Int32.toInt_le i⟩
  rw [asInt, hinteger, Option.map_some, Int32.ofInt_toInt]

/-- A long is taken for one. -/
@[simp] theorem asLong_long (i : Int64) : (long i).asLong = some i := by
  have hinteger : (long i).asInteger Int64.minValue.toInt Int64.maxValue.toInt = some i.toInt :=
    if_pos ⟨Int64.minValue_le_toInt i, Int64.toInt_le i⟩
  rw [asLong, hinteger, Option.map_some, Int64.ofInt_toInt]

/-- A string is taken for a text. -/
@[simp] theorem asText_string (text : String) : (string text).asText = some text := rfl

/-- A field is the first one with its name. -/
@[simp] theorem field_cons {α : Type} (name other : String) (read : Value → Option α) (v : Value)
    (rest : List (String × Value)) :
    field name read ((other, v) :: rest) =
      if name = other then read v else field name read rest := by
  rw [field, List.lookup_cons]
  by_cases h : name = other
  · simp [h]
  · simp [h, field, beq_eq_false_iff_ne.2 h]

end Avro.Value

/-! ### Flat models -/

/-- What makes a model one of flat records: the columns and the contents of an item, a schema whose
document has these columns, and an item for the contents. -/
structure Model.Flat {α : Type} (model : Model α) where
  name : String
  space : Option String
  own : Name
  columns : List Column
  contents : α → List (String × Value)
  named : SchemaJson.nameOf none (Column.recordMembers name space columns) = .ok own := by cbv
  schema_eq : Json.parseSorted? model.schema = some (Column.document name space columns)
  sorted : (Column.document name space columns).sorted? =
    some (Column.document name space columns) := by cbv
  readable : columns.all Column.isReadable = true := by cbv
  distinct : SchemaJson.distinctFields [] (columns.map Column.field) = true := by cbv
  holds : ∀ item, List.Forall₂ Column.Holds columns (contents item)
  toValue_eq : ∀ item, model.toValue item = some (.record (contents item))
  ofValue_eq : ∀ item, model.ofValue (.record (contents item)) = some item

namespace Model.Flat

variable {α : Type} {model : Model α} (flat : model.Flat)

/-- The document of the schema. -/
def document : Json :=
  Column.document flat.name flat.space flat.columns

/-- The schema. -/
def schema : Schema :=
  .flat flat.own flat.columns

/-- The text of the model describes the schema. -/
theorem readerSchema_eq : model.readerSchema = .ok flat.schema := by
  have hparse : Schema.parse? model.schema = .ok flat.schema :=
    Schema.parse?_eq_ok_iff.2
      ⟨_, flat.schema_eq, Column.ofJson?_document flat.named flat.readable flat.distinct⟩
  rw [readerSchema, hparse]
  rfl

/-- The text of the document describes the same schema. -/
theorem parse?_text : Schema.parse? flat.document.text = .ok flat.schema := by
  have hparse : Json.parse? flat.document.text = some flat.document :=
    Json.parse?_text_of_parseSorted? flat.schema_eq
  have hread : Json.parseSorted? flat.document.text = some flat.document := by
    rw [Json.parseSorted?, hparse]
    exact flat.sorted
  exact Schema.parse?_eq_ok_iff.2
    ⟨_, hread, Column.ofJson?_document flat.named flat.readable flat.distinct⟩

/-- The document is no envelope. -/
theorem ofBody_schema : Document.ofBody model.schema = .bare flat.document := by
  have hbare : flat.document.get? "schema" = none := by
    rw [document, Column.document]
    cases flat.space <;> rfl
  rw [Document.ofBody, flat.schema_eq]
  dsimp only
  rw [Document.ofJson, ← document, hbare]

/-- The columns of a flat model have different names. -/
theorem nodup_names : (flat.columns.map Column.name).Nodup := by
  rw [← map_name_field]
  exact (SchemaJson.nodup_of_distinctFields flat.distinct).1

/-- An item is written with the schema, and read back from what was written with it when its texts
are not too long. -/
theorem exists_frameItem (id : UInt32) (document : Document) (item : α)
    (hlegible : (Value.record (flat.contents item)).Legible) :
    ∃ payload,
      ParsedSchema.frameItem ⟨id, document, flat.schema⟩ model item =
        .ok (Frame.encode id payload) ∧
      readPayload flat.schema (some flat.schema) payload = .ok (.record (flat.contents item)) := by
  have hresolve : flat.schema.resolve? (.record (flat.contents item)) =
      .ok (.record (flat.contents item)) :=
    Schema.flat_resolve? (flat.holds item) flat.nodup_names
  obtain ⟨payload, hpayload, hread⟩ : ∃ payload,
      flat.schema.encode? (.record (flat.contents item)) = .ok payload ∧
        flat.schema.decode? payload = some (.record (flat.contents item)) :=
    Schema.flat_decode?_encode? (flat.holds item) flat.nodup_names hlegible
  refine ⟨payload, ?_, ?_⟩
  · rw [ParsedSchema.frameItem, flat.toValue_eq]
    dsimp only
    rw [ParsedSchema.frameValue, hresolve]
    simp only [Outcome.ofChecked, Checked.ok_bind, hpayload, Checked.pure_eq_ok]
  · rw [readPayload, hread]
    dsimp only
    rw [hresolve, Outcome.ofChecked]

/-- The contents of an item are read as the item. -/
theorem readItem_contents (item : α) :
    model.readItem (.record (flat.contents item)) = .ok item := by
  rw [readItem, flat.ofValue_eq]

end Model.Flat

end FramedAvro
