import FramedAvro.Avro.SchemaJson
import FramedAvro.Outcome
import FramedAvro.Registry.Document

/-!
# Parsed schemas

What a serializer works with: a document of the registry under its id, together with the schema its
text describes.
-/

namespace FramedAvro

/-- A document with its id and its schema. -/
structure ParsedSchema where
  id : UInt32
  document : Document
  schema : Avro.Schema

/-- The schema of the document that the registry has under an id. -/
def ParsedSchema.parse (id : UInt32) (document : Document) : Outcome ParsedSchema := do
  let schema ← Outcome.ofChecked
    (.invalidSchema ("no Avro schema: " ++ document.text)
      ("Could not parse schema with ID " ++ toString id))
    (Avro.Schema.parse? document.text)
  return ⟨id, document, schema⟩

/-- A document is parsed when its text is a schema, and what is parsed has both beside its id. -/
theorem ParsedSchema.parse_eq_ok_iff {id : UInt32} {document : Document} {schema : ParsedSchema} :
    ParsedSchema.parse id document = .ok schema ↔ schema.id = id ∧ schema.document = document ∧
      Avro.Schema.parse? document.text = .ok schema.schema := by
  rw [ParsedSchema.parse, Avro.Checked.bind_eq_ok_iff]
  simp only [Outcome.ofChecked_eq_ok_iff, Avro.Checked.pure_eq_ok, Except.ok.injEq]
  constructor
  · rintro ⟨parsed, hparsed, rfl⟩
    exact ⟨rfl, rfl, hparsed⟩
  · rintro ⟨rfl, rfl, hparsed⟩
    exact ⟨schema.schema, hparsed, rfl⟩

end FramedAvro
