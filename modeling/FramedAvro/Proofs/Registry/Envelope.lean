import FramedAvro.Proofs.Avro.Flat
import FramedAvro.Proofs.Json.Depth
import FramedAvro.Proofs.Registry.Fetch
import FramedAvro.Proofs.Registry.Refusal
import FramedAvro.Registry.ParsedSchema

/-!
# Envelopes

A schema is answered as the text in an envelope or bare, and which of the two it is gets settled by
one look at the body. Nothing of the schema is lost by it. The text in an envelope is kept to the
letter. A bare document is read and written again, which changes its text but not its value, and
what is written is read as the same document. A body that is no JSON is itself the text. So a schema
is parsed alike whichever way it was answered.

The two ways differ in how often the schema is read. From an envelope it is read once, as it was
written. A bare document is read a second time with its members in order, and so an object must not
be one for the first time and a number for the second time. And an envelope has to be read itself,
so it must not be refused for what stands beside the schema.

## Main definitions

* `Document.Encloses`: a body is an envelope of a text.
* `Document.IsBare`: a body is a document and no envelope.
* `ParsedSchema.Alike`: schemas that were parsed alike.

## Main results

* `Document.keeps_schema`: what is kept of a body.
* `Document.loses_schema`: bodies with the key of numbers, or too deep.
-/

namespace FramedAvro

/-- The same schema under the same id, or failures that differ at most in the text that they quote,
or no answer at all. -/
inductive ParsedSchema.Alike : Outcome ParsedSchema → Outcome ParsedSchema → Prop
  | parsed {own other : ParsedSchema} (id : own.id = other.id)
      (schema : own.schema = other.schema) : Alike (.ok own) (.ok other)
  | failed {own other : Failure} (kind : own.kind = other.kind)
      (message : own.message = other.message) (retriable : own.retriable = other.retriable) :
      Alike (.error (.failed own)) (.error (.failed other))
  | crashed : Alike (.error .crashed) (.error .crashed)

/-- Documents whose texts are read as one value are parsed alike. -/
theorem ParsedSchema.alike_of_parseSorted? {document other : Document}
    (h : Json.parseSorted? document.text = Json.parseSorted? other.text) (id : UInt32) :
    Alike (parse id document) (parse id other) := by
  have hschema : Avro.Schema.parse? document.text = Avro.Schema.parse? other.text := by
    rw [Avro.Schema.parse?, Avro.Schema.parse?, h]
  rw [parse, parse, hschema]
  rcases Avro.Schema.parse? other.text with (_ | _) | schema
  · exact .failed rfl rfl rfl
  · exact .crashed
  · exact .parsed rfl rfl

namespace Document

/-- The body is an envelope of the text: an object whose last member `schema` is this text. It is
read if not too deep, and if what is taken for a number in it spells one. -/
def Encloses (body schema : String) : Prop :=
  ∃ j, Json.Reads body j ∧ j.depth ≤ Json.maxDepth ∧ j.Spelled ∧
    Json.enter? (.member "schema") j = some (.string schema)

/-- The body is a document that is no object with a member `schema`, and whose objects are not
taken for numbers once their members are in order. -/
def IsBare (body : String) : Prop :=
  ∃ j, Json.Reads body j ∧ Json.enter? (.member "schema") j = none ∧ j.Steady

/-- The key of an envelope is not the key of numbers. -/
theorem schema_ne_numberKey : "schema" ≠ Json.numberKey := by
  decide

/-- The text in an envelope is what is received. -/
theorem ofBody_of_encloses {body schema : String} (h : Encloses body schema) :
    ofBody body = wrapped schema := by
  obtain ⟨j, hreads, hdepth, hspelled, hschema⟩ := h
  obtain ⟨sorted, hsorted⟩ := Json.exists_sorted_iff.2 hspelled
  have hmember : sorted.get? "schema" = some (.string schema) := by
    have hrel := Json.rel_get?_of_sorted hsorted schema_ne_numberKey
    rw [hschema] at hrel
    generalize sorted.get? "schema" = member at hrel ⊢
    cases hrel with
    | some hvalue => rw [Option.some.inj hvalue]
  rw [ofBody, Json.parseSorted?, Json.parse?_eq_some_iff.2 ⟨hreads, hdepth⟩, Option.bind_some,
    hsorted]
  simp only [ofJson, hmember]

/-- A body that is not read is itself the text of the schema. -/
theorem ofBody_of_refused {body : String} (h : Json.parseSorted? body = none) :
    ofBody body = wrapped body := by
  rw [ofBody, h]

/-- What is not JSON is not read. -/
theorem parseSorted?_eq_none {body : String} (h : ∀ j, ¬Json.Reads body j) :
    Json.parseSorted? body = none := by
  refine Option.eq_none_iff_forall_ne_some.2 fun sorted hsorted => ?_
  obtain ⟨j, hreads, -⟩ := Json.exists_parseSorted?_iff.1 ⟨sorted, hsorted⟩
  exact h j hreads

/-- A bare document is refused, or it is received and what is written for it is read as it was. -/
theorem IsBare.cases {body : String} (h : IsBare body) :
    Json.parseSorted? body = none ∧ ofBody body = wrapped body ∨
      ∃ content, Json.parseSorted? body = some content ∧ ofBody body = bare content ∧
        Json.parseSorted? content.text = some content := by
  obtain ⟨j, hreads, hmember, hsteady⟩ := h
  cases hread : Json.parseSorted? body with
  | none => exact .inl ⟨rfl, ofBody_of_refused hread⟩
  | some content =>
      obtain ⟨own, hown, hsorted⟩ := Option.bind_eq_some_iff.1 hread
      obtain rfl := (Json.parse?_eq_some_iff.1 hown).1.unique hreads
      have hbare : content.get? "schema" = none := by
        have hrel := Json.rel_get?_of_sorted hsorted schema_ne_numberKey
        rw [hmember] at hrel
        generalize content.get? "schema" = member at hrel ⊢
        cases hrel
        rfl
      have hagain := Json.parseSorted?_text hread (hsteady.unreserved_sorted hsorted)
      refine .inr ⟨content, rfl, ?_, hagain⟩
      rw [ofBody, hread]
      simp only [ofJson, hbare]

/-- What is written for a bare document is received as the document. -/
theorem IsBare.ofBody_text {body : String} (h : IsBare body) :
    ofBody (ofBody body).text = ofBody body := by
  rcases h.cases with ⟨-, hbody⟩ | ⟨content, hread, hbody, hagain⟩
  · rw [hbody, text, hbody]
  · rw [hbody, text, ofBody, hagain, ← hbody, ofBody, hread]

/-- What is written for a bare document is read as the body is. -/
theorem IsBare.parseSorted?_text {body : String} (h : IsBare body) :
    Json.parseSorted? (ofBody body).text = Json.parseSorted? body := by
  rcases h.cases with ⟨-, hbody⟩ | ⟨content, hread, hbody, hagain⟩
  · rw [hbody, text]
  · rw [hbody, text, hagain, hread]

/-- A schema without an envelope is kept with its canonical text. -/
theorem IsBare.canonicalText_eq {body : String} (h : IsBare body) :
    canonicalText (ofBody body).text = canonicalText body := by
  rcases h.cases with ⟨-, hbody⟩ | ⟨content, hread, -, -⟩
  · rw [hbody, text]
  · rw [canonicalText, canonicalText, schemaJson, schemaJson, h.parseSorted?_text, hread]

/-- Receiving a body loses nothing of the schema in it. The text in an envelope stays as it is, a
bare document keeps its canonical text and is received again from what is written for it, and what
is no JSON is kept. So a bare document and an envelope of its text are parsed alike. -/
theorem keeps_schema :
    (∀ body schema, Encloses body schema →
      ofBody body = wrapped schema ∧ (ofBody body).text = schema) ∧
    (∀ body, IsBare body → canonicalText (ofBody body).text = canonicalText body ∧
      ofBody (ofBody body).text = ofBody body) ∧
    (∀ body, (∀ j, ¬Json.Reads body j) → (ofBody body).text = body) ∧
    ∀ id schema envelope, IsBare schema → Encloses envelope schema →
      ParsedSchema.Alike (ParsedSchema.parse id (ofBody schema))
        (ParsedSchema.parse id (ofBody envelope)) := by
  refine ⟨?enclosed, fun body h => ⟨h.canonicalText_eq, h.ofBody_text⟩, ?nothing, ?alike⟩
  case enclosed =>
    intro body schema h
    rw [ofBody_of_encloses h]
    exact ⟨rfl, rfl⟩
  case nothing =>
    intro body h
    rw [ofBody_of_refused (parseSorted?_eq_none h)]
    rfl
  case alike =>
    intro id schema envelope hbare hencloses
    refine ParsedSchema.alike_of_parseSorted? ?_ id
    rw [hbare.parseSorted?_text, ofBody_of_encloses hencloses, text]

/-- An envelope with another member and with one that is overwritten. -/
def crowdedEnvelope : String :=
  "\x7b \"schema\" : null, \"id\" : [1, 2],\n\"schema\" : \"\\u0022int\\u0022\" \x7d"

/-- An envelope with other members beside its schema, and a schema without one. -/
theorem keeps_schema_crowded :
    Encloses crowdedEnvelope "\"int\"" ∧ IsBare "\"int\"" ∧
      (ofBody crowdedEnvelope).text = "\"int\"" ∧
      ofBody (ofBody "\"int\"").text = ofBody "\"int\"" ∧
      ParsedSchema.Alike (ParsedSchema.parse 7 (ofBody "\"int\""))
        (ParsedSchema.parse 7 (ofBody crowdedEnvelope)) := by
  have hread : Json.parse? crowdedEnvelope = some (.object [("schema", .null),
      ("id", .array [.number (.ofInt 1), .number (.ofInt 2)]), ("schema", .string "\"int\"")]) := by
    cbv
  have hencloses : Encloses crowdedEnvelope "\"int\"" := by
    obtain ⟨hreads, hdepth⟩ := Json.parse?_eq_some_iff.1 hread
    refine ⟨_, hreads, hdepth, ?_, by rfl⟩
    intro members hmembers hstarts
    simp at hmembers
    subst hmembers
    exact absurd hstarts (by simp [Json.StartsWithNumberKey, Json.numberKey])
  have hbare : IsBare "\"int\"" := by
    have hown : Json.parse? "\"int\"" = some (.string "int") := by cbv
    refine ⟨_, (Json.parse?_eq_some_iff.1 hown).1, rfl, ?_⟩
    intro members value hmembers
    simp at hmembers
  obtain ⟨henclosed, hagain, -, halike⟩ := keeps_schema
  exact ⟨hencloses, hbare, (henclosed _ _ hencloses).2, (hagain _ hbare).2,
    halike 7 _ _ hbare hencloses⟩

/-- An envelope in which too many arrays stand beside the schema. -/
def deepEnvelope : Json :=
  .object [("deep", Registration.nested 127), ("schema", .string "x")]

/-- An envelope that starts with the key of numbers. -/
def numberEnvelope : String :=
  "\x7b\"$serde_json::private::Number\":\"1\",\"schema\":\"x\"\x7d"

/-- A schema in which the key of numbers is the least. -/
def numberSchema : String :=
  "\x7b\"type\":\"int\",\"$serde_json::private::Number\":\"1\"\x7d"

/-- An envelope that is nested as deep as a body may be, so that its own text is too deep. -/
theorem parseSorted?_deepEnvelope : Json.parseSorted? deepEnvelope.text = none := by
  have hdepth : Json.maxDepth < deepEnvelope.depth := by
    have hmembers : deepEnvelope.depth =
        max (Registration.nested 127).depth (max (Json.string "x").depth 0) + 1 := rfl
    rw [hmembers, Registration.depth_nested]
    decide
  rw [Json.parseSorted?, Json.parse?_text_eq_none hdepth]
  rfl

/-- An envelope that starts with the key of numbers, read member by member. -/
theorem parse?_numberEnvelope : Json.parse? numberEnvelope =
    some (.object [(Json.numberKey, .string "1"), ("schema", .string "x")]) := by
  cbv

/-- A schema with the key of numbers, which is not its first. -/
theorem parse?_numberSchema : Json.parse? numberSchema =
    some (.object [("type", .string "int"), (Json.numberKey, .string "1")]) := by
  cbv

/-- The same schema with its members in order, where the key of numbers is the first. -/
theorem parseSorted?_numberSchema : Json.parseSorted? numberSchema =
    some (.object [(Json.numberKey, .string "1"), ("type", .string "int")]) := by
  rw [Json.parseSorted?, parse?_numberSchema, Option.bind_some]
  cbv

/-- As it was written the schema is one of ints. -/
theorem parse?_schema_numberSchema :
    Avro.Schema.parse? numberSchema = .ok (.primitive .int) := by
  have hlogical : Entries.get? "logicalType"
      [(Json.numberKey, Json.string "1"), ("type", .string "int")] = none := by rfl
  have htype : Entries.get? "type" [(Json.numberKey, Json.string "1"), ("type", .string "int")] =
      some (.string "int") := by rfl
  have hrun : (Avro.SchemaJson.read none
      (.object [(Json.numberKey, .string "1"), ("type", .string "int")])).run .empty =
        .ok (.primitive .int, .empty) := by
    rw [Avro.SchemaJson.read, Avro.SchemaJson.readObject_other hlogical htype (by rfl)]
    exact Avro.Column.run_read_word none .int .empty
  exact Avro.Schema.parse?_eq_ok_iff.2
    ⟨_, parseSorted?_numberSchema, Avro.Schema.ofJson?_of_run hrun⟩

/-- With the key of numbers in the first place the schema is refused. -/
theorem parseSorted?_text_numberSchema : Json.parseSorted? (ofBody numberSchema).text = none := by
  rw [ofBody, parseSorted?_numberSchema]
  cbv

/-- Envelopes that are refused are taken for the schema, and a schema in which the key of numbers
becomes the first is refused when it is read again. -/
theorem loses_schema :
    (∃ j, Json.Reads deepEnvelope.text j ∧
      Json.enter? (.member "schema") j = some (.string "x") ∧
      (ofBody deepEnvelope.text).text ≠ "x") ∧
    (∃ j, Json.Reads numberEnvelope j ∧ Json.enter? (.member "schema") j = some (.string "x") ∧
      (ofBody numberEnvelope).text ≠ "x") ∧
    ∃ j, Json.Reads numberSchema j ∧ j.HasPlainNumbers ∧
      Json.enter? (.member "schema") j = none ∧
      (∃ canonical, canonicalText numberSchema = .ok canonical) ∧
      (∃ failure, canonicalText (ofBody numberSchema).text = .error failure) ∧
      (∃ failure, ParsedSchema.parse 1 (ofBody numberSchema) = .error (.failed failure)) ∧
      ∃ parsed, ParsedSchema.parse 1 (wrapped numberSchema) = .ok parsed := by
  refine ⟨?deep, ?first, ?least⟩
  case deep =>
    refine ⟨_, Json.reads_text _, by rfl, ?_⟩
    rw [ofBody_of_refused parseSorted?_deepEnvelope, text]
    decide +kernel
  case first =>
    exact ⟨_, (Json.parse?_eq_some_iff.1 parse?_numberEnvelope).1, by rfl, by decide +kernel⟩
  case least =>
    refine ⟨_, (Json.parse?_eq_some_iff.1 parse?_numberSchema).1, ?plain, by rfl,
      ⟨_, canonicalText_eq_ok_iff.2 ⟨_, parseSorted?_numberSchema, rfl⟩⟩, ?refused, ?unparsed,
      ⟨1, wrapped numberSchema, .primitive .int⟩, ?parsed⟩
    case plain =>
      intro n hn
      simp at hn
    case refused =>
      rw [canonicalText, schemaJson, parseSorted?_text_numberSchema]
      exact ⟨_, rfl⟩
    case unparsed =>
      rw [ParsedSchema.parse, Avro.Schema.parse?, parseSorted?_text_numberSchema]
      exact ⟨_, rfl⟩
    case parsed => exact ParsedSchema.parse_eq_ok_iff.2 ⟨rfl, rfl, parse?_schema_numberSchema⟩

end Document

end FramedAvro
