import FramedAvro.Proofs.Json.Canonical
import FramedAvro.Proofs.Registry.Changes

/-!
# Fetching what was registered

A document is kept as the value that its text was read as, and fetching it by its id goes through
the same step as the body of an answer: an object with a member `schema` is an envelope, and what is
fetched is the schema in it. Every other text is fetched back as a document with the same canonical
text, whoever registered the content first and with which formatting.

The canonical text of the document is that of the value read again from the text it is written as,
so the value must not have objects that are read as numbers.

## Main results

* `Registration.fetchById_eq_ofBody`: what is registered is fetched as the body of an answer is
  read.
* `Registration.canonicalText_fetchById`: it has the canonical text of what was registered.
* `Registration.canonicalText_fetchById_envelope`: an envelope, and an object with the key of
  numbers.
-/

namespace FramedAvro

/-- The document of a text that is no envelope has the canonical text of that text. -/
theorem Document.canonicalText_ofBody {schema : String} {content : Json}
    (hread : Json.parseSorted? schema = some content) (hbare : content.get? "schema" = none)
    (hfree : content.Unreserved) :
    canonicalText (ofBody schema).text = .ok content.text := by
  have hbody : ofBody schema = bare content := by
    rw [ofBody, hread]
    simp only
    rw [ofJson, hbare]
  rw [hbody, text]
  exact canonicalText_eq_ok_iff.2 ⟨content, Json.parseSorted?_text hread hfree, rfl⟩

/-- Stored content is fetched by its id. -/
theorem Memory.Stores.fetchById {memory after : Memory} {coordinate : Coordinate} {schema : String}
    {content : Json} {id : UInt32} (stores : Stores memory coordinate schema content id after)
    (h : Faithful after) : after.fetchById id = .ok (Document.ofJson content) := by
  rw [Memory.fetchById, h.get?_documents stores.get?_contents]

namespace Registration

/-- A call that was answered with an id has stored the content of its text. -/
theorem exists_stores_of_perform {call : Registration} {memory : Memory} {id : UInt32}
    (h : (call.action.perform memory).1 = .ok id) :
    ∃ content, schemaJson call.schema = .ok content ∧
      Memory.Stores memory call.coordinate call.schema content id
        (call.action.perform memory).2 := by
  have hperforms := call.performs memory
  rw [h] at hperforms
  cases hperforms with
  | stored hcontent reached stores => exact ⟨_, hcontent, stores⟩

/-- What was registered is fetched, now and after any other calls, as the body of an answer with the
same text is read. -/
theorem fetchById_eq_ofBody {memory : Memory} (hmemory : memory.Faithful) {call : Registration}
    {id : UInt32} (hid : (call.action.perform memory).1 = .ok id) (more : List Registration) :
    (performAll more (call.action.perform memory).2).2.fetchById id =
      .ok (Document.ofBody call.schema) := by
  obtain ⟨content, hcontent, stores⟩ := exists_stores_of_perform hid
  -- Another call may have stored the content before, formatted otherwise; the value is the same.
  have hfetched := stores.fetchById (stores.faithful hcontent hmemory)
  rw [Document.ofBody_of_schemaJson hcontent]
  exact (performAll_grows more _).fetchById hfetched

/-- A registered text that is no envelope is fetched back with the same canonical text, now and
after any other calls. -/
theorem canonicalText_fetchById {changes : List Change}
    (hchanges : ∀ change ∈ changes, change.IsChecked) (call : Registration) {id : UInt32}
    (hid : (call.action.perform (Change.applyAll changes .empty)).1 = .ok id) {content : Json}
    (hread : Json.parseSorted? call.schema = some content) (hbare : content.get? "schema" = none)
    (hfree : content.Unreserved) (more : List Registration) :
    ∃ document canonical,
      ((Memory.registry.fetchById id).perform
        (performAll more (call.action.perform (Change.applyAll changes .empty)).2).2).1 =
          .ok document ∧
      canonicalText document.text = .ok canonical ∧ canonicalText call.schema = .ok canonical := by
  have hfetched := fetchById_eq_ofBody (Change.applyAll_faithful hchanges) hid more
  exact ⟨Document.ofBody call.schema, content.text, Outcome.ofExcept_eq_ok_iff.2 hfetched,
    Document.canonicalText_ofBody hread hbare hfree,
    canonicalText_eq_ok_iff.2 ⟨content, hread, rfl⟩⟩

/-- A registry that was used before it was reset, with an array of ints in it. -/
def resetThenArray : List Change :=
  [.register (.register ⟨"shop", "order"⟩ "\"long\"" .avro), .reset,
    .register (.register ⟨"shop", "order"⟩
      "\x7b \"type\": \"array\", \"items\": \"int\" \x7d" .avro)]

/-- The array of ints, formatted in another way. -/
def otherArray : Registration :=
  .register ⟨"shop", "other"⟩ "\x7b\"items\":\"int\",\"type\":\"array\"\x7d" .avro

/-- A schema that is registered after a reset, spelled in another way, and fetched by its id after
another registration. -/
theorem canonicalText_fetchById_reformatted :
    (∀ change ∈ resetThenArray, change.IsChecked) ∧
      (otherArray.action.perform (Change.applyAll resetThenArray .empty)).1 = .ok 1 ∧
      ∃ document canonical,
        ((Memory.registry.fetchById 1).perform
          (performAll [.registerVersion ⟨"shop", "other"⟩ "\"long\""]
            (otherArray.action.perform (Change.applyAll resetThenArray .empty)).2).2).1 =
            .ok document ∧
        canonicalText document.text = .ok canonical ∧
        canonicalText otherArray.schema = .ok canonical := by
  have hchanges : ∀ change ∈ resetThenArray, change.IsChecked := by
    simp [resetThenArray, Change.IsChecked]
  have hid : (otherArray.action.perform (Change.applyAll resetThenArray .empty)).1 = .ok 1 := by cbv
  have hread : Json.parseSorted? otherArray.schema =
      some (.object [("items", .string "int"), ("type", .string "array")]) := by cbv
  have hfree : Json.Unreserved (.object [("items", .string "int"), ("type", .string "array")]) := by
    intro members hmembers hstarts
    simp at hmembers
    subst hmembers
    exact absurd hstarts (by simp [Json.StartsWithNumberKey, Json.numberKey])
  exact ⟨hchanges, hid, canonicalText_fetchById hchanges otherArray hid hread (by rfl) hfree _⟩

/-- An envelope is fetched as the schema in it, and the object with the key of numbers is fetched as
a document whose text is refused. -/
theorem canonicalText_fetchById_envelope :
    (∃ (call : Registration) (document : Document),
      call.schema = "\x7b\"schema\":\"\\\"int\\\"\"\x7d" ∧
      (call.action.perform .empty).1 = .ok 1 ∧
      (call.action.perform .empty).2.fetchById 1 = .ok document ∧
      canonicalText document.text = .ok "\"int\"" ∧
      canonicalText call.schema = .ok "\x7b\"schema\":\"\\\"int\\\"\"\x7d") ∧
    ∃ (call : Registration) (document : Document) (failure : Failure),
      call.schema = "\x7b\"z\":1,\"$serde_json::private::Number\":\"1\"\x7d" ∧
      (call.action.perform .empty).1 = .ok 1 ∧
      (call.action.perform .empty).2.fetchById 1 = .ok document ∧
      canonicalText document.text = .error failure ∧
      canonicalText call.schema = .ok "\x7b\"$serde_json::private::Number\":\"1\",\"z\":1\x7d" := by
  constructor
  · exact ⟨.register ⟨"shop", "order"⟩ "\x7b\"schema\":\"\\\"int\\\"\"\x7d" .avro,
      .wrapped "\"int\"", rfl, by cbv, by cbv, by cbv, by cbv⟩
  · exact ⟨.register ⟨"shop", "order"⟩
        "\x7b\"z\":1,\"$serde_json::private::Number\":\"1\"\x7d" .avro,
      .bare (.object [(Json.numberKey, .string "1"), ("z", .number (.ofInt 1))]), _, rfl, by cbv,
      by cbv, by cbv, by cbv⟩

end Registration

end FramedAvro
