import FramedAvro.Failure
import FramedAvro.Json.Parser
import FramedAvro.Json.Printer

/-!
# Schema documents

A registry answers a schema either bare, as the JSON document itself, or as the text in the `schema`
member of an envelope. Which of the two it is gets settled once, on receipt.

## Main definitions

* `Document`: a schema as a registry answered it.
* `Document.ofBody`: the document in the body of an answer.
* `Document.text`: the text of the schema, for a parser.
* `canonicalText`: the one spelling of a JSON document.
-/

namespace FramedAvro

/-- A schema as it was received. -/
inductive Document where
  /-- The schema came as text. -/
  | wrapped (text : String)
  /-- The schema came as a JSON document, whose members are sorted. -/
  | bare (content : Json)

namespace Document

/-- The document a sorted JSON value holds: the member `schema` of an envelope, the value itself
otherwise. -/
def ofJson (j : Json) : Document :=
  match j.get? "schema" with
  | some (.string text) => wrapped text
  | some inner => bare inner
  | none => bare j

/-- The document in the body of an answer. A body that is not JSON is the text of the schema. -/
def ofBody (body : String) : Document :=
  match Json.parseSorted? body with
  | some j => ofJson j
  | none => wrapped body

/-- The text of the schema. -/
def text : Document → String
  | wrapped text => text
  | bare content => content.text

end Document

/-- A schema text that is not JSON. -/
def notJson (schema : String) : Failure :=
  .invalidSchema ("no JSON value: " ++ schema) "Invalid JSON schema content"

/-- The JSON value of a schema text, its members sorted. -/
def schemaJson (schema : String) : Except Failure Json :=
  match Json.parseSorted? schema with
  | some j => .ok j
  | none => .error (notJson schema)

/-- The one spelling of a JSON document: without blanks, the members of objects sorted by their
keys. -/
def canonicalText (schema : String) : Except Failure String :=
  (schemaJson schema).map Json.text

end FramedAvro
