import FramedAvro.Proofs.Json.Depth
import FramedAvro.Registry.Remote.Call

/-!
# Posted bodies

A schema is posted as a string inside a JSON object, and it is itself JSON as a rule, with quotes
and backslashes all over it. Whatever it is, and whatever the artifact is called, a body has one
value, in which each string is the one that was given and stands in its own place. So the body says
neither less nor more than the strings, and no string has a say in what stands elsewhere.

## Main definitions

* `artifactPosting`, `versionPosting`: what a registry is to read in a body.
* `Json.IsWritten`: a text from which one value is read.

## Main results

* `posted_bodies`: what is read in a body, and that it is told by its strings.
-/

namespace FramedAvro

namespace Json

/-- The text is JSON with one value, and its members are in order already. -/
structure IsWritten (text : String) (j : Json) : Prop where
  reads_iff : ∀ other, Reads text other ↔ other = j
  parse?_eq : parse? text = some j
  parseSorted?_eq : parseSorted? text = some j

/-- What is written for a value that is not too deep and has its members in order is read as this
value only. -/
theorem isWritten_text {j : Json} (hdepth : j.depth ≤ maxDepth) (hsorted : j.sorted? = some j) :
    IsWritten j.text j where
  reads_iff _ := reads_text_iff
  parse?_eq := parse?_text hdepth
  parseSorted?_eq := parseSorted?_of_sorted? hdepth hsorted

/-- Texts from which the same is read are the same, as far as they are written by the printer. -/
theorem text_eq_text_iff {j other : Json} : j.text = other.text ↔ j = other :=
  ⟨text_injective, congrArg text⟩

end Json

/-! ### What is posted -/

/-- A version with a schema, as JSON. -/
def versionPosting (schema : String) : Json :=
  .object [("content", .object [("content", .string schema),
    ("contentType", .string "application/json")])]

/-- An artifact of a kind with a first version, as JSON. -/
def artifactPosting (name kind schema : String) : Json :=
  .object [("artifactId", .string name), ("artifactType", .string kind),
    ("firstVersion", .object [("content", .object [("content", .string schema),
      ("contentType", .string "application/json")])])]

/-- The body that creates an artifact is written for what it posts. -/
theorem isWritten_createArtifactBody (name : String) (type : ArtifactType) (schema : String) :
    Json.IsWritten (createArtifactBody name type schema)
      (artifactPosting name type.name schema) := by
  have hdepth : (artifactPosting name type.name schema).depth = 3 := rfl
  exact Json.isWritten_text (hdepth ▸ by decide) (by cbv)

/-- The body that creates a version is written for what it posts. -/
theorem isWritten_createVersionBody (schema : String) :
    Json.IsWritten (createVersionBody schema) (versionPosting schema) := by
  have hdepth : (versionPosting schema).depth = 2 := rfl
  exact Json.isWritten_text (hdepth ▸ by decide) (by cbv)

/-! ### Where the strings stand -/

/-- The places of a version are told by its schema, which stands in one of them. -/
theorem at?_versionPosting {schema schema' : String} {path : List Json.Step}
    (h : path = [.member "content", .member "content"] → schema = schema') :
    (versionPosting schema).at? path = (versionPosting schema').at? path := by
  refine Json.at?_object_congr [] [] fun inner hinner => ?_
  refine Json.at?_object_congr [] [("contentType", .string "application/json")] fun rest hrest => ?_
  exact Json.at?_string_congr fun hend => h (by rw [hinner, hrest, hend])

/-- The places of an artifact are told by its strings, each of which stands in one of them. -/
theorem at?_artifactPosting {name kind schema name' kind' schema' : String}
    {path : List Json.Step} (hname : path = [.member "artifactId"] → name = name')
    (hkind : path = [.member "artifactType"] → kind = kind')
    (hschema : path = [.member "firstVersion", .member "content", .member "content"] →
      schema = schema') :
    (artifactPosting name kind schema).at? path =
      (artifactPosting name' kind' schema').at? path := by
  calc (artifactPosting name kind schema).at? path
      = (artifactPosting name' kind schema).at? path :=
        Json.at?_object_congr [] _ fun rest hrest =>
          Json.at?_string_congr fun hend => hname (by rw [hrest, hend])
    _ = (artifactPosting name' kind' schema).at? path :=
        Json.at?_object_congr [("artifactId", .string name')] _ fun rest hrest =>
          Json.at?_string_congr fun hend => hkind (by rw [hrest, hend])
    _ = (artifactPosting name' kind' schema').at? path :=
        Json.at?_object_congr [("artifactId", .string name'), ("artifactType", .string kind')] []
          fun rest hrest => at?_versionPosting fun hend => hschema (by rw [hrest, hend])

/-! ### Bodies -/

/-- A body for an artifact is JSON for an object with the name, the type and the schema that were
given and nothing else but the type of the content, and so is a body for a version with its schema.
Bodies are the same only if all these strings are, and what stands at a place in them depends on no
string but the one that stands there. -/
theorem posted_bodies :
    (∀ name type schema, Json.IsWritten (createArtifactBody name type schema)
      (artifactPosting name type.name schema)) ∧
    (∀ schema, Json.IsWritten (createVersionBody schema) (versionPosting schema)) ∧
    (∀ name type schema name' type' schema',
      (createArtifactBody name type schema = createArtifactBody name' type' schema' ↔
        name = name' ∧ type.name = type'.name ∧ schema = schema') ∧
      (createVersionBody schema = createVersionBody schema' ↔ schema = schema')) ∧
    ∀ name type schema name' type' schema' j j',
      (Json.Reads (createArtifactBody name type schema) j →
        Json.Reads (createArtifactBody name' type' schema') j' → ∀ path,
          (path = [.member "artifactId"] → name = name') →
          (path = [.member "artifactType"] → type.name = type'.name) →
          (path = [.member "firstVersion", .member "content", .member "content"] →
            schema = schema') → j.at? path = j'.at? path) ∧
      (Json.Reads (createVersionBody schema) j → Json.Reads (createVersionBody schema') j' →
        ∀ path, (path = [.member "content", .member "content"] → schema = schema') →
          j.at? path = j'.at? path) := by
  refine ⟨isWritten_createArtifactBody, isWritten_createVersionBody, ?same, ?places⟩
  case same =>
    intro name type schema name' type' schema'
    constructor
    · rw [createArtifactBody, createArtifactBody, Json.text_eq_text_iff]
      simp [versionContent]
    · rw [createVersionBody, createVersionBody, Json.text_eq_text_iff]
      simp [versionContent]
  case places =>
    intro name type schema name' type' schema' j j'
    constructor
    · intro hreads hreads' path hname hkind hschema
      rw [((isWritten_createArtifactBody name type schema).reads_iff j).1 hreads,
        ((isWritten_createArtifactBody name' type' schema').reads_iff j').1 hreads']
      exact at?_artifactPosting hname hkind hschema
    · intro hreads hreads' path hschema
      rw [((isWritten_createVersionBody schema).reads_iff j).1 hreads,
        ((isWritten_createVersionBody schema').reads_iff j').1 hreads']
      exact at?_versionPosting hschema

/-- A name that goes on with the type of the artifact when it is put between quotes as it is. -/
def forgedName : String :=
  "order\",\"artifactType\":\"JSON"

/-- A name that looks like the end of its string and a member after it: the type that the body says
is the same as for any other name. -/
theorem posted_bodies_forged :
    createArtifactBody forgedName .avro "\"int\"" ≠ createArtifactBody "order" .avro "\"int\"" ∧
      ∃ forged plain, Json.Reads (createArtifactBody forgedName .avro "\"int\"") forged ∧
        Json.Reads (createArtifactBody "order" .avro "\"int\"") plain ∧
        plain.at? [.member "artifactType"] = some (.string "AVRO") ∧
        forged.at? [.member "artifactType"] = plain.at? [.member "artifactType"] := by
  obtain ⟨hartifact, -, hsame, hplaces⟩ := posted_bodies
  have hforged := ((hartifact forgedName .avro "\"int\"").reads_iff _).2 rfl
  have hplain := ((hartifact "order" .avro "\"int\"").reads_iff _).2 rfl
  refine ⟨fun hbody => ?_, _, _, hforged, hplain, by cbv, ?_⟩
  · have hname := ((hsame forgedName .avro "\"int\"" "order" .avro "\"int\"").1.1 hbody).1
    exact absurd hname (by decide)
  · refine (hplaces _ _ _ _ _ _ _ _).1 hforged hplain _ (fun helsewhere => ?_) (fun _ => rfl)
      fun _ => rfl
    simp at helsewhere

end FramedAvro
