import FramedAvro.Proofs.Registry.Search

/-!
# Fingerprints of the same content

A search compares schemas in two ways, which look at a text differently: by its canonical text as
JSON, and by the fingerprint of the Avro schema that it is. The second way sees at least as much as
the first as the same. A canonical text determines the JSON value that it is the text of, and a
schema is read from this value alone, so texts with one canonical text are the same schema or are
both none.

How a text spells its value plays no part then: the order of the members, blanks, escapes, and
members that are overwritten by later ones, at whatever depth.

## Main definitions

* `Fingerprint.Agree`: texts that are one schema for a search by fingerprint.

## Main results

* `Fingerprint.agree_of_canonicalText`: texts with one canonical text agree.
* `Fingerprint.agree_of_same`: so do texts of the same JSON value.
-/

namespace FramedAvro

/-- A canonical text determines the value that a text is read as. -/
theorem parseSorted?_eq_of_canonicalText {schema other canonical : String}
    (h : canonicalText schema = .ok canonical) (h' : canonicalText other = .ok canonical) :
    Json.parseSorted? schema = Json.parseSorted? other := by
  obtain ⟨j, hj, htext⟩ := canonicalText_eq_ok_iff.1 h
  obtain ⟨k, hk, htext'⟩ := canonicalText_eq_ok_iff.1 h'
  rw [hj, hk, Json.text_injective (htext.trans htext'.symm)]

/-- So does the value that a text has as JSON, when it has one spelling only. -/
theorem parseSorted?_eq_of_same {schema other : String} {j k : Json}
    (hj : Json.parse? schema = some j) (hk : Json.parse? other = some k) (hplain : j.Plain)
    (hplain' : k.Plain) (h : j.Same k) : Json.parseSorted? schema = Json.parseSorted? other := by
  obtain ⟨sorted, hsorted⟩ := Json.exists_sorted hplain.unreserved
  obtain ⟨sorted', hsorted'⟩ := Json.exists_sorted hplain'.unreserved
  have hsame : sorted.Same sorted' :=
    ((Json.same_of_sorted hplain.unreserved hsorted).trans h).trans
      (Json.same_of_sorted hplain'.unreserved hsorted').symm
  rw [Json.parseSorted?, Json.parseSorted?, hj, hk, Option.bind_some, Option.bind_some, hsorted,
    hsorted', Json.eq_of_same hsame (hplain.normal hsorted) (hplain'.normal hsorted')]

namespace Fingerprint

/-- Two texts have a fingerprint or both have none, and they have the same one. -/
structure Agree (schema other : String) : Prop where
  exists_iff : (∃ fingerprint, ofSchema schema = .ok fingerprint) ↔
    ∃ fingerprint, ofSchema other = .ok fingerprint
  eq : ∀ fingerprint own, ofSchema schema = .ok fingerprint → ofSchema other = .ok own →
    fingerprint = own

/-- A schema is read from a value, so one value has one fingerprint. -/
theorem ofSchema_iff_of_parseSorted? {schema other : String}
    (h : Json.parseSorted? schema = Json.parseSorted? other) (fingerprint : Fingerprint) :
    ofSchema schema = .ok fingerprint ↔ ofSchema other = .ok fingerprint := by
  rw [ofSchema_eq_ok_iff, ofSchema_eq_ok_iff, Avro.Schema.parse?, Avro.Schema.parse?, h]

/-- Texts with the same sorted value have the same fingerprints. -/
theorem agree_of_parseSorted? {schema other : String}
    (h : Json.parseSorted? schema = Json.parseSorted? other) : Agree schema other where
  exists_iff := exists_congr (ofSchema_iff_of_parseSorted? h)
  eq _ _ hown hother :=
    Except.ok.inj (((ofSchema_iff_of_parseSorted? h _).1 hown).symm.trans hother)

/-- Texts with one canonical text have the same fingerprint or both have none. So a document that a
search by content takes for a schema, a search by fingerprint takes for it too. -/
theorem agree_of_canonicalText {schema other canonical : String}
    (h : canonicalText schema = .ok canonical) (h' : canonicalText other = .ok canonical) :
    Agree schema other ∧
      ∀ target, ofSchema schema = .ok target →
        ∀ version : Version, Memory.Version.hasContent canonical version = true →
          ∀ document : Document, document.text = version.schema →
            compareCandidate target (.ok document) = .ok .found := by
  refine ⟨agree_of_parseSorted? (parseSorted?_eq_of_canonicalText h h'), ?_⟩
  intro target htarget version hversion document hdocument
  have hcontent := Memory.hasContent_eq_true_iff.1 hversion
  refine compareCandidate_eq_found_iff.2 ⟨document, rfl, ?_⟩
  rw [hdocument]
  exact (ofSchema_iff_of_parseSorted? (parseSorted?_eq_of_canonicalText h hcontent) target).1
    htarget

/-- Two bytes. -/
def twoBytes : String :=
  "\x7b\"type\":\"fixed\",\"name\":\"F\",\"size\":2\x7d"

/-- Two bytes, with blanks, an escape, and a size that is overwritten. -/
def twoBytesRespelled : String :=
  " \x7b\"size\":1, \"name\":\"\\u0046\",\"size\":2, \"type\" : \"fixed\"\x7d"

/-- Two spellings of one fixed type, which are candidates for each other. -/
theorem agree_of_canonicalText_twoBytes :
    canonicalText twoBytes = .ok "\x7b\"name\":\"F\",\"size\":2,\"type\":\"fixed\"\x7d" ∧
      canonicalText twoBytesRespelled =
        .ok "\x7b\"name\":\"F\",\"size\":2,\"type\":\"fixed\"\x7d" ∧
      ∃ fingerprint, ofSchema twoBytes = .ok fingerprint ∧
        ofSchema twoBytesRespelled = .ok fingerprint ∧
        compareCandidate fingerprint (.ok (.wrapped twoBytesRespelled)) = .ok .found := by
  have hcanonical : canonicalText twoBytes =
      .ok "\x7b\"name\":\"F\",\"size\":2,\"type\":\"fixed\"\x7d" := by decide +kernel
  have hrespelled : canonicalText twoBytesRespelled =
      .ok "\x7b\"name\":\"F\",\"size\":2,\"type\":\"fixed\"\x7d" := by decide +kernel
  have hparse : Avro.Schema.parse? twoBytes =
      .ok (.named (.fixed ⟨⟨⟨none, "F"⟩, []⟩, 2⟩)) := by cbv
  have hform : (Avro.Schema.named (.fixed ⟨⟨⟨none, "F"⟩, []⟩, 2⟩)).canonicalForm? =
      some "\x7b\"name\":\"F\",\"type\":\"fixed\",\"size\":2\x7d" := by rfl
  obtain ⟨fingerprint, hfingerprint⟩ : ∃ fingerprint, ofSchema twoBytes = .ok fingerprint :=
    ⟨_, ofSchema_eq_ok_iff.2 ⟨_, _, hparse, hform, rfl⟩⟩
  obtain ⟨hagree, hfound⟩ := agree_of_canonicalText hcanonical hrespelled
  obtain ⟨own, hown⟩ := hagree.exists_iff.1 ⟨fingerprint, hfingerprint⟩
  obtain rfl := hagree.eq fingerprint own hfingerprint hown
  exact ⟨hcanonical, hrespelled, fingerprint, hfingerprint, hown,
    hfound fingerprint hfingerprint ⟨1, 1, twoBytesRespelled⟩
      (Memory.hasContent_eq_true_iff.2 hrespelled) (.wrapped twoBytesRespelled) rfl⟩

/-- Texts of the same JSON value, however they spell it, have the same fingerprint or both have
none. -/
theorem agree_of_same {schema other : String} {j k : Json} (hj : Json.parse? schema = some j)
    (hk : Json.parse? other = some k) (hplain : j.Plain) (hplain' : k.Plain) (h : j.Same k) :
    Agree schema other :=
  agree_of_parseSorted? (parseSorted?_eq_of_same hj hk hplain hplain' h)

end Fingerprint

end FramedAvro
