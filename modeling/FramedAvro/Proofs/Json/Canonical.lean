import FramedAvro.Proofs.Json.Sorted
import FramedAvro.Registry.Document

/-!
# Canonical texts

The canonical text of a JSON document is a text of the same value without blanks, its members in
order, and there is one such text for each value: documents that are spelled differently have the
same canonical text exactly when they are the same value.

This holds of documents with plain integers, since numbers keep their spelling, in which no object
has `Json.numberKey` as its first or its least key. An object that starts with this key is read as
the number that it spells, so its canonical text is that of another value; and one in which the key
is the least has a canonical text that starts with it, which is refused.

## Main definitions

* `Json.outside`: the characters of a text that are in no string.
* `Json.Plain`: documents with one spelling for each value.
* `Json.Steady`: documents in which the key of numbers is no obstacle to sorting.

## Main results

* `canonicalText_eq_iff_same`: canonical texts, and when they are equal.
* `canonicalText_reserved`: texts with the key of numbers.
-/

namespace FramedAvro

namespace Json

/-! ### Characters outside strings -/

/-- Where in a text a character stands. -/
inductive Place where
  /-- In no string. -/
  | between
  /-- In a string. -/
  | quoted
  /-- In a string, after a backslash. -/
  | escaped

/-- The characters of a text that are in no string and are no quotes. -/
def outside : Place → List Char → List Char
  | _, [] => []
  | .between, c :: rest =>
    if c = '"' then outside .quoted rest else c :: outside .between rest
  | .quoted, c :: rest =>
    if c = '"' then outside .between rest
    else if c = '\\' then outside .escaped rest
    else outside .quoted rest
  | .escaped, _ :: rest => outside .quoted rest

/-- A character in a string is passed over, unless it ends the string or escapes the next one. -/
theorem outside_quoted_cons {c : Char} (hquote : c ≠ '"') (hbackslash : c ≠ '\\')
    (rest : List Char) : outside .quoted (c :: rest) = outside .quoted rest := by
  rw [outside, if_neg hquote, if_neg hbackslash]

/-- No hexadecimal digit ends a string or escapes anything. -/
theorem digit_ne_quote {n : Nat} (h : n < 16) : Hex.digit n ≠ '"' ∧ Hex.digit n ≠ '\\' := by
  have hall : ∀ n : Fin 16, Hex.digit n.val ≠ '"' ∧ Hex.digit n.val ≠ '\\' := by decide
  exact hall ⟨n, h⟩

/-- What a character is written with stays inside the string. -/
theorem outside_escape (c : Char) (rest : List Char) :
    outside .quoted (escape c ++ rest) = outside .quoted rest := by
  rw [escape]
  split
  · rfl
  split
  · rfl
  split
  · rfl
  split
  · rfl
  split
  · rfl
  split
  · rfl
  split
  · rfl
  split
  · next hlow =>
      obtain ⟨hhigh, hhigh'⟩ := digit_ne_quote (show c.toNat / 16 < 16 by omega)
      obtain ⟨hdigit, hdigit'⟩ := digit_ne_quote (show c.toNat % 16 < 16 by omega)
      show outside .quoted (Hex.digit (c.toNat / 16) :: Hex.digit (c.toNat % 16) :: rest) = _
      rw [outside_quoted_cons hhigh hhigh', outside_quoted_cons hdigit hdigit']
  · next hquote hbackslash _ _ _ _ _ _ => exact outside_quoted_cons hquote hbackslash rest

/-- Nothing of a string is outside. -/
theorem outside_quote (text : String) (rest : List Char) :
    outside .between (quote text ++ rest) = outside .between rest := by
  have hchars (cs : List Char) :
      outside .quoted (cs.flatMap escape ++ '"' :: rest) = outside .between rest := by
    induction cs with
    | nil => rfl
    | cons c cs ih => rw [List.flatMap_cons, List.append_assoc, outside_escape, ih]
  have hquote : quote text ++ rest = '"' :: (text.toList.flatMap escape ++ '"' :: rest) := by
    rw [quote, List.append_assoc]
    rfl
  rw [hquote, outside, if_pos rfl, hchars]

/-- No blank stands outside strings. -/
def Tight (text : List Char) : Prop :=
  ∀ c ∈ outside .between text, isBlank c = false

/-- A character before a tight text that is neither a quote nor a blank leaves it tight. -/
theorem Tight.cons {c : Char} {rest : List Char} (h : Tight rest)
    (hc : c ≠ '"' ∧ isBlank c = false) : Tight (c :: rest) := by
  intro own hown
  rw [outside, if_neg hc.1] at hown
  rcases List.mem_cons.1 hown with rfl | hown
  · exact hc.2
  · exact h own hown

/-- Characters before a tight text that are neither quotes nor blanks leave it tight. -/
theorem Tight.append {cs rest : List Char} (h : Tight rest)
    (hcs : ∀ c ∈ cs, c ≠ '"' ∧ isBlank c = false) : Tight (cs ++ rest) := by
  induction cs with
  | nil => exact h
  | cons c cs ih =>
      obtain ⟨hc, hcs⟩ := List.forall_mem_cons.1 hcs
      exact (ih hcs).cons hc

/-- A string before a tight text leaves it tight, whatever stands in the string. -/
theorem Tight.quote {rest : List Char} (h : Tight rest) (text : String) :
    Tight (quote text ++ rest) := by
  rw [Tight, outside_quote]
  exact h

/-- Things with commas between them are tight when each of them is. -/
theorem Tight.separated {α : Type} {write : α → List Char} {all : List α}
    (hall : ∀ a ∈ all, ∀ rest, Tight rest → Tight (write a ++ rest)) {rest : List Char}
    (h : Tight rest) : Tight (separated write all ++ rest) := by
  cases all with
  | nil => exact h
  | cons a more =>
      have hmore : Tight ((more.flatMap fun b => ',' :: write b) ++ rest) := by
        induction more with
        | nil => exact h
        | cons b more ih =>
            rw [List.flatMap_cons, List.append_assoc, List.cons_append]
            refine Tight.cons (hall b (by simp) _ (ih fun c hc => hall c ?_)) (by decide)
            rcases List.mem_cons.1 hc with rfl | hc <;> simp [*]
      rw [Json.separated, List.append_assoc]
      exact hall a List.mem_cons_self _ hmore

/-- A digit is neither a quote nor a blank. -/
theorem ne_quote_of_digit (d : Digit) : d.toChar ≠ '"' ∧ isBlank d.toChar = false := by
  revert d
  decide

/-- Among digits there is neither a quote nor a blank. -/
theorem ne_quote_of_mem_digits {digits : List Digit} {c : Char}
    (h : c ∈ digits.map Digit.toChar) : c ≠ '"' ∧ isBlank c = false := by
  obtain ⟨d, -, rfl⟩ := List.mem_map.1 h
  exact ne_quote_of_digit d

/-- A number has neither quotes nor blanks. -/
theorem ne_quote_of_mem_number {n : Number} {c : Char} (h : c ∈ n.chars) :
    c ≠ '"' ∧ isBlank c = false := by
  obtain ⟨first, others, hwhole, -⟩ := exists_digits_decimal n.whole
  rw [Number.chars_eq, hwhole, List.mem_append, List.mem_append, List.mem_append] at h
  rcases h with hsign | hdigits | hfraction | hexponent
  · split at hsign
    · obtain rfl := List.mem_singleton.1 hsign
      decide
    · contradiction
  · exact ne_quote_of_mem_digits hdigits
  · rw [fractionChars] at hfraction
    split at hfraction
    · contradiction
    · rcases List.mem_cons.1 hfraction with rfl | hdigits
      · decide
      · exact ne_quote_of_mem_digits hdigits
  · cases hsome : n.exponent with
    | none =>
        rw [hsome] at hexponent
        contradiction
    | some e =>
        rw [hsome, exponentChars, Number.Exponent.chars] at hexponent
        rcases List.mem_cons.1 hexponent with rfl | hmore
        · decide
        rcases List.mem_cons.1 hmore with rfl | hdigits
        · cases e.negative <;> decide
        · exact ne_quote_of_mem_digits hdigits

/-- The text of a value has no blank outside strings. -/
theorem Tight.chars {rest : List Char} (h : Tight rest) (j : Json) : Tight (j.chars ++ rest) := by
  induction j using inductionOn generalizing rest with
  | null =>
      have hword : ∀ c ∈ ['n', 'u', 'l', 'l'], c ≠ '"' ∧ isBlank c = false := by
        simp [isBlank]
      exact h.append hword
  | bool b =>
      cases b with
      | true =>
          have hword : ∀ c ∈ ['t', 'r', 'u', 'e'], c ≠ '"' ∧ isBlank c = false := by
            simp [isBlank]
          exact h.append hword
      | false =>
          have hword : ∀ c ∈ ['f', 'a', 'l', 's', 'e'], c ≠ '"' ∧ isBlank c = false := by
            simp [isBlank]
          exact h.append hword
  | number n => exact h.append fun c hc => ne_quote_of_mem_number hc
  | string text => exact h.quote text
  | array items ih =>
      rw [Json.chars, charsOfItems_eq, List.append_assoc, List.cons_append, List.singleton_append]
      refine Tight.cons (Tight.separated (fun item hitem rest hrest => ?_)
        (h.cons (by decide))) (by decide)
      exact ih item hitem hrest
  | object members ih =>
      rw [Json.chars, charsOfMembers_eq, List.append_assoc, List.cons_append,
        List.singleton_append]
      refine Tight.cons (Tight.separated (fun member hmember rest hrest => ?_)
        (h.cons (by decide))) (by decide)
      rw [memberChars, List.append_assoc, List.cons_append]
      exact Tight.quote (Tight.cons (ih member.1 member.2 hmember hrest) (by decide)) member.1

/-! ### Documents with one spelling -/

/-- Numbers are plain integers, and the key of numbers is neither the first nor the least key of an
object. -/
structure Plain (j : Json) : Prop where
  numbers : j.HasPlainNumbers
  keys : ∀ members value, Inside (object members) j → (numberKey, value) ∈ members →
    ¬StartsWithNumberKey members ∧ ∃ entry ∈ members, entry.1 < numberKey

/-- An object that starts with the key of numbers has a first member with this key. -/
theorem exists_mem_of_startsWithNumberKey {members : List (String × Json)}
    (h : StartsWithNumberKey members) : ∃ value rest, members = (numberKey, value) :: rest := by
  cases members with
  | nil => contradiction
  | cons first rest =>
      obtain ⟨key, value⟩ := first
      obtain rfl : key = numberKey := Option.some.inj h
      exact ⟨value, rest, rfl⟩

/-- A value in which the key of numbers does not occur has no object that starts with it. -/
theorem Plain.unreserved {j : Json} (h : j.Plain) : j.Unreserved := by
  intro members hmembers hstarts
  obtain ⟨value, rest, rfl⟩ := exists_mem_of_startsWithNumberKey hstarts
  exact (h.keys _ value hmembers List.mem_cons_self).1 hstarts

/-- Sorting writes a document in the one way there is for its value. -/
theorem Plain.normal {j sorted : Json} (h : j.Plain) (hsorted : j.sorted? = some sorted) :
    sorted.Normal := by
  refine ⟨ordered_of_sorted hsorted, fun n hn => ?_⟩
  obtain ⟨own, hown, heq⟩ := exists_inside_of_sorted hsorted hn
  cases own with
  | number n' =>
      obtain rfl := number.inj (Option.some.inj heq)
      exact h.numbers _ hown
  | null | bool _ | string _ => exact absurd (Option.some.inj heq) (by simp)
  | array items =>
      obtain ⟨_, -, hne⟩ := sorted?_array_eq_some_iff.1 heq
      contradiction
  | object members =>
      obtain ⟨_, value, rfl, -⟩ | ⟨-, _, -, hne⟩ := sorted?_object_cases heq
      · exact absurd rfl (h.keys _ value hown List.mem_cons_self).1
      · contradiction

/-- The key of numbers is the least key of no object, unless the object starts with it. So there is
no object that starts with this key only once its members are in order. -/
def Steady (j : Json) : Prop :=
  ∀ members value, Inside (object members) j → ¬StartsWithNumberKey members →
    (numberKey, value) ∈ members → ∃ entry ∈ members, entry.1 < numberKey

/-- When the members are in order, the key of numbers is behind a key that comes before it. -/
theorem Steady.unreserved_sorted {j sorted : Json} (h : j.Steady)
    (hsorted : j.sorted? = some sorted) : sorted.Unreserved := by
  intro members hmembers hstarts
  have hascending := ordered_of_sorted hsorted members hmembers
  obtain ⟨own, hown, heq⟩ := exists_inside_of_sorted hsorted hmembers
  obtain ⟨written, values, rfl, hwritten, hvalues, rfl⟩ := exists_object_of_sorted heq
  obtain ⟨value, rest, hfirst⟩ := exists_mem_of_startsWithNumberKey hstarts
  have hmem : (numberKey, value) ∈ values := Entries.mem_ofList (hfirst ▸ List.mem_cons_self)
  obtain ⟨⟨key, spelled⟩, hspelled, rfl, -⟩ := exists_of_mem_forall₂ hvalues hmem
  -- A lesser key was written in the object, so after sorting it comes before the key of numbers.
  obtain ⟨before, hbefore, hlt⟩ := h written spelled hown hwritten hspelled
  obtain ⟨least, hleast, hkey, -⟩ := exists_of_mem_forall₂ hvalues.flip hbefore
  obtain ⟨found, hfound⟩ := Entries.exists_get?_of_mem (List.mem_reverse.2 hleast)
  rw [← Entries.get?_ofList, hfirst] at hfound
  rw [hfirst] at hascending
  rw [hkey] at hlt
  rcases List.mem_cons.1 (Entries.mem_of_get? hfound) with hself | hrest
  · rw [(Prod.mk.inj hself).1] at hlt
    exact String.lt_irrefl _ hlt
  · have hgt := (List.pairwise_cons.1 hascending).1 _ hrest
    exact String.lt_irrefl _ (String.lt_trans hlt (compareOfLessAndEq_eq_lt.1 hgt))

/-- A value in which the key of numbers does not occur has no object that starts with it once its
members are in order. -/
theorem Plain.steady {j : Json} (h : j.Plain) : j.Steady :=
  fun members value hmembers _ hvalue => (h.keys members value hmembers hvalue).2

end Json

/-! ### Canonical texts -/

/-- The canonical text of a schema is the text of its sorted value, if the schema is read at all. -/
theorem canonicalText_eq_ok_iff {schema text : String} :
    canonicalText schema = .ok text ↔ ∃ j, Json.parseSorted? schema = some j ∧ j.text = text := by
  rw [canonicalText, schemaJson]
  cases Json.parseSorted? schema with
  | none => simp [Except.map]
  | some j => simp [Except.map]

/-- A text is the canonical text of a value: it is read as the same value with the members of every
object in order, has no blanks outside strings, and is its own canonical text. -/
structure IsCanonicalText (text : String) (j : Json) : Prop where
  reads : ∃ own, Json.parse? text = some own ∧ own.Same j ∧ own.Ordered
  tight : Json.Tight text.toList
  again : canonicalText text = .ok text

/-- The canonical text of a document is the text of its sorted value. -/
theorem isCanonicalText_text {schema : String} {j sorted : Json}
    (hj : Json.parse? schema = some j) (hplain : j.Plain) (hsorted : j.sorted? = some sorted) :
    IsCanonicalText sorted.text j := by
  have hread : Json.parseSorted? schema = some sorted := by
    rw [Json.parseSorted?, hj, Option.bind_some, hsorted]
  refine ⟨⟨sorted, Json.parse?_text_of_parseSorted? hread, ?_, ?_⟩, ?_, ?_⟩
  · exact Json.same_of_sorted hplain.unreserved hsorted
  · exact Json.ordered_of_sorted hsorted
  · have htight : Json.Tight [] := fun c hc => absurd hc List.not_mem_nil
    have htext := htight.chars sorted
    rw [List.append_nil] at htext
    rwa [Json.text, String.toList_ofList]
  · exact canonicalText_eq_ok_iff.2
      ⟨sorted, Json.parseSorted?_text hread (hplain.steady.unreserved_sorted hsorted), rfl⟩

/-- Documents have canonical texts of their values, and the same one exactly when they are the same
value. -/
theorem canonicalText_eq_iff_same {schema other : String} {j k : Json}
    (hj : Json.parse? schema = some j) (hk : Json.parse? other = some k) (hplain : j.Plain)
    (hplain' : k.Plain) :
    ∃ text text', canonicalText schema = .ok text ∧ canonicalText other = .ok text' ∧
      IsCanonicalText text j ∧ IsCanonicalText text' k ∧ (text = text' ↔ j.Same k) := by
  obtain ⟨sorted, hsorted⟩ := Json.exists_sorted hplain.unreserved
  obtain ⟨sorted', hsorted'⟩ := Json.exists_sorted hplain'.unreserved
  have hsame := Json.same_of_sorted hplain.unreserved hsorted
  have hsame' := Json.same_of_sorted hplain'.unreserved hsorted'
  refine ⟨sorted.text, sorted'.text, canonicalText_eq_ok_iff.2 ⟨sorted, ?_, rfl⟩,
    canonicalText_eq_ok_iff.2 ⟨sorted', ?_, rfl⟩, isCanonicalText_text hj hplain hsorted,
    isCanonicalText_text hk hplain' hsorted', ?_, ?_⟩
  · rw [Json.parseSorted?, hj, Option.bind_some, hsorted]
  · rw [Json.parseSorted?, hk, Option.bind_some, hsorted']
  · intro htext
    obtain rfl := Json.text_injective htext
    exact hsame.symm.trans hsame'
  · intro hvalue
    rw [Json.eq_of_same ((hsame.trans hvalue).trans hsame'.symm) (hplain.normal hsorted)
      (hplain'.normal hsorted')]

/-- An object as it is written in one text. -/
def writtenOnce : Json :=
  .object [("b", .number (.ofInt 1)), ("a", .array [.number (.ofInt 2), .string "A"])]

/-- The object as it is written in another text, with a member that is overwritten. -/
def writtenTwice : Json :=
  .object [("a", .array [.number (.ofInt 2), .string "A"]), ("b", .number (.ofInt 0)),
    ("b", .number (.ofInt 1))]

/-- Two texts of one value that differ in blanks, in the order of members, in an escape, and in a
member that a later one with its key replaces. -/
theorem canonicalText_eq_iff_same_written :
    Json.parse? "\x7b\"b\":1,\"a\":[2,\"\\u0041\"]\x7d" = some writtenOnce ∧
      Json.parse? "\x7b \"a\" : [2, \"A\"], \"b\" : 0, \"b\" : 1 \x7d" = some writtenTwice ∧
      writtenOnce.Plain ∧ writtenTwice.Plain ∧ writtenOnce.Same writtenTwice := by
  have hread : Json.parse? "\x7b\"b\":1,\"a\":[2,\"\\u0041\"]\x7d" = some writtenOnce := by cbv
  have hread' : Json.parse? "\x7b \"a\" : [2, \"A\"], \"b\" : 0, \"b\" : 1 \x7d" =
      some writtenTwice := by cbv
  have hplain : writtenOnce.Plain := by
    constructor
    · intro n hn
      simp [writtenOnce] at hn
      rcases hn with rfl | rfl <;> decide
    · intro members value hmembers hvalue
      simp [writtenOnce] at hmembers
      subst hmembers
      simp [Json.numberKey] at hvalue
  have hplain' : writtenTwice.Plain := by
    constructor
    · intro n hn
      simp [writtenTwice] at hn
      rcases hn with rfl | rfl | rfl <;> decide
    · intro members value hmembers hvalue
      simp [writtenTwice] at hmembers
      subst hmembers
      simp [Json.numberKey] at hvalue
  obtain ⟨text, text', htext, htext', -, -, hsame⟩ :=
    canonicalText_eq_iff_same hread hread' hplain hplain'
  have hown : canonicalText "\x7b\"b\":1,\"a\":[2,\"\\u0041\"]\x7d" =
      canonicalText "\x7b \"a\" : [2, \"A\"], \"b\" : 0, \"b\" : 1 \x7d" := by cbv
  rw [htext, htext'] at hown
  exact ⟨hread, hread', hplain, hplain', hsame.1 (Except.ok.inj hown)⟩

/-- An object that spells a number is another value than the number that it is read as, and an
object in which the key of numbers becomes the first has a canonical text that is refused. -/
theorem canonicalText_reserved :
    (∃ j own, Json.parse? "\x7b\"$serde_json::private::Number\":\"15\"\x7d" = some j ∧
      j.HasPlainNumbers ∧
      canonicalText "\x7b\"$serde_json::private::Number\":\"15\"\x7d" = .ok "15" ∧
      Json.parse? "15" = some own ∧ ¬own.Same j) ∧
    ∃ j failure, Json.parse? "\x7b\"z\":1,\"$serde_json::private::Number\":\"1\"\x7d" = some j ∧
      j.HasPlainNumbers ∧
      canonicalText "\x7b\"z\":1,\"$serde_json::private::Number\":\"1\"\x7d" =
        .ok "\x7b\"$serde_json::private::Number\":\"1\",\"z\":1\x7d" ∧
      canonicalText "\x7b\"$serde_json::private::Number\":\"1\",\"z\":1\x7d" =
        .error failure := by
  constructor
  · refine ⟨.object [(Json.numberKey, .string "15")], .number (.ofInt 15), by cbv, ?_, by cbv,
      by cbv, ?_⟩
    · intro n hn
      simp at hn
    · intro hsame
      exact absurd (Option.some.inj (hsame [])) (by simp [Json.shape])
  · refine ⟨.object [("z", .number (.ofInt 1)), (Json.numberKey, .string "1")], _, by cbv, ?_,
      by cbv, by cbv⟩
    intro n hn
    simp at hn
    rw [hn]
    decide

end FramedAvro
