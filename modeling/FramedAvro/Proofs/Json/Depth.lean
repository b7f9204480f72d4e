import FramedAvro.Proofs.Json.Sorted

/-!
# Texts that are refused

A text that is JSON may be refused for two reasons that are not in its grammar. The reader gives up
when too many arrays and objects stand inside each other. Apart from that its bound has no say,
since a value is read alike with any bound that it does not exceed. And an object that starts with
`Json.numberKey` is taken for a number, so it is refused when it is not the spelling of one.

## Main definitions

* `Json.Reads`: a text is JSON, however deep.

## Main results

* `Json.parse?_eq_some_iff`: the reader refuses what is no JSON and what is too deep.
* `Json.exists_parseSorted?_iff`: which texts have a sorted value.
-/

namespace FramedAvro.Json

/-! ### Reading with another bound -/

/-- Where one reader of items reads an item, another one reads what it is mapped to: then so it is
with sequences. -/
theorem readItems_map {α β : Type} {item : List Char → Option (α × List Char)}
    {other : List Char → Option (β × List Char)} {f : α → β} {closing : Char} {s : List Char}
    {all : List α} {rest : List Char} (h : readItems item closing s = some (all, rest))
    (hitem : ∀ a ∈ all, ∀ before after, item before = some (a, after) →
      other before = some (f a, after)) : readItems other closing s = some (all.map f, rest) := by
  fun_induction readItems item closing s generalizing all rest with
  | case1 | case2 | case5 => contradiction
  | case3 s a after hread last hblanks =>
      obtain ⟨rfl, rfl⟩ := Prod.mk.inj (Option.some.inj h)
      have hother := hitem a List.mem_cons_self s after hread
      rw [readItems, hother]
      simp only [hblanks, if_pos, List.map_cons, List.map_nil]
  | case4 s a after hread c last hblanks hclosing hcomma ih =>
      obtain ⟨⟨more, stop⟩, hmore, heq⟩ := Option.map_eq_some_iff.1 h
      obtain ⟨rfl, rfl⟩ := Prod.mk.inj heq
      have hother := hitem a List.mem_cons_self s after hread
      have hrest := ih hmore fun b hb => hitem b (List.mem_cons_of_mem a hb)
      rw [readItems, hother]
      simp only [hblanks, if_neg hclosing, if_pos hcomma, hrest, Option.map_some, List.map_cons]

/-- A reader that gives the images of the items reads the images of a sequence, up to the same end.
-/
theorem readSequence_map {α β : Type} {item : List Char → Option (α × List Char)}
    {other : List Char → Option (β × List Char)} {f : α → β} {closing : Char} {s : List Char}
    {all : List α} {rest : List Char} (h : readSequence item closing s = some (all, rest))
    (hitem : ∀ a ∈ all, ∀ before after, item before = some (a, after) →
      other before = some (f a, after)) :
    readSequence other closing s = some (all.map f, rest) := by
  rw [readSequence] at h ⊢
  cases hblanks : skipBlanks s with
  | nil =>
      rw [hblanks] at h
      contradiction
  | cons c last =>
      simp only [hblanks] at h ⊢
      split at h
      · next hclosing =>
          obtain ⟨rfl, rfl⟩ := Prod.mk.inj (Option.some.inj h)
          rw [if_pos hclosing, List.map_nil]
      · next hclosing => rw [if_neg hclosing, readItems_map h hitem]

/-- Items that are read by two readers alike are read as the same sequence. -/
theorem readSequence_congr {α : Type} {item other : List Char → Option (α × List Char)}
    {closing : Char} {s : List Char} {all : List α} {rest : List Char}
    (h : readSequence item closing s = some (all, rest))
    (hitem : ∀ a ∈ all, ∀ before after, item before = some (a, after) →
      other before = some (a, after)) : readSequence other closing s = some (all, rest) := by
  rw [readSequence_map h hitem, List.map_id']

/-- A member is read by two readers of values alike when its value is. -/
theorem readMember_congr {value other : List Char → Option (Json × List Char)}
    {s rest : List Char} {member : String × Json} (h : readMember value s = some (member, rest))
    (hvalue : ∀ before after, value before = some (member.2, after) →
      other before = some (member.2, after)) : readMember other s = some (member, rest) := by
  rw [readMember] at h ⊢
  split at h
  · contradiction
  · split at h
    · obtain ⟨⟨j, last⟩, hread, heq⟩ := Option.map_eq_some_iff.1 h
      obtain ⟨rfl, rfl⟩ := Prod.mk.inj heq
      simp only [hvalue _ _ hread, Option.map_some]
    · contradiction

/-- What is read as a scalar is read with any bound. -/
theorem readValue_of_readScalar {s rest : List Char} {j : Json}
    (h : readScalar (skipBlanks s) = some (j, rest)) (bound : Nat) :
    readValue bound s = some (j, rest) := by
  cases bound with
  | zero => rw [readValue, h]
  | succ bound => exact readValue_succ_eq_some_iff.2 (.scalar h)

/-- What is read with one bound is read with any other that it does not exceed. -/
theorem readValue_of_depth_le {bound other : Nat} {s rest : List Char} {j : Json}
    (h : readValue bound s = some (j, rest)) (hdepth : j.depth ≤ other) :
    readValue other s = some (j, rest) := by
  induction bound generalizing other s rest j with
  | zero =>
      rw [readValue] at h
      exact readValue_of_readScalar h other
  | succ bound ih =>
      cases readValue_succ_eq_some_iff.1 h with
      | scalar h => exact readValue_of_readScalar h other
      | array blanks hitems =>
          cases other with
          | zero => contradiction
          | succ other =>
              have hbelow := depthOfItems_le_iff.1 (Nat.le_of_succ_le_succ hdepth)
              exact readValue_succ_eq_some_iff.2 (.array blanks (readSequence_congr hitems
                fun item hitem _ _ hread => ih hread (hbelow item hitem)))
      | object blanks hmembers =>
          cases other with
          | zero => contradiction
          | succ other =>
              have hbelow := depthOfMembers_le_iff.1 (Nat.le_of_succ_le_succ hdepth)
              exact readValue_succ_eq_some_iff.2 (.object blanks (readSequence_congr hmembers
                fun member hmember _ _ hread => readMember_congr hread
                  fun _ _ hvalue => ih hvalue (hbelow member hmember)))

/-! ### Texts that are JSON -/

/-- The text is JSON with the value `j`, however many arrays and objects stand inside each other. -/
def Reads (text : String) (j : Json) : Prop :=
  ∃ bound rest, readValue bound text.toList = some (j, rest) ∧ skipBlanks rest = []

/-- A text has one value. -/
theorem Reads.unique {text : String} {j other : Json} (h : Reads text j) (h' : Reads text other) :
    j = other := by
  obtain ⟨bound, rest, hread, -⟩ := h
  obtain ⟨bound', rest', hread', -⟩ := h'
  have hown := readValue_of_depth_le hread
    (Nat.le_trans (depth_le_of_readValue hread) (Nat.le_max_left bound bound'))
  rw [readValue_of_depth_le hread'
    (Nat.le_trans (depth_le_of_readValue hread') (Nat.le_max_right bound bound'))] at hown
  exact (Prod.mk.inj (Option.some.inj hown)).1.symm

/-- What is written for a value is JSON. -/
theorem reads_text (j : Json) : Reads j.text j := by
  have hread : readValue j.depth (j.chars ++ []) = some (j, []) :=
    readValue_chars j (Nat.le_refl j.depth) trivial
  rw [List.append_nil] at hread
  exact ⟨j.depth, [], by rw [text, String.toList_ofList, hread], rfl⟩

/-- What is written for a value is JSON for no other value. -/
theorem reads_text_iff {j other : Json} : Reads j.text other ↔ other = j := by
  constructor
  · exact fun h => h.unique (reads_text j)
  · rintro rfl
    exact reads_text other

/-- The reader reads what is JSON and not too deep. -/
theorem parse?_eq_some_iff {text : String} {j : Json} :
    parse? text = some j ↔ Reads text j ∧ j.depth ≤ maxDepth := by
  constructor
  · intro h
    refine ⟨?_, depth_le_of_parse? h⟩
    unfold parse? parseChars? whole? at h
    split at h
    · next own rest hread =>
        split at h
        · next hblanks =>
            obtain rfl := Option.some.inj h
            exact ⟨maxDepth, rest, hread, hblanks⟩
        · contradiction
    · contradiction
  · rintro ⟨⟨bound, rest, hread, hblanks⟩, hdepth⟩
    rw [parse?, parseChars?, whole?, readValue_of_depth_le hread hdepth]
    exact if_pos hblanks

/-- What is too deep is refused, though it is JSON. -/
theorem parse?_text_eq_none {j : Json} (h : maxDepth < j.depth) : parse? j.text = none := by
  rw [Option.eq_none_iff_forall_ne_some]
  intro own hown
  obtain ⟨hreads, hdepth⟩ := parse?_eq_some_iff.1 hown
  rw [hreads.unique (reads_text j)] at hdepth
  exact absurd hdepth (Nat.not_le_of_lt h)

/-! ### Texts that have a sorted value -/

/-- A text has a sorted value when it is JSON, not too deep, and what is taken for a number in it
spells one. -/
theorem exists_parseSorted?_iff {text : String} :
    (∃ sorted, parseSorted? text = some sorted) ↔
      ∃ j, Reads text j ∧ j.depth ≤ maxDepth ∧ j.Spelled := by
  constructor
  · rintro ⟨sorted, h⟩
    obtain ⟨j, hparse, hsorted⟩ := Option.bind_eq_some_iff.1 h
    obtain ⟨hreads, hdepth⟩ := parse?_eq_some_iff.1 hparse
    exact ⟨j, hreads, hdepth, spelled_of_sorted hsorted⟩
  · rintro ⟨j, hreads, hdepth, hspelled⟩
    obtain ⟨sorted, hsorted⟩ := exists_sorted_iff.2 hspelled
    exact ⟨sorted, Option.bind_eq_some_iff.2 ⟨j, parse?_eq_some_iff.2 ⟨hreads, hdepth⟩, hsorted⟩⟩

end FramedAvro.Json
