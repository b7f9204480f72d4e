import FramedAvro.Json.Parts
import FramedAvro.Proofs.Json.Depth

/-!
# What is wanted of a text

Who wants parts of a value gets them from every text that is JSON, however deep the other parts are:
they are what is left of the value when the rest is left out (`Json.only`). It is not true the other
way around, that a text of which the parts can be read is JSON. In a string that is passed by, half
of a pair of escapes is enough.

Passing by has no bound. It counts down from the length of the text, but a text has no more brackets
than characters, so it never gets to the end.

## Main definitions

* `Json.only`: what is wanted of a value.

## Main results

* `Json.skipValue_eq`: passing by does not depend on its bound.
* `Json.skip_of_readValue`: what can be read can be passed by.
* `Json.parseWanted?_of_reads`: what is wanted of a text that is JSON.
-/

namespace FramedAvro.Json

/-! ### Passing by strings -/

/-- After an escape the rest of the string is passed by. -/
theorem skipChars_escape {s rest : List Char} (h : skipEscape s = some rest) :
    skipChars ('\\' :: s) = skipChars rest := by
  rw [skipChars, if_neg (by decide), if_pos rfl]
  split
  · next hnone =>
      rw [h] at hnone
      contradiction
  · next own hown =>
      rw [h] at hown
      rw [Option.some.inj hown]

/-- An escape by code is passed by when its digits are read. -/
theorem skipEscape_code {s rest : List Char} {n : Nat} (h : readUnit s = some (n, rest)) :
    skipEscape ('u' :: s) = some rest := by
  rw [skipEscape, if_pos rfl, h]
  rfl

/-- What is read as an escape by code is passed by, as one escape or as two. -/
theorem skipChars_of_readCode {s rest : List Char} {c : Char} (h : readCode s = some (c, rest)) :
    skipChars ('\\' :: 'u' :: s) = skipChars rest := by
  unfold readCode at h
  split at h
  · contradiction
  next unit after hunit =>
  rw [skipChars_escape (skipEscape_code hunit)]
  split at h
  · contradiction
  split at h
  · -- Of a high surrogate the low one is read too, from an escape of its own.
    split at h
    · next low =>
        split at h
        · contradiction
        next own last hlow =>
        split at h
        · obtain ⟨-, rfl⟩ := Prod.mk.inj (Option.some.inj h)
          exact skipChars_escape (skipEscape_code hlow)
        · contradiction
    · contradiction
  · obtain ⟨-, rfl⟩ := Prod.mk.inj (Option.some.inj h)
    rfl

/-- What is read as an escape is passed by. -/
theorem skipChars_of_readEscape {s rest : List Char} {c : Char}
    (h : readEscape s = some (c, rest)) : skipChars ('\\' :: s) = skipChars rest := by
  unfold readEscape at h
  split at h
  · contradiction
  next first s =>
  split at h
  · next hcode =>
      obtain rfl := hcode
      exact skipChars_of_readCode h
  · next hshort =>
      obtain ⟨e, he, heq⟩ := Option.map_eq_some_iff.1 h
      obtain ⟨-, rfl⟩ := Prod.mk.inj heq
      refine skipChars_escape ?_
      rw [skipEscape, if_neg hshort, he]
      rfl

/-- What is read as a string is passed by. -/
theorem skipChars_of_readChars {s cs rest : List Char} (h : readChars s = some (cs, rest)) :
    skipChars s = some ((), rest) := by
  fun_induction readChars s generalizing cs rest with
  | case1 | case3 | case5 => contradiction
  | case2 last =>
      obtain ⟨-, rfl⟩ := Prod.mk.inj (Option.some.inj h)
      rw [skipChars, if_pos rfl]
  | case4 s e last hread hquote ih =>
      obtain ⟨⟨more, stop⟩, hmore, heq⟩ := Option.map_eq_some_iff.1 h
      obtain ⟨-, rfl⟩ := Prod.mk.inj heq
      rw [skipChars_of_readEscape hread, ih hmore]
  | case6 c s hquote hescape hplain ih =>
      obtain ⟨⟨more, stop⟩, hmore, heq⟩ := Option.map_eq_some_iff.1 h
      obtain ⟨-, rfl⟩ := Prod.mk.inj heq
      rw [skipChars, if_neg hquote, if_neg hescape, if_neg hplain, ih hmore]

/-- A string that can be read can be passed by, up to the same end. -/
theorem skipString_of_readString {s rest : List Char} {text : String}
    (h : readString s = some (text, rest)) : skipString s = some ((), rest) := by
  unfold readString at h
  split at h
  · obtain ⟨⟨cs, last⟩, hread, heq⟩ := Option.map_eq_some_iff.1 h
    obtain ⟨-, rfl⟩ := Prod.mk.inj heq
    exact skipChars_of_readChars hread
  · contradiction

/-- Passing by a string leaves less. -/
theorem length_lt_of_skipChars {s rest : List Char} {u : Unit}
    (h : skipChars s = some (u, rest)) : rest.length < s.length := by
  fun_induction skipChars s with
  | case1 | case3 | case5 => contradiction
  | case2 last =>
      obtain ⟨-, rfl⟩ := Prod.mk.inj (Option.some.inj h)
      simp
  | case4 s last hskip hquote ih =>
      have hlast := length_lt_of_skipEscape hskip
      have hrest := ih h
      simp only [List.length_cons]
      omega
  | case6 c s hquote hescape hplain ih =>
      have hrest := ih h
      simp only [List.length_cons]
      omega

/-! ### Passing by values -/

/-- What is read as a scalar is passed by. -/
theorem skipScalar_of_readScalar {s rest : List Char} {j : Json}
    (h : readScalar s = some (j, rest)) : skipScalar s = some ((), rest) := by
  cases s with
  | nil => contradiction
  | cons c s =>
      rw [skipScalar]
      split
      · next hquote =>
          obtain rfl := hquote
          obtain ⟨⟨text, last⟩, hread, heq⟩ := Option.map_eq_some_iff.1 h
          obtain ⟨-, rfl⟩ := Prod.mk.inj heq
          exact skipString_of_readString hread
      · rw [h, Option.map_some]

/-- What is read as a member is passed by, if its value is. -/
theorem skipMember_of_readMember {value : List Char → Option (Json × List Char)}
    {skipped : List Char → Option (Unit × List Char)} {s rest : List Char}
    {member : String × Json} (h : readMember value s = some (member, rest))
    (hvalue : ∀ before after, value before = some (member.2, after) →
      skipped before = some ((), after)) : skipMember skipped s = some ((), rest) := by
  unfold readMember at h
  split at h
  · contradiction
  next key after hkey =>
  split at h
  · next start hcolon =>
      obtain ⟨⟨j, last⟩, hread, heq⟩ := Option.map_eq_some_iff.1 h
      obtain ⟨rfl, rfl⟩ := Prod.mk.inj heq
      rw [skipMember, skipString_of_readString hkey]
      simp only [hcolon]
      exact hvalue start last hread
  · contradiction

/-- What is read with a bound is passed by with it. -/
theorem skipValue_of_readValue {bound : Nat} {s rest : List Char} {j : Json}
    (h : readValue bound s = some (j, rest)) : skipValue bound s = some ((), rest) := by
  induction bound generalizing s rest j with
  | zero =>
      rw [readValue] at h
      exact skipScalar_of_readScalar h
  | succ bound ih =>
      rw [skipValue]
      cases readValue_succ_eq_some_iff.1 h with
      | scalar h =>
          cases hblanks : skipBlanks s with
          | nil =>
              rw [hblanks] at h
              contradiction
          | cons c start =>
              rw [hblanks] at h
              obtain ⟨harray, hobject⟩ := ne_bracket_of_readScalar h
              simp only [if_neg harray, if_neg hobject, skipScalar_of_readScalar h]
      | @array start items blanks hitems =>
          have hskipped : readSequence (skipValue bound) ']' start =
              some (items.map fun _ => (), rest) :=
            readSequence_map hitems fun _ _ _ _ hread => ih hread
          rw [blanks]
          simp only [if_pos, hskipped, Option.map_some]
      | @object start members blanks hmembers =>
          have hskipped : readSequence (skipMember (skipValue bound)) '\x7d' start =
              some (members.map fun _ => (), rest) :=
            readSequence_map hmembers fun _ _ _ _ hread =>
              skipMember_of_readMember hread fun _ _ hvalue => ih hvalue
          rw [blanks]
          simp [hskipped]

/-! ### The bound of passing by -/

/-- Readers that agree on what is not longer than a text read the same items of it. -/
theorem readItems_eq {α : Type} {item other : List Char → Option (α × List Char)} {closing : Char}
    {s : List Char} (h : ∀ before : List Char, before.length ≤ s.length →
      item before = other before) : readItems item closing s = readItems other closing s := by
  symm
  fun_induction readItems item closing s with
  | case1 s hread => rw [readItems, ← h s (Nat.le_refl _), hread]
  | case2 s a after hread hblanks =>
      rw [readItems, ← h s (Nat.le_refl _), hread]
      simp only [hblanks]
  | case3 s a after hread last hblanks =>
      rw [readItems, ← h s (Nat.le_refl _), hread]
      simp only [hblanks, if_pos]
  | case4 s a after hread c last hblanks hclosing hcomma ih =>
      rw [readItems, ← h s (Nat.le_refl _), hread]
      simp only [hblanks, if_neg hclosing, if_pos hcomma]
      rw [ih fun before hbefore => h before (Nat.le_trans hbefore (Nat.le_of_lt hcomma.2))]
  | case5 s a after hread c last hblanks hclosing hcomma =>
      rw [readItems, ← h s (Nat.le_refl _), hread]
      simp only [hblanks, if_neg hclosing, if_neg hcomma]

/-- Blanks that are passed by only make a text shorter. -/
theorem length_skipBlanks_le (s : List Char) : (skipBlanks s).length ≤ s.length :=
  List.length_dropWhile_le isBlank s

/-- Readers that agree on what is left of a text agree on the sequences in it. -/
theorem readSequence_eq {α : Type} {item other : List Char → Option (α × List Char)}
    {closing : Char} {s : List Char} (h : ∀ before : List Char, before.length ≤ s.length →
      item before = other before) : readSequence item closing s = readSequence other closing s := by
  have hle := length_skipBlanks_le s
  rw [readSequence, readSequence]
  cases hblanks : skipBlanks s with
  | nil => rfl
  | cons c rest =>
      rw [hblanks] at hle
      simp only
      rw [readItems_eq fun before hbefore => h before (Nat.le_trans hbefore hle)]

/-- Ways to pass values by that agree on what is left of a text agree on the members in it. -/
theorem skipMember_eq {skipped other : List Char → Option (Unit × List Char)} {s : List Char}
    (h : ∀ before : List Char, before.length ≤ s.length → skipped before = other before) :
    skipMember skipped s = skipMember other s := by
  rw [skipMember, skipMember]
  split
  · rfl
  next u rest hkey =>
  split
  · next start hcolon =>
      -- Both the key and the colon are gone where the value starts.
      have hrest : rest.length < s.length := by
        unfold skipString at hkey
        split at hkey
        · next tail hquote =>
            have hle := length_skipBlanks_le s
            have hlt := length_lt_of_skipChars hkey
            rw [hquote, List.length_cons] at hle
            omega
        · contradiction
      have hle := length_skipBlanks_le rest
      rw [hcolon, List.length_cons] at hle
      exact h start (by omega)
  · rfl

/-- Passing by does not depend on its bound, when that is not less than the length of the text. -/
theorem skipValue_eq {bound other : Nat} {s : List Char} (h : s.length ≤ bound)
    (h' : s.length ≤ other) : skipValue bound s = skipValue other s := by
  induction bound generalizing other s with
  | zero =>
      obtain rfl := List.length_eq_zero_iff.1 (Nat.le_zero.1 h)
      cases other <;> rfl
  | succ bound ih =>
      cases other with
      | zero =>
          obtain rfl := List.length_eq_zero_iff.1 (Nat.le_zero.1 h')
          rfl
      | succ other =>
          have hle := length_skipBlanks_le s
          rw [skipValue, skipValue]
          cases hblanks : skipBlanks s with
          | nil => rfl
          | cons c rest =>
              rw [hblanks, List.length_cons] at hle
              have hbelow (before : List Char) (hbefore : before.length ≤ rest.length) :
                  skipValue bound before = skipValue other before :=
                ih (by omega) (by omega)
              simp only
              rw [readSequence_eq hbelow, readSequence_eq fun before hbefore =>
                skipMember_eq fun own hown => hbelow own (Nat.le_trans hown hbefore)]

/-- What is read with a bound is read with a greater one. -/
theorem readValue_succ {bound : Nat} {s rest : List Char} {j : Json}
    (h : readValue bound s = some (j, rest)) : readValue (bound + 1) s = some (j, rest) :=
  readValue_of_depth_le h (Nat.le_succ_of_le (depth_le_of_readValue h))

/-- What can be read can be passed by, however deep it is. -/
theorem skip_of_readValue {bound : Nat} {s rest : List Char} {j : Json}
    (h : readValue bound s = some (j, rest)) : skip s = some ((), rest) := by
  have hread : readValue (max bound s.length) s = some (j, rest) :=
    readValue_of_depth_le h (Nat.le_trans (depth_le_of_readValue h) (Nat.le_max_left _ _))
  rw [skip, skipValue_eq (Nat.le_refl _) (Nat.le_max_right bound s.length)]
  exact skipValue_of_readValue hread

/-! ### What is wanted -/

/-- What is wanted of a value, with the rest left out. -/
def only : Wanted → Json → Json
  | .whole, j => j
  | .parts keys value, object members =>
    object ((members.filter fun member => member.1 ∈ keys).map fun member =>
      (member.1, only value member.2))
  | .parts _ value, array items => array (items.map (only value))
  | .parts _ _, j => j
  | .items item, array items => array (items.map (only item))
  | .items _, j => j

/-- An array is nested no deeper after each of its items became less deep. -/
theorem depth_array_map_le {f : Json → Json} (h : ∀ j, (f j).depth ≤ j.depth)
    (items : List Json) : (array (items.map f)).depth ≤ (array items).depth := by
  refine Nat.succ_le_succ (depthOfItems_le_iff.2 fun item hitem => ?_)
  obtain ⟨own, hown, rfl⟩ := List.mem_map.1 hitem
  exact Nat.le_trans (h own) (depth_le_depthOfItems hown)

/-- What is wanted is not deeper than all of it. -/
theorem depth_only_le (wanted : Wanted) (j : Json) : (j.only wanted).depth ≤ j.depth := by
  induction wanted generalizing j with
  | whole => exact Nat.le_refl _
  | parts keys value ih =>
      cases j with
      | array items => exact depth_array_map_le ih items
      | object members =>
          refine Nat.succ_le_succ (depthOfMembers_le_iff.2 fun member hmember => ?_)
          obtain ⟨own, hown, rfl⟩ := List.mem_map.1 hmember
          exact Nat.le_trans (ih own.2) (depth_le_depthOfMembers (List.mem_of_mem_filter hown))
      | _ => exact Nat.le_refl _
  | items item ih =>
      cases j with
      | array items => exact depth_array_map_le ih items
      | _ => exact Nat.le_refl _

/-- Of a scalar everything is wanted. -/
theorem only_of_depth {j : Json} (h : j.depth = 0) (wanted : Wanted) : j.only wanted = j := by
  cases wanted <;> cases j <;> first | rfl | contradiction

/-- A member that is wanted is read with what is wanted of its value, and any other one is passed
by. -/
theorem readPart_of_readMember {bound : Nat} {keys : List String}
    {value : List Char → Option (Json × List Char)} {f : Json → Json} {s rest : List Char}
    {member : String × Json} (h : readMember (readValue bound) s = some (member, rest))
    (hvalue : member.1 ∈ keys → ∀ before after, readValue bound before = some (member.2, after) →
      value before = some (f member.2, after)) :
    readPart keys value s =
      some (if member.1 ∈ keys then some (member.1, f member.2) else none, rest) := by
  unfold readMember at h
  split at h
  · contradiction
  next key after hkey =>
  split at h
  · next start hcolon =>
      obtain ⟨⟨j, last⟩, hread, heq⟩ := Option.map_eq_some_iff.1 h
      obtain ⟨rfl, rfl⟩ := Prod.mk.inj heq
      rw [readPart, hkey]
      simp only [hcolon]
      split
      · next hwanted => rw [hvalue hwanted start last hread, Option.map_some]
      · rw [skip_of_readValue hread, Option.map_some]
  · contradiction

/-- The members that are wanted, one by one. -/
theorem filterMap_wanted (keys : List String) (f : Json → Json) (members : List (String × Json)) :
    (members.map fun member =>
        if member.1 ∈ keys then some (member.1, f member.2) else none).filterMap id =
      (members.filter fun member => member.1 ∈ keys).map fun member => (member.1, f member.2) := by
  induction members with
  | nil => rfl
  | cons member rest ih =>
      by_cases hwanted : member.1 ∈ keys
      · rw [List.filter_cons_of_pos (by simpa using hwanted), List.map_cons, if_pos hwanted,
          List.map_cons, ← ih]
        rfl
      · rw [List.filter_cons_of_neg (by simpa using hwanted), List.map_cons, if_neg hwanted, ← ih]
        rfl

/-- The items of an array are read with what is wanted of them, if each of them can be. -/
theorem readSequence_only {wanted : Wanted} {bound : Nat} {s rest : List Char} {items : List Json}
    (h : readSequence (readValue bound) ']' s = some (items, rest))
    (hitem : ∀ {before after : List Char} {j : Json}, readValue bound before = some (j, after) →
      (j.only wanted).depth ≤ maxDepth → readWanted wanted before = some (j.only wanted, after))
    (hdepth : (array (items.map (only wanted))).depth ≤ maxDepth) :
    readSequence (readWanted wanted) ']' s = some (items.map (only wanted), rest) := by
  have hbelow := depthOfItems_le_iff.1 (Nat.le_of_succ_le hdepth)
  exact readSequence_map h fun item hmem _ _ hread =>
    hitem hread (hbelow _ (List.mem_map_of_mem hmem))

/-- What is wanted of a value is read where the value is, if it is not too deep itself. -/
theorem readWanted_of_readValue (wanted : Wanted) {bound : Nat} {s rest : List Char} {j : Json}
    (h : readValue bound s = some (j, rest)) (hdepth : (j.only wanted).depth ≤ maxDepth) :
    readWanted wanted s = some (j.only wanted, rest) := by
  induction wanted generalizing bound s rest j with
  | whole => exact readValue_of_depth_le h hdepth
  | parts keys value ih =>
      rw [readWanted]
      cases readValue_succ_eq_some_iff.1 (readValue_succ h) with
      | scalar hscalar =>
          rw [only_of_depth (depth_of_readScalar hscalar)]
          split
          · next hblanks => exact absurd rfl (ne_bracket_of_readScalar (hblanks ▸ hscalar)).1
          · next hblanks => exact absurd rfl (ne_bracket_of_readScalar (hblanks ▸ hscalar)).2
          · exact readValue_of_readScalar hscalar maxDepth
      | @array start items blanks hitems =>
          simp only [blanks, readSequence_only hitems ih hdepth, Option.map_some, only]
      | @object start members blanks hmembers =>
          have hbelow := depthOfMembers_le_iff.1 (Nat.le_of_succ_le hdepth)
          have hwanted : readSequence (readPart keys (readWanted value)) '\x7d' start =
              some (members.map fun member =>
                if member.1 ∈ keys then some (member.1, member.2.only value) else none, rest) :=
            readSequence_map hmembers fun member hmember _ _ hread =>
              readPart_of_readMember hread fun hkey _ _ hvalue => ih hvalue
                (hbelow (member.1, member.2.only value)
                  (List.mem_map_of_mem (List.mem_filter.2 ⟨hmember, decide_eq_true hkey⟩)))
          simp only [blanks, hwanted, Option.map_some, filterMap_wanted, only]
  | items item ih =>
      rw [readWanted]
      cases readValue_succ_eq_some_iff.1 (readValue_succ h) with
      | scalar hscalar =>
          rw [only_of_depth (depth_of_readScalar hscalar)]
          split
          · next hblanks => exact absurd rfl (ne_bracket_of_readScalar (hblanks ▸ hscalar)).1
          · exact readValue_of_readScalar hscalar maxDepth
      | @array start items blanks hitems =>
          simp only [blanks, readSequence_only hitems ih hdepth, Option.map_some, only]
      | @object start members blanks hmembers =>
          simp only [blanks]
          exact readValue_of_depth_le h hdepth

/-- What is wanted of a text that is JSON is read, if it is not too deep itself. -/
theorem parseWanted?_of_reads {wanted : Wanted} {text : String} {j : Json} (h : Reads text j)
    (hdepth : (j.only wanted).depth ≤ maxDepth) :
    parseWanted? wanted text = some (j.only wanted) := by
  obtain ⟨bound, rest, hread, hblanks⟩ := h
  rw [parseWanted?, whole?, readWanted_of_readValue wanted hread hdepth]
  exact if_pos hblanks

/-- What can be read as a whole can be read in parts. -/
theorem parseWanted?_of_parse? {wanted : Wanted} {text : String} {j : Json}
    (h : parse? text = some j) : parseWanted? wanted text = some (j.only wanted) := by
  obtain ⟨hreads, hdepth⟩ := parse?_eq_some_iff.1 h
  exact parseWanted?_of_reads hreads (Nat.le_trans (depth_only_le wanted j) hdepth)

end FramedAvro.Json
