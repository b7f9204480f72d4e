import FramedAvro.Json.Parser
import FramedAvro.Json.Printer

/-!
# Reading what was written

The text of a value is read back as that value, and what stands after it is left. The readers take
as much as they can, so the texts after a value are restricted to the ones that occur: none, or one
that starts with a comma or with a closing bracket.

A value with too many arrays and objects inside each other has a text that is not read, but not the
text of another value: reading deeper would give the value back.

## Main results

* `Json.readValue_chars`: a value is read from a text that starts with its characters.
* `Json.parse?_text`: the text of a value that is not too deep is read as that value.
* `Json.text_injective`: different values have different texts.
-/

namespace FramedAvro

namespace Digit

/-- A digit is read back from its character. -/
theorem ofChar?_toChar (d : Digit) : ofChar? d.toChar = some d := by
  revert d
  decide

/-- No digit is written as a sign. -/
theorem toChar_ne_minus (d : Digit) : d.toChar ≠ '-' := by
  revert d
  decide

/-- The character of a digit is the one that its value has in decimal. -/
theorem digitChar_val (d : Digit) : d.val.digitChar = d.toChar := by
  revert d
  decide

/-- A digit at the end counts once, and those before it ten times as much. -/
theorem toNat_concat (digits : List Digit) (last : Digit) :
    toNat (digits ++ [last]) = 10 * toNat digits + last.val := by
  rw [toNat, toNat, List.foldl_append]
  rfl

end Digit

namespace Json

/-- The texts that may stand after a value. -/
def Follows : List Char → Prop
  | [] => True
  | c :: _ => c = ',' ∨ c = ']' ∨ c = '\x7d'

/-! ### Numbers -/

/-- The leading digits end where what stands after them has none. -/
theorem readDigits_append (digits : List Digit) {rest : List Char}
    (h : readDigits rest = ([], rest)) :
    readDigits (digits.map Digit.toChar ++ rest) = (digits, rest) := by
  induction digits with
  | nil => exact h
  | cons d digits ih =>
      simp only [List.map_cons, List.cons_append, readDigits, Digit.ofChar?_toChar, ih]

/-- The digits of a number spell it, and only zero starts with a zero. -/
theorem exists_digits_decimal (n : Nat) :
    ∃ first others, decimal n = (first :: others).map Digit.toChar ∧
      Digit.toNat (first :: others) = n ∧ (first = 0 → others = []) := by
  induction n using Nat.strongRecOn with
  | ind n ih =>
      by_cases hsmall : n < 10
      · refine ⟨⟨n, hsmall⟩, [], ?_, by simp [Digit.toNat], fun _ => rfl⟩
        rw [decimal, Nat.toDigits_of_lt_base hsmall, List.map_singleton]
        exact congrArg (fun c => [c]) (Digit.digitChar_val ⟨n, hsmall⟩)
      · obtain ⟨first, others, hchars, hvalue, hzero⟩ := ih (n / 10) (by omega)
        have hlast : n % 10 < 10 := Nat.mod_lt n (by omega)
        refine ⟨first, others ++ [⟨n % 10, hlast⟩], ?_, ?_, ?_⟩
        · rw [decimal, Nat.toDigits_of_base_le (by omega) (by omega), ← decimal, hchars,
            ← List.cons_append, List.map_append, List.map_singleton]
          exact congrArg (fun c => _ ++ [c]) (Digit.digitChar_val ⟨n % 10, hlast⟩)
        · rw [← List.cons_append, Digit.toNat_concat, hvalue]
          show 10 * (n / 10) + n % 10 = n
          omega
        · intro hfirst
          rw [hfirst, hzero hfirst] at hvalue
          have hnone : Digit.toNat [0] = 0 := rfl
          omega

/-- A whole number is read back from its decimal digits where no digit follows. -/
theorem readWhole_decimal (n : Nat) {rest : List Char} (h : readDigits rest = ([], rest)) :
    readWhole (decimal n ++ rest) = some (n, rest) := by
  obtain ⟨first, others, hchars, hvalue, hzero⟩ := exists_digits_decimal n
  rw [hchars, readWhole, readDigits_append _ h]
  have hspelled : ¬(first = 0 ∧ others ≠ []) := fun hboth => hboth.2 (hzero hboth.1)
  simp only [if_neg hspelled, hvalue]

/-- What follows a number does not go on with digits. -/
theorem Follows.readDigits {rest : List Char} (h : Follows rest) :
    readDigits rest = ([], rest) := by
  cases rest with
  | nil => rfl
  | cons c rest =>
      obtain rfl | rfl | rfl := h <;> rfl

/-- What follows a number does not go on with a fraction. -/
theorem Follows.readFraction {rest : List Char} (h : Follows rest) :
    readFraction rest = some ([], rest) := by
  cases rest with
  | nil => rfl
  | cons c rest =>
      obtain rfl | rfl | rfl := h <;> rfl

/-- What follows a number does not go on with an exponent. -/
theorem Follows.readExponent {rest : List Char} (h : Follows rest) :
    readExponent rest = some (none, rest) := by
  cases rest with
  | nil => rfl
  | cons c rest =>
      obtain rfl | rfl | rfl := h <;> rfl

/-- The characters of an exponent, or none. -/
def exponentChars : Option Exponent → List Char
  | some e => Number.Exponent.chars e
  | none => []

/-- The characters of the digits after the point, with the point, or none. -/
def fractionChars (fraction : List Digit) : List Char :=
  if fraction.isEmpty then [] else '.' :: fraction.map Digit.toChar

/-- A number is written as its sign, its whole part, its fraction and its exponent. -/
theorem Number.chars_eq (n : Number) :
    n.chars = (if n.negative then ['-'] else []) ++
      (decimal n.whole ++ (fractionChars n.fraction ++ exponentChars n.exponent)) := by
  rw [Number.chars, fractionChars, List.append_assoc, List.append_assoc]
  cases n.exponent <;> rfl

/-- The sign of an exponent is read back. -/
theorem readSign_append (e : Exponent) (rest : List Char) :
    readSign ((if e.negative then '-' else '+') :: rest) = (e.negative, rest) := by
  cases e.negative <;> rfl

/-- An exponent, or none, is read back where the number ends after it. -/
theorem readExponent_append (exponent : Option Exponent) {rest : List Char} (h : Follows rest) :
    readExponent (exponentChars exponent ++ rest) = some (exponent, rest) := by
  cases exponent with
  | none => exact h.readExponent
  | some e =>
      rw [exponentChars, Number.Exponent.chars, List.cons_append, List.cons_append, readExponent,
        if_pos (Or.inl rfl), readSign_append]
      simp only [readDigits_append _ h.readDigits]

/-- An exponent does not start with a digit. -/
theorem readDigits_exponentChars (exponent : Option Exponent) {rest : List Char}
    (h : Follows rest) :
    readDigits (exponentChars exponent ++ rest) = ([], exponentChars exponent ++ rest) := by
  cases exponent with
  | none => exact h.readDigits
  | some e => rfl

/-- A fraction, or none, is read back where an exponent or the end of the number follows. -/
theorem readFraction_append (fraction : List Digit) (exponent : Option Exponent) {rest : List Char}
    (h : Follows rest) :
    readFraction (fractionChars fraction ++ (exponentChars exponent ++ rest)) =
      some (fraction, exponentChars exponent ++ rest) := by
  cases fraction with
  | nil =>
      cases exponent with
      | none => exact h.readFraction
      | some e => rfl
  | cons d digits =>
      have hdigits := readDigits_append (d :: digits) (readDigits_exponentChars exponent h)
      show readFraction ('.' :: ((d :: digits).map Digit.toChar ++ _)) = _
      rw [readFraction, hdigits]

/-- A fraction does not start with a digit. -/
theorem readDigits_fractionChars (fraction : List Digit) (exponent : Option Exponent)
    {rest : List Char} (h : Follows rest) :
    readDigits (fractionChars fraction ++ (exponentChars exponent ++ rest)) =
      ([], fractionChars fraction ++ (exponentChars exponent ++ rest)) := by
  cases fraction with
  | nil => exact readDigits_exponentChars exponent h
  | cons d digits => rfl

/-- The parts of a number after its sign are read back, and the sign is taken as it is given. -/
theorem readUnsigned_append (n : Number) {rest : List Char} (h : Follows rest) :
    readUnsigned n.negative
        (decimal n.whole ++ (fractionChars n.fraction ++ (exponentChars n.exponent ++ rest))) =
      some (n, rest) := by
  rw [readUnsigned, readWhole_decimal _ (readDigits_fractionChars _ _ h)]
  simp only [Option.bind_eq_bind, Option.bind_some, readFraction_append _ _ h,
    readExponent_append _ h, Option.pure_def]

/-- The first character of a number. -/
theorem Number.exists_chars_eq_cons (n : Number) :
    ∃ c rest, n.chars = c :: rest ∧ (c = '-' ∨ ∃ d : Digit, c = d.toChar) := by
  obtain ⟨first, others, hchars, -, -⟩ := exists_digits_decimal n.whole
  rw [Number.chars_eq]
  cases n.negative with
  | true => exact ⟨'-', _, rfl, Or.inl rfl⟩
  | false =>
      rw [hchars]
      exact ⟨first.toChar, _, rfl, Or.inr ⟨first, rfl⟩⟩

/-- A number that starts with a digit has no sign. -/
theorem readNumber_digit (d : Digit) (rest : List Char) :
    readNumber (d.toChar :: rest) = readUnsigned false (d.toChar :: rest) := by
  rw [readNumber]
  intro rest h
  exact d.toChar_ne_minus (List.cons.inj h).1

/-- A number is read back from its characters where no character follows that could be part of it.
-/
theorem readNumber_append (n : Number) {rest : List Char} (h : Follows rest) :
    readNumber (n.chars ++ rest) = some (n, rest) := by
  have hunsigned := readUnsigned_append n h
  rw [Number.chars_eq]
  simp only [List.append_assoc]
  cases hnegative : n.negative with
  | true =>
      rw [hnegative] at hunsigned
      exact hunsigned
  | false =>
      rw [hnegative] at hunsigned
      obtain ⟨first, others, hchars, -, -⟩ := exists_digits_decimal n.whole
      rw [hchars] at hunsigned ⊢
      exact (readNumber_digit first _).trans hunsigned

/-! ### Strings -/

/-- A hexadecimal digit is read back from its character. -/
theorem Hex.value?_digit {n : Nat} (h : n < 16) : Hex.value? (Hex.digit n) = some n := by
  have hall : ∀ n : Fin 16, Hex.value? (Hex.digit n.val) = some n.val := by decide
  exact hall ⟨n, h⟩

/-- An escape stands for a character. -/
theorem readChars_escaped {s rest : List Char} {c : Char} (h : readEscape s = some (c, rest)) :
    readChars ('\\' :: s) = (readChars rest).map fun (cs, last) => (c :: cs, last) := by
  rw [readChars, if_neg (by decide), if_pos rfl]
  split
  · next hnone =>
      rw [h] at hnone
      contradiction
  · next e after hsome =>
      rw [h] at hsome
      obtain ⟨rfl, rfl⟩ := Prod.mk.inj (Option.some.inj hsome)
      rfl

/-- The escape by code of a character below the space. -/
theorem readEscape_code {c : Char} (h : c.toNat < 32) (rest : List Char) :
    readEscape ('u' :: '0' :: '0' :: Hex.digit (c.toNat / 16) :: Hex.digit (c.toNat % 16) :: rest) =
      some (c, rest) := by
  have hunit : readUnit
      ('0' :: '0' :: Hex.digit (c.toNat / 16) :: Hex.digit (c.toNat % 16) :: rest) =
      some (c.toNat, rest) := by
    have hzero : Hex.value? '0' = some 0 := by decide
    rw [readUnit, hzero, Hex.value?_digit (by omega), Hex.value?_digit (by omega)]
    have hsum : ((0 * 16 + 0) * 16 + c.toNat / 16) * 16 + c.toNat % 16 = c.toNat := by omega
    simp only [Option.bind_eq_bind, Option.bind_some, hsum, Option.pure_def]
  rw [readEscape, if_pos rfl, readCode, hunit]
  simp only [if_neg (show ¬(0xDC00 ≤ c.toNat ∧ c.toNat ≤ 0xDFFF) by omega),
    if_neg (show ¬(0xD800 ≤ c.toNat ∧ c.toNat ≤ 0xDBFF) by omega), Char.ofNat_toNat]

/-- A character is read from what it is written with. -/
theorem readChars_escape (c : Char) (rest : List Char) :
    readChars (escape c ++ rest) = (readChars rest).map fun (cs, last) => (c :: cs, last) := by
  rw [escape]
  split
  · next h =>
      obtain rfl := h
      exact readChars_escaped rfl
  split
  · next h =>
      obtain rfl := h
      exact readChars_escaped rfl
  split
  · next h =>
      obtain rfl : c = Char.ofNat 8 := by rw [← h, Char.ofNat_toNat]
      exact readChars_escaped rfl
  split
  · next h =>
      obtain rfl := h
      exact readChars_escaped rfl
  split
  · next h =>
      obtain rfl := h
      exact readChars_escaped rfl
  split
  · next h =>
      obtain rfl : c = Char.ofNat 12 := by rw [← h, Char.ofNat_toNat]
      exact readChars_escaped rfl
  split
  · next h =>
      obtain rfl := h
      exact readChars_escaped rfl
  split
  · next h => exact readChars_escaped (readEscape_code h rest)
  · next hquote hbackslash _ _ _ _ _ hplain =>
      rw [List.singleton_append, readChars, if_neg hquote, if_neg hbackslash, if_neg hplain]

/-- The characters of a text are read back from their escapes, up to the quote that ends them. -/
theorem readChars_append (text rest : List Char) :
    readChars (text.flatMap escape ++ '"' :: rest) = some (text, rest) := by
  induction text with
  | nil =>
      show readChars ('"' :: rest) = some ([], rest)
      rw [readChars, if_pos rfl]
  | cons c text ih =>
      rw [List.flatMap_cons, List.append_assoc, readChars_escape, ih]
      rfl

/-- A text is read back from its quoted form, whatever comes after it. -/
theorem readString_append (text : String) (rest : List Char) :
    readString (quote text ++ rest) = some (text, rest) := by
  have hquote : quote text ++ rest = '"' :: (text.toList.flatMap escape ++ '"' :: rest) := by
    rw [quote, List.append_assoc]
    rfl
  rw [hquote, readString, readChars_append, Option.map_some]
  show some (String.ofList text.toList, rest) = some (text, rest)
  rw [String.ofList_toList]

/-! ### Sequences -/

/-- Where no blank stands, nothing is skipped. -/
theorem skipBlanks_cons {c : Char} (h : isBlank c = false) (rest : List Char) :
    skipBlanks (c :: rest) = c :: rest := by
  rw [skipBlanks, List.dropWhile_cons_of_neg]
  simp [h]

/-- Things written one after the other, with commas between them. -/
def separated {α : Type} (write : α → List Char) : List α → List Char
  | [] => []
  | a :: more => write a ++ more.flatMap fun b => ',' :: write b

section Sequences

variable {α : Type} {item : List Char → Option (α × List Char)} {write : α → List Char}
  {closing : Char}

/-- One or more things are read when each of them is, up to the closing bracket. -/
theorem readItems_append (hclosing : closing = ']' ∨ closing = '\x7d') (a : α) (more : List α)
    (h : ∀ b ∈ a :: more, ∀ rest, Follows rest → item (write b ++ rest) = some (b, rest))
    (rest : List Char) :
    readItems item closing
        (write a ++ ((more.flatMap fun b => ',' :: write b) ++ closing :: rest)) =
      some (a :: more, rest) := by
  have hblank : isBlank closing = false := by
    obtain rfl | rfl := hclosing <;> decide
  induction more generalizing a with
  | nil =>
      have hfollows : Follows (closing :: rest) := Or.inr hclosing
      rw [List.flatMap_nil, List.nil_append, readItems, h a List.mem_cons_self _ hfollows]
      simp only [skipBlanks_cons hblank, if_pos]
  | cons b more ih =>
      have hmore := ih b fun c hc => h c (List.mem_cons_of_mem a hc)
      have hcomma : ',' ≠ closing := by
        obtain rfl | rfl := hclosing <;> decide
      have hfollows (tail : List Char) : Follows (',' :: tail) := Or.inl rfl
      simp only [List.flatMap_cons, List.cons_append, List.append_assoc]
      rw [readItems, h a List.mem_cons_self _ (hfollows _)]
      simp only [skipBlanks_cons (show isBlank ',' = false by decide), if_neg hcomma]
      rw [if_pos, hmore]
      · rfl
      · refine ⟨trivial, ?_⟩
        simp only [List.length_append, List.length_cons]
        omega

/-- Any number of things is read when each of them is and starts with something else than a blank or
the closing bracket. -/
theorem readSequence_append (hclosing : closing = ']' ∨ closing = '\x7d') (all : List α)
    (hstart : ∀ b ∈ all, ∃ c tail, write b = c :: tail ∧ isBlank c = false ∧ c ≠ closing)
    (h : ∀ b ∈ all, ∀ rest, Follows rest → item (write b ++ rest) = some (b, rest))
    (rest : List Char) :
    readSequence item closing (separated write all ++ closing :: rest) = some (all, rest) := by
  cases all with
  | nil =>
      have hblank : isBlank closing = false := by
        obtain rfl | rfl := hclosing <;> decide
      rw [separated, List.nil_append, readSequence, skipBlanks_cons hblank]
      simp only [if_pos]
  | cons a more =>
      obtain ⟨c, tail, hwrite, hblank, hopen⟩ := hstart a List.mem_cons_self
      have hitems := readItems_append hclosing a more h rest
      rw [separated, List.append_assoc]
      rw [hwrite, List.cons_append] at hitems ⊢
      rw [readSequence, skipBlanks_cons hblank]
      simp only [if_neg hopen, hitems]

end Sequences

/-- The items after the first one are written with a comma before each. -/
theorem charsOfMoreItems_eq (items : List Json) :
    charsOfMoreItems items = items.flatMap fun item => ',' :: item.chars := by
  induction items with
  | nil => rfl
  | cons item rest ih => rw [charsOfMoreItems, ih, List.flatMap_cons, List.cons_append]

/-- Items are written with commas between them. -/
theorem charsOfItems_eq (items : List Json) : charsOfItems items = separated chars items := by
  cases items with
  | nil => rfl
  | cons item rest => rw [charsOfItems, charsOfMoreItems_eq, separated]

/-- The characters of a member. -/
def memberChars (member : String × Json) : List Char :=
  quote member.1 ++ ':' :: member.2.chars

/-- The members after the first one are written with a comma before each. -/
theorem charsOfMoreMembers_eq (members : List (String × Json)) :
    charsOfMoreMembers members = members.flatMap fun member => ',' :: memberChars member := by
  induction members with
  | nil => rfl
  | cons member rest ih =>
      rw [charsOfMoreMembers, ih, List.flatMap_cons, memberChars]
      simp only [List.cons_append, List.append_assoc]

/-- Members are written with commas between them. -/
theorem charsOfMembers_eq (members : List (String × Json)) :
    charsOfMembers members = separated memberChars members := by
  cases members with
  | nil => rfl
  | cons member rest =>
      rw [charsOfMembers, charsOfMoreMembers_eq, separated, memberChars]

/-! ### Values -/

mutual

/-- How many arrays and objects of a value stand inside each other. -/
def depth : Json → Nat
  | array items => depthOfItems items + 1
  | object members => depthOfMembers members + 1
  | null => 0
  | bool _ => 0
  | number _ => 0
  | string _ => 0

/-- The depth of the deepest item. -/
def depthOfItems : List Json → Nat
  | [] => 0
  | item :: rest => max item.depth (depthOfItems rest)

/-- The depth of the deepest member. -/
def depthOfMembers : List (String × Json) → Nat
  | [] => 0
  | (_, value) :: rest => max value.depth (depthOfMembers rest)

end

/-- No item is nested deeper than all of them are. -/
theorem depth_le_depthOfItems {item : Json} {items : List Json} (h : item ∈ items) :
    item.depth ≤ depthOfItems items := by
  induction items with
  | nil => contradiction
  | cons first rest ih =>
      rw [depthOfItems]
      obtain rfl | h := List.mem_cons.1 h
      · exact Nat.le_max_left _ _
      · exact Nat.le_trans (ih h) (Nat.le_max_right _ _)

/-- No member is nested deeper than all of them are. -/
theorem depth_le_depthOfMembers {member : String × Json} {members : List (String × Json)}
    (h : member ∈ members) : member.2.depth ≤ depthOfMembers members := by
  induction members with
  | nil => contradiction
  | cons first rest ih =>
      rw [depthOfMembers]
      obtain rfl | h := List.mem_cons.1 h
      · exact Nat.le_max_left _ _
      · exact Nat.le_trans (ih h) (Nat.le_max_right _ _)

/-- The first character of a value. -/
theorem exists_chars_eq_cons (j : Json) :
    ∃ c rest, j.chars = c :: rest ∧ isBlank c = false ∧ c ≠ ']' := by
  cases j with
  | null => exact ⟨'n', _, rfl, by decide, by decide⟩
  | bool b => cases b with
    | true => exact ⟨'t', _, rfl, by decide, by decide⟩
    | false => exact ⟨'f', _, rfl, by decide, by decide⟩
  | number n =>
      obtain ⟨c, rest, hchars, hfirst⟩ := n.exists_chars_eq_cons
      refine ⟨c, rest, hchars, ?_⟩
      obtain rfl | ⟨d, rfl⟩ := hfirst
      · decide
      · clear hchars
        revert d
        decide
  | string text => exact ⟨'"', _, rfl, by decide, by decide⟩
  | array items => exact ⟨'[', _, rfl, by decide, by decide⟩
  | object members => exact ⟨'\x7b', _, rfl, by decide, by decide⟩

/-- What starts with no bracket is read as a scalar, however deep a value may be. -/
theorem readValue_scalar (depth : Nat) {c : Char} (rest : List Char) (hblank : isBlank c = false)
    (harray : c ≠ '[') (hobject : c ≠ '\x7b') :
    readValue depth (c :: rest) = readScalar (c :: rest) := by
  cases depth with
  | zero => rw [readValue, skipBlanks_cons hblank]
  | succ depth =>
      rw [readValue, skipBlanks_cons hblank]
      simp only [if_neg harray, if_neg hobject]

/-- A number is read back from its characters, since it starts with a digit or a sign. -/
theorem readScalar_number (n : Number) {rest : List Char} (h : Follows rest) :
    readScalar (n.chars ++ rest) = some (number n, rest) := by
  have hnumber := readNumber_append n h
  obtain ⟨c, tail, hchars, hfirst⟩ := n.exists_chars_eq_cons
  have hother : c ≠ '"' ∧ c ≠ 'n' ∧ c ≠ 't' ∧ c ≠ 'f' := by
    obtain rfl | ⟨d, rfl⟩ := hfirst
    · decide
    · clear hchars
      revert d
      decide
  rw [hchars, List.cons_append] at hnumber ⊢
  rw [readScalar, if_neg hother.1, if_neg hother.2.1, if_neg hother.2.2.1, if_neg hother.2.2.2,
    hnumber]
  rfl

/-- A member is read when its value is. -/
theorem readMember_append {value : List Char → Option (Json × List Char)} {member : String × Json}
    {rest : List Char} (h : value (member.2.chars ++ rest) = some (member.2, rest)) :
    readMember value (memberChars member ++ rest) = some (member, rest) := by
  have hkey := readString_append member.1 (':' :: (member.2.chars ++ rest))
  have hchars : memberChars member ++ rest =
      quote member.1 ++ ':' :: (member.2.chars ++ rest) := by
    rw [memberChars, List.append_assoc, List.cons_append]
  have hblank : skipBlanks (quote member.1 ++ ':' :: (member.2.chars ++ rest)) =
      quote member.1 ++ ':' :: (member.2.chars ++ rest) :=
    skipBlanks_cons (by decide) _
  rw [hchars, readMember, hblank, hkey]
  simp only [skipBlanks_cons (show isBlank ':' = false by decide), h]
  rfl

/-- A value that is not too deep is read from a text that starts with its characters. -/
theorem readValue_chars : (j : Json) → {depth : Nat} → j.depth ≤ depth → {rest : List Char} →
    Follows rest → readValue depth (j.chars ++ rest) = some (j, rest)
  | null, depth, _, rest, _ => readValue_scalar depth _ (by decide) (by decide) (by decide)
  | bool true, depth, _, rest, _ => readValue_scalar depth _ (by decide) (by decide) (by decide)
  | bool false, depth, _, rest, _ => readValue_scalar depth _ (by decide) (by decide) (by decide)
  | number n, depth, _, rest, hrest => by
      have hscalar := readScalar_number n hrest
      obtain ⟨c, tail, hchars, hfirst⟩ := n.exists_chars_eq_cons
      rw [chars]
      rw [hchars, List.cons_append] at hscalar ⊢
      rw [← hscalar]
      obtain rfl | ⟨d, rfl⟩ := hfirst
      · exact readValue_scalar depth _ (by decide) (by decide) (by decide)
      · clear hscalar hchars
        refine readValue_scalar depth _ ?_ ?_ ?_ <;> (revert d; decide)
  | string text, depth, _, rest, _ => by
      have hstring := readString_append text rest
      refine (readValue_scalar depth _ (by decide) (by decide) (by decide)).trans ?_
      show (readString (quote text ++ rest)).map _ = _
      rw [hstring]
      rfl
  | array items, 0, hdepth, rest, _ => by
      rw [depth] at hdepth
      contradiction
  | array items, bound + 1, hdepth, rest, _ => by
      rw [depth] at hdepth
      have hsequence := readSequence_append (Or.inl rfl) items
        (fun item _ => item.exists_chars_eq_cons)
        (fun item hitem rest hrest => readValue_chars item
          (Nat.le_trans (depth_le_depthOfItems hitem) (Nat.le_of_succ_le_succ hdepth)) hrest) rest
      rw [chars, charsOfItems_eq, List.append_assoc, List.cons_append, List.singleton_append,
        readValue, skipBlanks_cons (by decide)]
      simp only [if_pos, hsequence]
      rfl
  | object members, 0, hdepth, rest, _ => by
      rw [depth] at hdepth
      contradiction
  | object members, bound + 1, hdepth, rest, _ => by
      rw [depth] at hdepth
      have hsequence : readSequence (readMember (readValue bound)) '\x7d'
          (separated memberChars members ++ '\x7d' :: rest) = some (members, rest) :=
        readSequence_append (Or.inr rfl) members
          (fun member _ => ⟨'"', _, rfl, by decide, by decide⟩)
          (fun member hmember rest hrest => readMember_append (readValue_chars member.2
            (Nat.le_trans (depth_le_depthOfMembers hmember) (Nat.le_of_succ_le_succ hdepth)) hrest))
          rest
      rw [chars, charsOfMembers_eq, List.append_assoc, List.cons_append, List.singleton_append,
        readValue, skipBlanks_cons (by decide)]
      simp only [if_neg (show '\x7b' ≠ '[' by decide), if_pos, hsequence]
      rfl
termination_by j => sizeOf j
decreasing_by
  · have := List.sizeOf_lt_of_mem hitem
    simp only [array.sizeOf_spec]
    omega
  · have := List.sizeOf_lt_of_mem hmember
    have : sizeOf member.2 < sizeOf member := by
      obtain ⟨key, value⟩ := member
      simp only [Prod.mk.sizeOf_spec]
      omega
    simp only [object.sizeOf_spec]
    omega

/-- The text of a value that is not too deep is read as that value. -/
theorem parse?_text {j : Json} (h : j.depth ≤ maxDepth) : parse? j.text = some j := by
  have hread : readValue maxDepth (j.chars ++ []) = some (j, []) := readValue_chars j h trivial
  rw [List.append_nil] at hread
  rw [parse?, text, String.toList_ofList, parseChars?, whole?, hread]
  rfl

/-- Different values are written differently. -/
theorem chars_injective {j other : Json} (h : j.chars = other.chars) : j = other := by
  have hread : readValue (max j.depth other.depth) (j.chars ++ []) = some (j, []) :=
    readValue_chars j (Nat.le_max_left _ _) trivial
  have hother : readValue (max j.depth other.depth) (other.chars ++ []) = some (other, []) :=
    readValue_chars other (Nat.le_max_right _ _) trivial
  rw [h, hother] at hread
  exact (Prod.mk.inj (Option.some.inj hread)).1.symm

/-- Different values have different texts. -/
theorem text_injective {j other : Json} (h : j.text = other.text) : j = other :=
  chars_injective (String.ofList_injective h)

end Json

end FramedAvro
