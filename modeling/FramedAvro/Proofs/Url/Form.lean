import Mathlib
import FramedAvro.Proofs.Url.Percent

/-!
# Reading a query

The names and the values of a query may be any texts, also with the signs in them that a query is
made of. Those are encoded, so that a query has as many signs between its parts as it has parts, and
reading it gives the names and values that it was written for. A plus sign is read as a space before
anything else, which is right because a plus sign of a text is encoded too.

## Main results

* `Url.Form.decode_encode`: a name or a value is decoded from its encoding.
* `Url.Form.decodePairs_encodePairs`: so are the names and values of a query.
-/

namespace FramedAvro.Url.Form

/-! ### One byte -/

/-- The character without the meaning that a plus sign has. -/
def spaced (c : Char) : Char :=
  if c = '+' then ' ' else c

/-- The bytes that stand for themselves are ASCII, and none of the signs of a query. -/
theorem isPlain_bounds {b : UInt8} (h : isPlain b = true) :
    b.toNat < 0x80 ∧ Char.ofNat b.toNat ∉ ['+', '%', '&', '='] := by
  have hall : ∀ n : Fin 256, isPlain (UInt8.ofNat n.val) = true →
      n.val < 0x80 ∧ Char.ofNat n.val ∉ ['+', '%', '&', '='] := by decide +kernel
  have hb := hall ⟨b.toNat, b.toNat_lt⟩
  rw [UInt8.ofNat_toNat] at hb
  exact hb h

/-- Neither are the digits of a byte that is encoded. -/
theorem not_mem_upperDigit {n : Nat} (h : n < 16) :
    Hex.upperDigit n ∉ ['+', '%', '&', '='] := by
  have hall : ∀ n : Fin 16, Hex.upperDigit n.val ∉ ['+', '%', '&', '='] := by decide
  exact hall ⟨n, h⟩

/-- No byte is written with the signs that separate the parts of a query. -/
theorem not_mem_ofByte (b : UInt8) {c : Char} (h : c ∈ ['&', '=']) : c ∉ ofByte b := by
  have hb := b.toNat_lt
  rw [ofByte]
  split
  · rintro hmem
    rw [List.mem_singleton.1 hmem] at h
    contradiction
  · split
    · next hplain =>
      intro hmem
      rw [List.mem_singleton.1 hmem] at h
      exact (isPlain_bounds hplain).2 (by simp_all)
    · have hhigh := not_mem_upperDigit (n := b.toNat / 16) (by omega)
      have hlow := not_mem_upperDigit (n := b.toNat % 16) (by omega)
      rw [Percent.ofByte]
      rintro hmem
      simp only [List.mem_cons, List.not_mem_nil, or_false] at hmem h hhigh hlow
      rcases hmem with rfl | rfl | rfl
      · simp at h
      · exact hhigh (by tauto)
      · exact hlow (by tauto)

/-- An encoded byte has no plus sign. -/
theorem map_spaced_ofByte (b : UInt8) :
    (Percent.ofByte b).map spaced = Percent.ofByte b := by
  have hdigit {n : Nat} (h : n < 16) : spaced (Hex.upperDigit n) = Hex.upperDigit n := by
    refine if_neg fun hplus => not_mem_upperDigit h ?_
    rw [hplus]
    exact List.mem_cons_self
  have hb := b.toNat_lt
  rw [Percent.ofByte, List.map_cons, List.map_cons, List.map_singleton, hdigit (by omega),
    hdigit (by omega)]
  rfl

/-- A byte below 128 is the encoding of its character. -/
theorem encode_ascii {b : UInt8} (h : b.toNat < 0x80) :
    Utf8.encode (String.singleton (Char.ofNat b.toNat)) = [b] := by
  have hchar : (Char.ofNat b.toNat).val.toNat = b.toNat := by
    rw [← Char.toNat, Char.toNat_ofNat, if_pos (Or.inl (by omega))]
  rw [Utf8.encode_singleton, String.utf8EncodeChar, hchar, if_pos (by omega), UInt8.ofNat_toNat]

/-- What is written for a byte is read as it, whatever follows. -/
theorem decode_ofByte (b : UInt8) (rest : List Char) :
    Percent.decode ((ofByte b).map spaced ++ rest) = b :: Percent.decode rest := by
  rw [ofByte]
  split
  · next hspace =>
    subst hspace
    have hchars : ['+'].map spaced ++ rest = ' ' :: rest := rfl
    rw [hchars, Percent.decode_cons (by decide)]
    rfl
  · split
    · next hplain =>
      obtain ⟨hascii, hsigns⟩ := isPlain_bounds hplain
      have hplus : Char.ofNat b.toNat ≠ '+' := by rintro heq; simp [heq] at hsigns
      have hpercent : Char.ofNat b.toNat ≠ '%' := by rintro heq; simp [heq] at hsigns
      rw [List.map_singleton, List.singleton_append, spaced, if_neg hplus,
        Percent.decode_cons hpercent, encode_ascii hascii, List.singleton_append]
    · rw [map_spaced_ofByte, Percent.decode_ofByte]

/-! ### One text -/

/-- Nothing that separates parameters occurs in an encoded text. -/
theorem not_mem_encode (text : String) {c : Char} (h : c ∈ ['&', '=']) : c ∉ encode text := by
  intro hmem
  obtain ⟨b, -, hb⟩ := List.mem_flatMap.1 hmem
  exact not_mem_ofByte b h hb

/-- A name or a value is decoded from its encoding. -/
theorem decode_encode (text : String) : decode (encode text) = text := by
  have hbytes (bytes : Bytes) :
      Percent.decode ((bytes.flatMap ofByte).map spaced) = bytes := by
    induction bytes with
    | nil =>
        rw [List.flatMap_nil, List.map_nil, Percent.decode]
    | cons b rest ih => rw [List.flatMap_cons, List.map_append, decode_ofByte, ih]
  have hencoded := hbytes (Utf8.encode text)
  rw [decode, encode]
  exact (congrArg Utf8.decodeLossy hencoded).trans (Utf8.decodeLossy_encode text)

/-! ### Names and values -/

/-- A part without the mark in it ends where the mark stands. -/
theorem splitAt_append {mark : Char} {part : List Char} (h : mark ∉ part) (rest : List Char) :
    splitAt mark (part ++ mark :: rest) = part :: splitAt mark rest := by
  induction part with
  | nil => rw [List.nil_append, splitAt, if_pos rfl]
  | cons c more ih =>
      obtain ⟨hc, hmore⟩ := not_or.1 (mt List.mem_cons.2 h)
      rw [List.cons_append, splitAt, if_neg (Ne.symm hc), ih hmore]

/-- Without the mark there is one part. -/
theorem splitAt_of_not_mem {mark : Char} {part : List Char} (h : mark ∉ part) :
    splitAt mark part = [part] := by
  induction part with
  | nil => rfl
  | cons c more ih =>
      obtain ⟨hc, hmore⟩ := not_or.1 (mt List.mem_cons.2 h)
      rw [splitAt, if_neg (Ne.symm hc), ih hmore]

/-- The characters of a name with its value. -/
def encodePair (pair : String × String) : List Char :=
  encode pair.1 ++ '=' :: encode pair.2

/-- Nothing that separates parameters occurs in one of them. -/
theorem not_mem_encodePair (pair : String × String) : '&' ∉ encodePair pair := by
  intro h
  rcases List.mem_append.1 h with h | h
  · exact not_mem_encode pair.1 (by decide) h
  · rcases List.mem_cons.1 h with h | h
    · contradiction
    · exact not_mem_encode pair.2 (by decide) h

/-- A name and its value are separated at the first equals sign. -/
theorem decode_encodePair (pair : String × String) :
    (decode ((encodePair pair).takeWhile (· ≠ '=')),
      decode (((encodePair pair).dropWhile (· ≠ '=')).drop 1)) = pair := by
  have hname : ∀ c ∈ encode pair.1, decide (c ≠ '=') = true := by
    rintro c hc
    refine decide_eq_true ?_
    rintro rfl
    exact not_mem_encode pair.1 (by decide) hc
  have hvalue : ('=' :: encode pair.2).takeWhile (· ≠ '=') = [] := rfl
  have hrest : ('=' :: encode pair.2).dropWhile (· ≠ '=') = '=' :: encode pair.2 := rfl
  rw [encodePair, List.takeWhile_append_of_pos hname, List.dropWhile_append_of_pos hname, hvalue,
    hrest, List.append_nil, List.drop_one, List.tail_cons, decode_encode, decode_encode]

/-- The names with their values are the parts between the ampersands. -/
theorem splitAt_encodePairs (pair : String × String) (rest : List (String × String)) :
    splitAt '&' (encodePairs (pair :: rest)) = (pair :: rest).map encodePair := by
  induction rest generalizing pair with
  | nil => exact splitAt_of_not_mem (not_mem_encodePair pair)
  | cons next rest ih =>
      have hchars : encodePairs (pair :: next :: rest) =
          encodePair pair ++ '&' :: encodePairs (next :: rest) := rfl
      rw [hchars, splitAt_append (not_mem_encodePair pair), ih next]
      rfl

/-- The names and values of a query are decoded from it, in their order. -/
theorem decodePairs_encodePairs (pairs : List (String × String)) :
    decodePairs (encodePairs pairs) = pairs := by
  cases pairs with
  | nil => rfl
  | cons pair rest =>
      have hnonempty : ((pair :: rest).map encodePair).filter (!·.isEmpty) =
          (pair :: rest).map encodePair := by
        refine List.filter_eq_self.2 fun part hpart => ?_
        obtain ⟨own, -, rfl⟩ := List.mem_map.1 hpart
        simp [encodePair]
      rw [decodePairs, splitAt_encodePairs, hnonempty, List.map_map]
      exact (List.map_congr_left fun own _ => decode_encodePair own).trans (List.map_id _)

end FramedAvro.Url.Form
