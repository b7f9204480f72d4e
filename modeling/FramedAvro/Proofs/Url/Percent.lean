import Mathlib
import FramedAvro.Proofs.Text.Utf8
import FramedAvro.Url.Percent

/-!
# Reading what is percent-encoded

Whatever characters are encoded, the bytes of a text come back when it is decoded, as long as the
percent sign is one of them. So no two texts are encoded alike.

## Main results

* `Url.Percent.decode_encode`: a text is decoded from its encoding.
-/

namespace FramedAvro

/-- An upper case digit is read back from its character. -/
theorem Hex.value?_upperDigit {n : Nat} (h : n < 16) : value? (upperDigit n) = some n := by
  have hall : ∀ n : Fin 16, value? (upperDigit n.val) = some n.val := by decide
  exact hall ⟨n, h⟩

namespace Url.Percent

/-- An encoded byte stands for the byte. -/
theorem decode_ofByte (b : UInt8) (rest : List Char) :
    decode (ofByte b ++ rest) = b :: decode rest := by
  have hlow := b.toNat_lt
  rw [ofByte, List.cons_append, List.cons_append, List.cons_append, List.nil_append, decode,
    if_pos rfl, Hex.value?_upperDigit (by omega), Hex.value?_upperDigit (by omega)]
  have hsum : 16 * (b.toNat / 16) + b.toNat % 16 = b.toNat := by omega
  simp only [hsum, UInt8.ofNat_toNat]

/-- Bytes that are all encoded are decoded again, whatever comes after them. -/
theorem decode_flatMap_ofByte (bytes : Bytes) (rest : List Char) :
    decode (bytes.flatMap ofByte ++ rest) = bytes ++ decode rest := by
  induction bytes with
  | nil => rfl
  | cons b more ih => rw [List.flatMap_cons, List.append_assoc, decode_ofByte, ih, List.cons_append]

/-- A character that is no percent sign stands for itself. -/
theorem decode_cons {c : Char} (h : c ≠ '%') (rest : List Char) :
    decode (c :: rest) = Utf8.encode (String.singleton c) ++ decode rest := by
  match rest with
  | [] => rw [decode, decode, List.append_nil]
  | [d] => rw [decode, decode]
  | high :: low :: rest => rw [decode, if_neg h]

/-- What is encoded is decoded, if no percent sign is left as it is. -/
theorem decode_encode {set : Char → Bool} (h : set '%' = true) (s : List Char) :
    decode (encode set s) = Utf8.encode (String.ofList s) := by
  induction s with
  | nil =>
      rw [encode, List.flatMap_nil, decode]
      rfl
  | cons c rest ih =>
      rw [Utf8.encode_cons, ← ih, encode, List.flatMap_cons, ← encode]
      split
      · exact decode_flatMap_ofByte _ _
      · next hset =>
          have hne : c ≠ '%' := by
            rintro rfl
            exact hset h
          exact decode_cons hne _

/-- A percent sign in a segment is encoded, so that it is not taken for an encoded byte. -/
theorem segmentSet_percent (special : Bool) : segmentSet special '%' = true := by
  cases special <;> decide

/-- A dot in a segment is not encoded. -/
theorem segmentSet_dot (special : Bool) : segmentSet special '.' = false := by
  cases special <;> decide

end Url.Percent

end FramedAvro
