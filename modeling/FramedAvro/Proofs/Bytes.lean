import Mathlib.Algebra.Ring.Nat
import FramedAvro.Bytes

/-!
# Words and their bytes

The fixed-width spellings of numbers as bytes are read back, in both byte orders, and bytes of a
known length are taken off the front of others.

## Main results

* `Bytes.toNatLittle_ofNatLittle`: a number is read from as many bytes as it needs.
* `Bytes.toWord_ofNat`: a word is read from its four bytes.
* `Bytes.ofWord_toWord`: four bytes are those of the word they stand for.
-/

namespace FramedAvro.Bytes

/-- As many bytes as there are in front are taken, and the others are left. -/
theorem takeExactly?_append (content rest : Bytes) :
    takeExactly? content.length (content ++ rest) = some (content, rest) := by
  rw [takeExactly?, List.length_append, if_neg (by omega), List.take_left, List.drop_left]

/-- A number is written with as many bytes as are asked for. -/
theorem length_ofNatLittle (count n : Nat) : (ofNatLittle count n).length = count := by
  induction count generalizing n with
  | zero => rfl
  | succ count ih => rw [ofNatLittle, List.length_cons, ih]

/-- A number that has room in the bytes is found in them again. -/
theorem toNatLittle_ofNatLittle {count n : Nat} (h : n < 256 ^ count) :
    toNatLittle (ofNatLittle count n) = n := by
  induction count generalizing n with
  | zero =>
      rw [Nat.pow_zero] at h
      rw [ofNatLittle, toNatLittle]
      omega
  | succ count ih =>
      have hnext : n / 256 < 256 ^ count := by
        rw [Nat.pow_succ] at h
        omega
      rw [ofNatLittle, toNatLittle, ih hnext, UInt8.toNat_ofNat']
      omega

/-- The four bytes of a word stand for the word. -/
theorem toWord_ofNat (word : UInt32) :
    toWord (UInt8.ofNat (word.toNat / 0x1000000)) (UInt8.ofNat (word.toNat / 0x10000))
      (UInt8.ofNat (word.toNat / 0x100)) (UInt8.ofNat word.toNat) = word := by
  have hlt := word.toNat_lt
  rw [← UInt32.toNat_inj, toWord, UInt32.toNat_ofNat']
  simp only [UInt8.toNat_ofNat']
  omega

/-- Four bytes stand for the number that they spell, whatever the first of them. -/
theorem toNat_toWord (a b c d : UInt8) :
    (toWord a b c d).toNat =
      a.toNat * 0x1000000 + b.toNat * 0x10000 + c.toNat * 0x100 + d.toNat := by
  have ha := a.toNat_lt
  have hb := b.toNat_lt
  have hc := c.toNat_lt
  have hd := d.toNat_lt
  rw [toWord, UInt32.toNat_ofNat']
  omega

/-- Four bytes are the bytes of the word that they stand for. -/
theorem ofWord_toWord (a b c d : UInt8) : ofWord (toWord a b c d) = [a, b, c, d] := by
  have ha := a.toNat_lt
  have hb := b.toNat_lt
  have hc := c.toNat_lt
  have hd := d.toNat_lt
  rw [ofWord, toNat_toWord]
  simp only [List.cons.injEq, and_true, ← UInt8.toNat_inj, UInt8.toNat_ofNat']
  omega

end FramedAvro.Bytes
