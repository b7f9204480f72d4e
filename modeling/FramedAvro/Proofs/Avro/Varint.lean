import Mathlib.Algebra.Ring.Nat
import FramedAvro.Avro.Varint

/-!
# Reading variable-length integers

What was written for an integer of 64 bits is read back, whatever stands after it: the folded
integer has at most 64 bits and so at most ten bytes. The readers for ints, for lengths and for
counts read those integers that they do not refuse.

## Main results

* `Varint.readNat_encodeNat`: a natural number is read from what it is written as.
* `Varint.decode?_encode`: so is an integer of 64 bits.
-/

namespace FramedAvro.Avro.Varint

/-- An integer is found again after its sign was moved to the last bit. -/
theorem unfold_fold (i : Int) : unfold (fold i) = i := by
  rw [fold]
  split <;> rw [unfold] <;> split <;> omega

/-- An integer of 64 bits stays below the limit of 64 bits when it is folded. -/
theorem fold_lt {i : Int} (h : Int64.minValue.toInt ≤ i) (h' : i ≤ Int64.maxValue.toInt) :
    fold i < UInt64.size := by
  have hmin : Int64.minValue.toInt = -9223372036854775808 := by decide
  have hmax : Int64.maxValue.toInt = 9223372036854775807 := by decide
  have hsize : UInt64.size = 18446744073709551616 := rfl
  rw [fold]
  split <;> omega

/-- Every number takes a byte. -/
theorem encodeNat_ne_nil (n : Nat) : encodeNat n ≠ [] := by
  rw [encodeNat]
  split <;> exact List.cons_ne_nil _ _

/-- Every integer takes a byte. -/
theorem length_encode_pos (i : Int) : 0 < (encode i).length :=
  List.length_pos_iff.2 (encodeNat_ne_nil (fold i))

/-- A number of one byte is read. -/
theorem readNat_encodeNat_of_lt (count : Nat) {n : Nat} (h : n < 128) (rest : Bytes) :
    readNat (count + 1) (encodeNat n ++ rest) = .number n rest := by
  have hbyte : (UInt8.ofNat n).toNat = n := by
    rw [UInt8.toNat_ofNat']
    omega
  rw [encodeNat, if_pos h, List.singleton_append, readNat, hbyte, if_pos h]

/-- A number of several bytes is read when what comes after its first byte is. -/
theorem readNat_encodeNat_of_le {count n : Nat} {rest : Bytes} (h : 128 ≤ n)
    (hnext : readNat count (encodeNat (n / 128) ++ rest) = .number (n / 128) rest) :
    readNat (count + 1) (encodeNat n ++ rest) = .number n rest := by
  have hbyte : (UInt8.ofNat (n % 128 + 128)).toNat = n % 128 + 128 := by
    rw [UInt8.toNat_ofNat']
    omega
  rw [encodeNat, if_neg (by omega), List.cons_append, readNat, hbyte, if_neg (by omega), hnext]
  simp only [Outcome.number.injEq, and_true]
  omega

/-- A number is read back when it has no more bytes than are read. -/
theorem readNat_encodeNat {count n : Nat} (h : n < 128 ^ (count + 1)) (rest : Bytes) :
    readNat (count + 1) (encodeNat n ++ rest) = .number n rest := by
  induction count generalizing n with
  | zero => exact readNat_encodeNat_of_lt 0 (by omega) rest
  | succ count ih =>
      rcases Nat.lt_or_ge n 128 with hsmall | hlarge
      · exact readNat_encodeNat_of_lt (count + 1) hsmall rest
      · have hnext : n / 128 < 128 ^ (count + 1) := by
          rw [Nat.pow_succ] at h
          omega
        exact readNat_encodeNat_of_le hlarge (ih hnext)

/-- An integer of 64 bits is read back in ten bytes at most, whatever comes after them. -/
theorem read_encode {i : Int} (h : Int64.minValue.toInt ≤ i) (h' : i ≤ Int64.maxValue.toInt)
    (rest : Bytes) : read (encode i ++ rest) = .number (fold i) rest := by
  have hlt := fold_lt h h'
  have hpow : fold i < 128 ^ (9 + 1) := Nat.lt_trans hlt (by decide)
  have hread : readNat maxLength (encodeNat (fold i) ++ rest) = .number (fold i) rest :=
    readNat_encodeNat hpow rest
  rw [read, encode, hread]
  simp only [Nat.mod_eq_of_lt hlt]

/-- An integer of 64 bits is read from what it is written as. -/
theorem decode?_encode {i : Int} (h : Int64.minValue.toInt ≤ i) (h' : i ≤ Int64.maxValue.toInt)
    (rest : Bytes) : decode? (encode i ++ rest) = some (i, rest) := by
  rw [decode?, read_encode h h']
  simp only [unfold_fold]

/-- An integer of 32 bits is read back as one. -/
theorem decodeInt?_encode {i : Int} (h : Int32.minValue.toInt ≤ i) (h' : i ≤ Int32.maxValue.toInt)
    (rest : Bytes) : decodeInt? (encode i ++ rest) = some (i, rest) := by
  have hmin : Int64.minValue.toInt ≤ Int32.minValue.toInt := by decide
  have hmax : Int32.maxValue.toInt ≤ Int64.maxValue.toInt := by decide
  rw [decodeInt?, decode?_encode (by omega) (by omega)]
  simp only [if_pos (And.intro h h')]

/-- A length that is not refused is an integer of 64 bits. -/
theorem le_maxValue_of_le_maxSize {n : Nat} (h : n ≤ maxSize) :
    Int64.minValue.toInt ≤ (n : Int) ∧ (n : Int) ≤ Int64.maxValue.toInt := by
  have hmin : Int64.minValue.toInt = -9223372036854775808 := by decide
  have hmax : Int64.maxValue.toInt = 9223372036854775807 := by decide
  have hsize : maxSize = 536870912 := rfl
  omega

/-- A length that is not too great is read back. -/
theorem decodeLength?_encode {n : Nat} (h : n ≤ maxSize) (rest : Bytes) :
    decodeLength? (encode n ++ rest) = some (n, rest) := by
  obtain ⟨hmin, hmax⟩ := le_maxValue_of_le_maxSize h
  rw [decodeLength?, decode?_encode hmin hmax]
  simp only [Int.toNat_natCast, if_pos (And.intro (Int.natCast_nonneg n) h)]

/-- A count that is not too great is read back, and is no size of a block. -/
theorem decodeCount?_encode {n : Nat} (h : n ≤ maxSize) (rest : Bytes) :
    decodeCount? (encode n ++ rest) = some (n, rest) := by
  obtain ⟨hmin, hmax⟩ := le_maxValue_of_le_maxSize h
  rw [decodeCount?, decode?_encode hmin hmax]
  simp only [Int.toNat_natCast, if_pos (Int.natCast_nonneg n), if_pos h]

end FramedAvro.Avro.Varint
