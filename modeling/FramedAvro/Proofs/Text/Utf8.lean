import Mathlib
import FramedAvro.Text.Utf8

/-!
# Reading UTF-8 without refusing any

The reader that puts a replacement where a character breaks off is not the one that refuses such
bytes, and works byte by byte. On the bytes of a text the two agree: nothing breaks off there, also
not where the range of the second byte depends on the first, which is to keep out long spellings and
surrogates.

## Main results

* `Utf8.decodeLossyFrom_encodeChar`: the bytes of a character are read as it, whatever follows.
* `Utf8.decodeLossy_encode`: every text is read back from its bytes.
-/

namespace FramedAvro.Utf8

/-! ### One byte -/

/-- A byte of ASCII is a character. -/
theorem decodeLossyFrom_ascii {b : UInt8} (h : b.toNat < 0x80) (rest : Bytes) :
    decodeLossyFrom .start (b :: rest) = Char.ofNat b.toNat :: decodeLossyFrom .start rest := by
  rw [decodeLossyFrom, step, lead, if_pos h]
  rfl

/-- A byte that starts a character of several bytes says which byte may follow. -/
theorem decodeLossyFrom_lead {b : UInt8} {low high count : Nat} (h : 0x80 ≤ b.toNat)
    (hcontinuation : continuation? b.toNat = some (low, high, count)) (rest : Bytes) :
    decodeLossyFrom .start (b :: rest) =
      decodeLossyFrom (.within (leadBits b.toNat count) count low high) rest := by
  rw [decodeLossyFrom, step, lead, if_neg (Nat.not_lt_of_le h), hcontinuation]
  rfl

/-- A byte in the middle of a character adds its bits. -/
theorem decodeLossyFrom_middle {b : UInt8} {bits count low high : Nat}
    (h : low ≤ b.toNat ∧ b.toNat ≤ high) (hcount : count ≠ 1) (rest : Bytes) :
    decodeLossyFrom (.within bits count low high) (b :: rest) =
      decodeLossyFrom (.within (bits * 64 + b.toNat % 64) (count - 1) 0x80 0xBF) rest := by
  rw [decodeLossyFrom, step, if_pos h, if_neg hcount]
  rfl

/-- The last byte of a character completes it. -/
theorem decodeLossyFrom_last {b : UInt8} {bits low high : Nat} (h : low ≤ b.toNat ∧ b.toNat ≤ high)
    (rest : Bytes) :
    decodeLossyFrom (.within bits 1 low high) (b :: rest) =
      Char.ofNat (bits * 64 + b.toNat % 64) :: decodeLossyFrom .start rest := by
  rw [decodeLossyFrom, step, if_pos h, if_pos rfl]
  rfl

/-! ### One character -/

/-- A byte that is less than 256 is itself. -/
theorem toNat_byte {n : Nat} (h : n < 256) : (UInt8.ofNat n).toNat = n := by
  rw [UInt8.toNat_ofNat', Nat.mod_eq_of_lt h]

/-- The code of a character is below the surrogates or above them. -/
theorem toNat_char (c : Char) : c.toNat < 0xD800 ∨ 0xDFFF < c.toNat ∧ c.toNat < 0x110000 := by
  rcases c.valid with h | ⟨hlow, hhigh⟩
  · exact .inl h
  · exact .inr ⟨hlow, hhigh⟩

/-- The second byte of a character of three bytes is in the range that the first one leaves. -/
theorem continuation?_three {v : Nat} (h : 0x800 ≤ v) (hvalid : v < 0xD800 ∨ 0xDFFF < v)
    (hlast : v < 0x10000) :
    ∃ low high, continuation? (v / 4096 % 16 + 224) = some (low, high, 2) ∧
      low ≤ v / 64 % 64 + 128 ∧ v / 64 % 64 + 128 ≤ high := by
  rw [continuation?, if_neg (by omega)]
  split
  · exact ⟨_, _, rfl, by omega, by omega⟩
  · split
    · exact ⟨_, _, rfl, by omega, by omega⟩
    · rw [if_pos (by omega)]
      exact ⟨_, _, rfl, by omega, by omega⟩

/-- The second byte of a character of four bytes is in the range that the first one leaves. -/
theorem continuation?_four {v : Nat} (h : 0x10000 ≤ v) (hlast : v < 0x110000) :
    ∃ low high, continuation? (v / 262144 % 8 + 240) = some (low, high, 3) ∧
      low ≤ v / 4096 % 64 + 128 ∧ v / 4096 % 64 + 128 ≤ high := by
  rw [continuation?, if_neg (by omega), if_neg (by omega), if_neg (by omega), if_neg (by omega)]
  split
  · exact ⟨_, _, rfl, by omega, by omega⟩
  · split
    · exact ⟨_, _, rfl, by omega, by omega⟩
    · rw [if_pos (by omega)]
      exact ⟨_, _, rfl, by omega, by omega⟩

/-- Two bytes are read as the code that they were made from. -/
theorem decodeLossyFrom_two {v : Nat} (h : 0x80 ≤ v) (hlast : v < 0x800) (rest : Bytes) :
    decodeLossyFrom .start
        (UInt8.ofNat (v / 64 % 32 + 192) :: UInt8.ofNat (v % 64 + 128) :: rest) =
      Char.ofNat v :: decodeLossyFrom .start rest := by
  have hfirst : (UInt8.ofNat (v / 64 % 32 + 192)).toNat = v / 64 % 32 + 192 :=
    toNat_byte (by omega)
  have hsecond : (UInt8.ofNat (v % 64 + 128)).toNat = v % 64 + 128 := toNat_byte (by omega)
  have hcontinuation : continuation? (v / 64 % 32 + 192) = some (0x80, 0xBF, 1) := by
    rw [continuation?, if_pos (by omega)]
  have hbits : leadBits (v / 64 % 32 + 192) 1 * 64 + (v % 64 + 128) % 64 = v := by
    rw [leadBits, show 1 <<< (6 - 1) = 32 from rfl]
    omega
  rw [decodeLossyFrom_lead (by omega) (hfirst ▸ hcontinuation), decodeLossyFrom_last (by omega),
    hfirst, hsecond, hbits]

/-- Three bytes are read as the code that they were made from. -/
theorem decodeLossyFrom_three {v : Nat} (h : 0x800 ≤ v) (hvalid : v < 0xD800 ∨ 0xDFFF < v)
    (hlast : v < 0x10000) (rest : Bytes) :
    decodeLossyFrom .start
        (UInt8.ofNat (v / 4096 % 16 + 224) :: UInt8.ofNat (v / 64 % 64 + 128) ::
          UInt8.ofNat (v % 64 + 128) :: rest) =
      Char.ofNat v :: decodeLossyFrom .start rest := by
  obtain ⟨low, high, hcontinuation, hlow, hhigh⟩ := continuation?_three h hvalid hlast
  have hfirst : (UInt8.ofNat (v / 4096 % 16 + 224)).toNat = v / 4096 % 16 + 224 :=
    toNat_byte (by omega)
  have hsecond : (UInt8.ofNat (v / 64 % 64 + 128)).toNat = v / 64 % 64 + 128 :=
    toNat_byte (by omega)
  have hthird : (UInt8.ofNat (v % 64 + 128)).toNat = v % 64 + 128 := toNat_byte (by omega)
  have hbits : (leadBits (v / 4096 % 16 + 224) 2 * 64 + (v / 64 % 64 + 128) % 64) * 64 +
      (v % 64 + 128) % 64 = v := by
    rw [leadBits, show 1 <<< (6 - 2) = 16 from rfl]
    omega
  rw [decodeLossyFrom_lead (by omega) (hfirst ▸ hcontinuation),
    decodeLossyFrom_middle (by omega) (by decide), decodeLossyFrom_last (by omega), hfirst,
    hsecond, hthird, hbits]

/-- Four bytes are read as the code that they were made from. -/
theorem decodeLossyFrom_four {v : Nat} (h : 0x10000 ≤ v) (hlast : v < 0x110000) (rest : Bytes) :
    decodeLossyFrom .start
        (UInt8.ofNat (v / 262144 % 8 + 240) :: UInt8.ofNat (v / 4096 % 64 + 128) ::
          UInt8.ofNat (v / 64 % 64 + 128) :: UInt8.ofNat (v % 64 + 128) :: rest) =
      Char.ofNat v :: decodeLossyFrom .start rest := by
  obtain ⟨low, high, hcontinuation, hlow, hhigh⟩ := continuation?_four h hlast
  have hfirst : (UInt8.ofNat (v / 262144 % 8 + 240)).toNat = v / 262144 % 8 + 240 :=
    toNat_byte (by omega)
  have hsecond : (UInt8.ofNat (v / 4096 % 64 + 128)).toNat = v / 4096 % 64 + 128 :=
    toNat_byte (by omega)
  have hthird : (UInt8.ofNat (v / 64 % 64 + 128)).toNat = v / 64 % 64 + 128 :=
    toNat_byte (by omega)
  have hfourth : (UInt8.ofNat (v % 64 + 128)).toNat = v % 64 + 128 := toNat_byte (by omega)
  have hbits : ((leadBits (v / 262144 % 8 + 240) 3 * 64 + (v / 4096 % 64 + 128) % 64) * 64 +
      (v / 64 % 64 + 128) % 64) * 64 + (v % 64 + 128) % 64 = v := by
    rw [leadBits, show 1 <<< (6 - 3) = 8 from rfl]
    omega
  rw [decodeLossyFrom_lead (by omega) (hfirst ▸ hcontinuation),
    decodeLossyFrom_middle (by omega) (by decide), decodeLossyFrom_middle (by omega) (by decide),
    decodeLossyFrom_last (by omega), hfirst, hsecond, hthird, hfourth, hbits]

/-- The bytes of a character are read as it, whatever follows. -/
theorem decodeLossyFrom_encodeChar (c : Char) (rest : Bytes) :
    decodeLossyFrom .start (String.utf8EncodeChar c ++ rest) =
      c :: decodeLossyFrom .start rest := by
  have hvalid := toNat_char c
  have hc : Char.ofNat c.toNat = c := Char.ofNat_toNat c
  have hval : c.val.toNat = c.toNat := rfl
  rw [String.utf8EncodeChar, hval]
  generalize c.toNat = v at hvalid hc
  rw [← hc]
  split
  · next hone =>
    have hbyte : (UInt8.ofNat v).toNat = v := toNat_byte (by omega)
    rw [List.singleton_append, decodeLossyFrom_ascii (by omega), hbyte]
  split
  · next hone htwo => exact decodeLossyFrom_two (by omega) (by omega) rest
  split
  · next hone htwo hthree => exact decodeLossyFrom_three (by omega) (by omega) (by omega) rest
  · next hone htwo hthree => exact decodeLossyFrom_four (by omega) (by omega) rest

/-! ### Texts -/

/-- Different texts have different bytes. -/
theorem encode_inj {text other : String} (h : encode text = encode other) : text = other := by
  have hdecoded := congrArg decode? h
  rw [decode?_encode, decode?_encode] at hdecoded
  exact Option.some.inj hdecoded

/-- The bytes of a character are its encoding. -/
theorem encode_singleton (c : Char) : encode (String.singleton c) = String.utf8EncodeChar c := by
  rw [encode, String.toUTF8_eq_toByteArray, String.toByteArray_singleton, List.utf8Encode_singleton]
  simp

/-- The bytes of a text are those of its characters, one after the other. -/
theorem encode_cons (c : Char) (rest : List Char) :
    encode (String.ofList (c :: rest)) =
      encode (String.singleton c) ++ encode (String.ofList rest) := by
  have hbytes : (String.ofList (c :: rest)).toByteArray =
      (String.singleton c).toByteArray ++ (String.ofList rest).toByteArray := by
    rw [String.toByteArray_ofList, String.toByteArray_singleton, String.toByteArray_ofList,
      ← List.utf8Encode_append, List.singleton_append]
  simp only [encode, String.toUTF8, hbytes, ByteArray.data_append, Array.toList_append]

/-- Every text is read back from its bytes. -/
theorem decodeLossy_encode (text : String) : decodeLossy (encode text) = text := by
  have hchars (chars : List Char) :
      decodeLossyFrom .start (encode (String.ofList chars)) = chars := by
    induction chars with
    | nil => rfl
    | cons c rest ih => rw [encode_cons, encode_singleton, decodeLossyFrom_encodeChar, ih]
  have htext := hchars text.toList
  rw [String.ofList_toList] at htext
  rw [decodeLossy, htext, String.ofList_toList]

end FramedAvro.Utf8
