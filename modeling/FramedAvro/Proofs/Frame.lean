import Mathlib.Logic.ExistsUnique
import FramedAvro.Frame
import FramedAvro.Proofs.Bytes

/-!
# Frames and their contents

What was put into a frame is taken out of it again, and nothing else is a frame: bytes from which an
id and a payload are taken are the frame of just these. So frames and pairs of an id and a payload
are the same thing in two spellings, for every id and for every payload, the empty one included.

Bytes that are no frame are refused for one of two reasons, that there are too few for a header or
that the first is not the magic byte, and in this order.

## Main results

* `Frame.decode_cases`: what may come of bytes.
* `Frame.decode_bijective`: which bytes are frames, and what of.
-/

namespace FramedAvro.Frame

/-- A frame gives back the id and the payload it was made of. -/
theorem decode_encode (id : UInt32) (payload : Bytes) :
    decode (encode id payload) = .ok (id, payload) := by
  rw [encode, Bytes.ofWord]
  simp only [List.cons_append, List.nil_append]
  rw [decode, if_pos rfl, Bytes.toWord_ofNat]

/-- There is room for the header in a frame, which starts with the magic byte. -/
theorem header_encode (id : UInt32) (payload : Bytes) :
    headerLength ≤ (encode id payload).length ∧ (encode id payload).head? = some magicByte := by
  refine ⟨?_, rfl⟩
  rw [encode, List.cons_append, List.length_cons, List.length_append]
  exact Nat.succ_le_succ (Nat.le_add_right 4 payload.length)

/-- Bytes are a frame, or there are too few of them, or the first is not the magic byte. -/
theorem decode_cases (bytes : Bytes) :
    (∃ id payload, bytes = encode id payload ∧ decode bytes = .ok (id, payload)) ∨
      (bytes.length < headerLength ∧ decode bytes = .error (tooShort bytes.length)) ∨
      ∃ magic, bytes.head? = some magic ∧ magic ≠ magicByte ∧ headerLength ≤ bytes.length ∧
        decode bytes = .error (wrongMagicByte magic) := by
  rcases bytes with _ | ⟨magic, _ | ⟨a, _ | ⟨b, _ | ⟨c, _ | ⟨d, payload⟩⟩⟩⟩⟩
  case cons.cons.cons.cons.cons =>
    by_cases hmagic : magic = magicByte
    · subst hmagic
      have hframe : magicByte :: a :: b :: c :: d :: payload =
          encode (Bytes.toWord a b c d) payload := by
        rw [encode, Bytes.ofWord_toWord]
        rfl
      exact .inl ⟨_, _, hframe, by rw [hframe, decode_encode]⟩
    · exact .inr (.inr ⟨magic, rfl, hmagic, Nat.le_add_left 5 payload.length, by
        rw [decode, if_neg hmagic]⟩)
  all_goals exact .inr (.inl ⟨by simp [headerLength], rfl⟩)

/-- An id and a payload are taken from their frame and from nothing else. -/
theorem decode_eq_ok_iff {bytes : Bytes} {id : UInt32} {payload : Bytes} :
    decode bytes = .ok (id, payload) ↔ encode id payload = bytes := by
  constructor
  · intro h
    obtain ⟨own, content, rfl, -⟩ | ⟨-, herror⟩ | ⟨magic, -, -, -, herror⟩ := decode_cases bytes
    · rw [decode_encode] at h
      obtain ⟨rfl, rfl⟩ := Prod.mk.inj (Except.ok.inj h)
      rfl
    · rw [herror] at h
      contradiction
    · rw [herror] at h
      contradiction
  · rintro rfl
    exact decode_encode id payload

/-- Bytes with room for the header that start with the magic byte are a frame, and only those. -/
theorem exists_encode_iff {bytes : Bytes} :
    (∃ id payload, encode id payload = bytes) ↔
      headerLength ≤ bytes.length ∧ bytes.head? = some magicByte := by
  constructor
  · rintro ⟨id, payload, rfl⟩
    exact header_encode id payload
  · rintro ⟨hlength, hhead⟩
    obtain ⟨id, payload, hframe, -⟩ | ⟨hshort, -⟩ | ⟨magic, hmagic, hne, -⟩ := decode_cases bytes
    · exact ⟨id, payload, hframe.symm⟩
    · omega
    · exact absurd (Option.some.inj (hmagic.symm.trans hhead)) hne

/-- Whatever is refused is refused as no frame. -/
theorem exists_error_iff {bytes : Bytes} :
    (∃ failure, decode bytes = .error failure ∧ failure.kind = .invalidWireFormat) ↔
      ¬∃ id payload, encode id payload = bytes := by
  simp only [← decode_eq_ok_iff]
  constructor
  · rintro ⟨failure, herror, -⟩ ⟨id, payload, hok⟩
    rw [herror] at hok
    contradiction
  · intro hnone
    obtain ⟨id, payload, -, hok⟩ | ⟨-, herror⟩ | ⟨magic, -, -, -, herror⟩ := decode_cases bytes
    · exact absurd ⟨id, payload, hok⟩ hnone
    · exact ⟨_, herror, rfl⟩
    · exact ⟨_, herror, rfl⟩

/-- Every id and payload have a frame of their own and are taken from it again. Bytes are a frame
exactly if there are at least five and the first is zero; then an id and a payload are taken from
them, the frame of which they are, and from all other bytes there is only a failure that says that
they have the wrong format. -/
theorem decode_bijective :
    (∀ id payload, decode (encode id payload) = .ok (id, payload)) ∧
      (Function.Injective fun content : UInt32 × Bytes => encode content.1 content.2) ∧
      ∀ bytes : Bytes,
        ((∃ id payload, decode bytes = .ok (id, payload)) ↔
          5 ≤ bytes.length ∧ bytes.head? = some 0) ∧
        (∀ id payload, decode bytes = .ok (id, payload) ↔ encode id payload = bytes) ∧
        ((∃ id payload, decode bytes = .ok (id, payload)) ↔
          ∃! content : UInt32 × Bytes, encode content.1 content.2 = bytes) ∧
        (¬(5 ≤ bytes.length ∧ bytes.head? = some 0) ↔
          ∃ failure, decode bytes = .error failure ∧ failure.kind = .invalidWireFormat) := by
  have hinjective : Function.Injective fun content : UInt32 × Bytes =>
      encode content.1 content.2 := by
    intro content other hsame
    have hcontent := decode_eq_ok_iff.2 hsame
    rw [decode_encode] at hcontent
    exact (Except.ok.inj hcontent).symm
  refine ⟨decode_encode, hinjective, fun bytes => ⟨?_, fun _ _ => decode_eq_ok_iff, ?_, ?_⟩⟩
  · simp only [decode_eq_ok_iff]
    exact exists_encode_iff
  · simp only [decode_eq_ok_iff]
    constructor
    · rintro ⟨id, payload, rfl⟩
      exact ⟨(id, payload), rfl, fun other hother => hinjective hother⟩
    · rintro ⟨⟨id, payload⟩, hframe, -⟩
      exact ⟨id, payload, hframe⟩
  · rw [exists_error_iff, exists_encode_iff]
    rfl

end FramedAvro.Frame
