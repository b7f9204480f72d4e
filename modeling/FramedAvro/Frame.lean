import FramedAvro.Bytes
import FramedAvro.Failure

/-!
# Frames

A message on the wire is a frame: a zero byte, the id of the schema it was written with in four
bytes, the most significant first, and the Avro encoding of the value without its schema.

## Main definitions

* `Frame.encode`: the frame of an id and a payload.
* `Frame.decode`: the id and the payload of a frame.
-/

namespace FramedAvro.Frame

/-- The byte every frame starts with. -/
def magicByte : UInt8 := 0

/-- How many bytes stand before the payload. -/
def headerLength : Nat := 5

/-- The frame of a payload written with the schema `id`. -/
def encode (id : UInt32) (payload : Bytes) : Bytes :=
  magicByte :: Bytes.ofWord id ++ payload

/-- There are too few bytes for a header. -/
def tooShort (length : Nat) : Failure :=
  .plain .invalidWireFormat
    ("Message too short, expected at least " ++ toString headerLength ++ " bytes but got " ++
      toString length)

/-- The first byte is not the magic byte. -/
def wrongMagicByte (b : UInt8) : Failure :=
  .plain .invalidWireFormat
    ("Invalid magic byte 0x" ++ String.ofList (Hex.ofByte b) ++ ", expected 0x00")

/-- The schema id and the payload, possibly empty, of a frame. -/
def decode (bytes : Bytes) : Except Failure (UInt32 × Bytes) :=
  match bytes with
  | magic :: a :: b :: c :: d :: payload =>
    if magic = magicByte then .ok (Bytes.toWord a b c d, payload) else .error (wrongMagicByte magic)
  | short => .error (tooShort short.length)

end FramedAvro.Frame
