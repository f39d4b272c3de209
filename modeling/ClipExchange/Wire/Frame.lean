import ClipExchange.Stream.Error
import ClipExchange.Wire.Codec

/-!
# Frames

A message travels as a frame: the length of its payload in four octets, most significant
first, and the payload. Payloads are limited to sixteen mebibytes at both ends.

## Main definitions

* `Wire.maxPayload`: the limit.
* `Wire.header`: the four octets of a length.
* `Wire.frame`: the frame of a value.
-/

namespace ClipExchange

namespace Wire

/-- The largest payload, in octets. -/
def maxPayload : Nat := 16777216

/-- The length of a header. -/
def headerLength : Nat := 4

/-- The header that announces a payload of the given length. -/
def header (length : Nat) : Bytes :=
  Bytes.bigEndian headerLength length

/-- The payload of a value, if it is within the limit. -/
def payload {α : Type} [Codec α] (value : α) : Except TransferError Bytes :=
  let octets := Codec.put value
  let length := octets.length
  if length ≤ maxPayload then .ok octets
  else .error (.frameTooLarge length maxPayload)

/-- The frame of a value, if its payload is within the limit. -/
def frame {α : Type} [Codec α] (value : α) : Except TransferError Bytes :=
  (payload value).map fun octets => header octets.length ++ octets

end Wire

end ClipExchange
