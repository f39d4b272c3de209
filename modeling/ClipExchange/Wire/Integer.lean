import ClipExchange.Wire.Decoder

/-!
# Integers, octet strings and texts on the wire

A number up to 250 is one octet. A larger one is announced by an octet that names its width
and follows in little-endian order; the writer takes the least width that fits, the reader
accepts any width up to that of the expected type. Octet strings and texts follow their length.

## Main definitions

* `Wire.putInteger`, `Wire.getInteger`: numbers.
* `Wire.putOctets`, `Wire.getOctets`: octet strings.
* `Wire.putText`, `Wire.getText`: texts.
* `Wire.putList`, `Wire.getList`: lists.
-/

namespace ClipExchange

namespace Wire

/-- A number in the least width that fits. -/
def putInteger (n : Nat) : Bytes :=
  if n ≤ 250 then [UInt8.ofNat n]
  else if n < 65536 then 251 :: Bytes.littleEndian 2 n
  else if n < 4294967296 then 252 :: Bytes.littleEndian 4 n
  else 253 :: Bytes.littleEndian 8 n

/-- The form that an octet above 250 announces. -/
def IntegerForm.ofHead (head : UInt8) : IntegerForm :=
  if head = 251 then .u16
  else if head = 252 then .u32
  else if head = 253 then .u64
  else if head = 254 then .u128
  else .reserved

/-- The form that a refusal names as the expected one. As long as a whole sixty-four-bit number
may be left, only thirty-two bits are called for. -/
def IntegerForm.called (expected : IntegerForm) (left : Nat) : IntegerForm :=
  if expected = .u64 ∧ 9 ≤ left then .u32 else expected

/-- A number of a type that has the given width; a wider form is refused before its octets
are read. -/
def getInteger (expected : IntegerForm) : Decoder Nat := fun input =>
  match input with
  | [] => .error (.unexpectedEnd 1)
  | head :: rest =>
    if head ≤ 250 then .ok (head.toNat, rest)
    else
      let found := IntegerForm.ofHead head
      if found.width ≤ expected.width then
        (Decoder.octets found.width rest).map fun (digits, rest) =>
          (Bytes.ofLittleEndian digits, rest)
      else .error (.invalidInteger (expected.called input.length) found)

/-- An octet string after its length. -/
def putOctets (data : Bytes) : Bytes :=
  putInteger data.length ++ data

/-- An octet string after its length. The room that a reader may set aside for the announced length
before it looks for the octets is left out: a length beyond those that are there is refused. -/
def getOctets : Decoder Bytes := do
  let count ← getInteger .u64
  Decoder.octets count

/-- A text after the length of its UTF-8 form. -/
def putText (s : String) : Bytes :=
  putOctets (Utf8.encode s)

/-- A text after the length of its UTF-8 form, which is read whole before it is checked. -/
def getText : Decoder String := do
  let data ← getOctets
  match Utf8.decode data with
  | .ok s => pure s
  | .error fault => Decoder.fail (.invalidText fault)

/-- The items of a list after their number. -/
def putList {α : Type} (item : α → Bytes) (values : List α) : Bytes :=
  putInteger values.length ++ values.flatMap item

/-- The items of a list after their number. -/
def getList {α : Type} (item : Decoder α) : Decoder (List α) := do
  let count ← getInteger .u64
  Decoder.times count item

end Wire

end ClipExchange
