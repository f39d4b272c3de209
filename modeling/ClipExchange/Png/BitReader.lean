import ClipExchange.Bytes
import ClipExchange.Png.Fault

/-!
# Reading bits

Compressed data is a string of bits: the octets in order, the least significant bit of each
octet first. A field of several bits has its least significant bit first as well. An octet
string that is stored as it is begins at the next full octet. The octets come in pieces, and a
field may begin in one piece and end in a later one.

## Main definitions

* `Png.BitReader`: a reader of bit fields.
* `Png.BitReader.bit`, `Png.BitReader.bits`, `Png.BitReader.octets`.
* `Png.BitReader.need`: refuse an input that is too short.
-/

namespace ClipExchange

namespace Png

/-- What is left of a bit string: the open bits of the current octet, the octets left in the
current piece, and the pieces after it. -/
structure BitInput where
  pending : List Bool
  rest : Bytes
  later : List Bytes
deriving DecidableEq, Repr

namespace BitInput

/-- All bits of some pieces. -/
def ofPieces : List Bytes → BitInput
  | [] => ⟨[], [], []⟩
  | piece :: later => ⟨[], piece, later⟩

/-- What is left of the current piece alone. -/
def current (input : BitInput) : BitInput :=
  { input with later := [] }

/-- The next octet of some pieces, and what follows it. -/
def octet? : Bytes → List Bytes → Option (UInt8 × Bytes × List Bytes)
  | octet :: rest, later => some (octet, rest, later)
  | [], [] => none
  | [], piece :: later => octet? piece later

/-- The next octets of some pieces, and what follows them. -/
def octets? (count : Nat) (rest : Bytes) (later : List Bytes) :
    Option (Bytes × Bytes × List Bytes) :=
  let data := rest.take count
  if data.length = count then some (data, rest.drop count, later)
  else
    match later with
    | [] => none
    | piece :: later =>
      (octets? (count - data.length) piece later).map fun (others, rest) =>
        (data ++ others, rest)

/-- Whether some number of bits are left. -/
def has (input : BitInput) (count : Nat) : Bool :=
  (octets? ((count - input.pending.length + 7) / 8) input.rest input.later).isSome

end BitInput

/-- A reader of bit fields. -/
abbrev BitReader := StateT BitInput (Except Fault)

namespace BitReader

/-- Refuse the compressed data. -/
def fail {α : Type} (fault : Fault) : BitReader α :=
  fun _ => .error fault

/-- The bits of an octet, least significant first. -/
def bitsOf (b : UInt8) : List Bool :=
  (List.range 8).map b.toNat.testBit

/-- The next bit. -/
def bit : BitReader Bool := fun input =>
  match input.pending with
  | b :: pending => .ok (b, { input with pending := pending })
  | [] =>
    match BitInput.octet? input.rest input.later with
    | none => .error .truncated
    | some (octet, rest, later) =>
      match bitsOf octet with
      | [] => .error .truncated
      | b :: pending => .ok (b, ⟨pending, rest, later⟩)

/-- The number in the next bits, the least significant one first. -/
def bits : Nat → BitReader Nat
  | 0 => pure 0
  | count + 1 => do
    let low ← bit
    let high ← bits count
    pure (low.toNat + 2 * high)

/-- The next whole octets; open bits of the current one are dropped. -/
def octets (count : Nat) : BitReader Bytes := fun input =>
  match BitInput.octets? count input.rest input.later with
  | none => .error .truncated
  | some (data, rest, later) => .ok (data, ⟨[], rest, later⟩)

/-- Refuse an input with fewer bits than the given number; none of them is taken. -/
def need (count : Nat) : BitReader Unit := fun input =>
  if input.has count then .ok ((), input) else .error .truncated

end BitReader

end Png

end ClipExchange
