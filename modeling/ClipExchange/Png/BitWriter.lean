import ClipExchange.Png.BitReader

/-!
# Writing bits

Bits are gathered into octets, the least significant one first. What a writer holds is the list
of the bits written so far, however they are divided into octets.

## Main definitions

* `Png.BitWriter`: the octets that are full, and the bits after them.
* `Png.BitWriter.push`, `Png.BitWriter.append`: write one bit, or some.
* `Png.BitWriter.finish`: the octets; the last one is filled up with zeros.
-/

namespace ClipExchange

namespace Png

/-- The octet whose bits are given, least significant first. -/
def octetOf (bits : List Bool) : UInt8 :=
  UInt8.ofNat (bits.foldr (fun b n => b.toNat + 2 * n) 0)

/-- The lowest bits of a number, the least significant one first. -/
def fieldBits (width n : Nat) : List Bool :=
  (List.range width).map n.testBit

/-- Octets that are full, and the bits of the next one. -/
structure BitWriter where
  full : Array UInt8
  pending : List Bool
deriving DecidableEq, Repr

namespace BitWriter

/-- Nothing is written yet. -/
def empty : BitWriter :=
  ⟨#[], []⟩

/-- Write one bit. -/
def push (writer : BitWriter) (b : Bool) : BitWriter :=
  let bits := writer.pending ++ [b]
  if bits.length = 8 then ⟨writer.full.push (octetOf bits), []⟩
  else { writer with pending := bits }

/-- Write some bits. -/
def append (writer : BitWriter) (bits : List Bool) : BitWriter :=
  bits.foldl push writer

/-- The octets; the last one is filled up with zeros. -/
def finish (writer : BitWriter) : Bytes :=
  writer.full.toList ++ (if writer.pending.isEmpty then [] else [octetOf writer.pending])

end BitWriter

end Png

end ClipExchange
