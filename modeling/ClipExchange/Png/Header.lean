import ClipExchange.Bytes

/-!
# The image header

## Main definitions

* `Png.ColorType`: what the samples of a pixel mean.
* `Png.Header`: dimensions, sample depth, colour type and row order, with
  `Png.Header.ofBytes?` and `Png.Header.written`.
-/

namespace ClipExchange

namespace Png

/-- What the samples of a pixel mean. -/
inductive ColorType where
  | gray
  | rgb
  | indexed
  | grayAlpha
  | rgba
deriving DecidableEq, Repr

namespace ColorType

/-- The colour type with a number. -/
def ofNat? : Nat → Option ColorType
  | 0 => some gray
  | 2 => some rgb
  | 3 => some indexed
  | 4 => some grayAlpha
  | 6 => some rgba
  | _ => none

/-- The samples of one pixel. -/
def samples : ColorType → Nat
  | gray | indexed => 1
  | grayAlpha => 2
  | rgb => 3
  | rgba => 4

/-- The sample depths that a colour type admits. -/
def depths : ColorType → List Nat
  | gray => [1, 2, 4, 8, 16]
  | indexed => [1, 2, 4, 8]
  | rgb | grayAlpha | rgba => [8, 16]

end ColorType

/-- The image header: dimensions, sample depth in bits, colour type and row order. -/
structure Header where
  width : Nat
  height : Nat
  depth : Nat
  color : ColorType
  isInterlaced : Bool
deriving DecidableEq, Repr

namespace Header

/-- The header with the given numbers, if they go together. -/
def make? (width height depth color compression filter interlace : Nat) : Option Header := do
  let color ← ColorType.ofNat? color
  if 0 < width ∧ 0 < height ∧ depth ∈ color.depths ∧ compression = 0 ∧ filter = 0 ∧
      interlace ≤ 1 then
    some ⟨width, height, depth, color, interlace == 1⟩
  else none

/-- Read the data of a header chunk. -/
def ofBytes? (data : Bytes) : Option Header :=
  match data.drop 8 with
  | [depth, color, compression, filter, interlace] =>
    make? (Bytes.ofBigEndian (data.take 4)) (Bytes.ofBigEndian ((data.drop 4).take 4))
      depth.toNat color.toNat compression.toNat filter.toNat interlace.toNat
  | _ => none

/-- The header data of an image with four samples of eight bits, row after row. -/
def written (width height : Nat) : Bytes :=
  Bytes.bigEndian 4 width ++ (Bytes.bigEndian 4 height ++ [8, 6, 0, 0, 0])

/-- The bits of one pixel. -/
def pixelBits (header : Header) : Nat :=
  header.depth * header.color.samples

/-- The octets of a row of some pixels. -/
def rowLength (header : Header) (width : Nat) : Nat :=
  (width * header.pixelBits + 7) / 8

/-- The distance in octets between samples that a filter compares. -/
def filterDistance (header : Header) : Nat :=
  max 1 (header.pixelBits / 8)

end Header

end Png

end ClipExchange
