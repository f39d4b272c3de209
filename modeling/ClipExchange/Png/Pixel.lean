import ClipExchange.Png.Header

/-!
# Pixels

A row is cut into samples, a pixel takes as many of them as its colour type says, and becomes
four octets: red, green, blue and alpha. Samples of another depth are brought to eight bits:
narrow ones are stretched so that the greatest value stays the greatest, wide ones are rounded.
An index that the palette does not have is opaque black.

## Main definitions

* `Png.Key`: what says which pixels are transparent, with `Png.Key.ofBytes?`.
* `Png.Pixel`: four octets.
* `Png.samplesOf`, `Png.pixelsOf`: the samples and the pixels of a row.
-/

namespace ClipExchange

namespace Png

/-- Four octets: red, green, blue and alpha. -/
structure Pixel where
  red : UInt8
  green : UInt8
  blue : UInt8
  alpha : UInt8
deriving DecidableEq, Repr

namespace Pixel

/-- Opaque black. -/
def black : Pixel :=
  ⟨0, 0, 0, 255⟩

/-- The octets in order. -/
def octets (p : Pixel) : Bytes :=
  [p.red, p.green, p.blue, p.alpha]

end Pixel

/-- What says which pixels are transparent. -/
inductive Key where
  /-- Every pixel is opaque. -/
  | nothing
  /-- Pixels with exactly these samples are transparent. -/
  | samples (values : List Nat)
  /-- The alpha values of the first palette entries. -/
  | palette (alphas : Bytes)
deriving DecidableEq, Repr

/-- The transparency that a chunk describes for an image, if it may describe one. Samples of
up to eight bits are given in two octets, of which the second counts. -/
def Key.ofBytes? (header : Header) (hasPalette : Bool) (data : Bytes) : Option Key :=
  let low (i : Nat) : Nat := (data.getD i 0).toNat
  let wide (count : Nat) : Key :=
    if data.length = 2 * count then
      .samples ((List.range count).map fun i => 256 * low (2 * i) + low (2 * i + 1))
    else .nothing
  let narrow (count : Nat) : Key :=
    .samples ((List.range count).map fun i => low (2 * i + 1))
  match header.color with
  | .gray | .rgb =>
    let count := header.color.samples
    if data.length < 2 * count then none
    else some (if header.depth = 16 then wide count else narrow count)
  | .indexed => if hasPalette then some (.palette data) else none
  | .grayAlpha | .rgba => none

/-- The samples of one octet, the most significant bits first. -/
def narrowSamples (depth : Nat) (b : UInt8) : List Nat :=
  (List.range (8 / depth)).map fun i => (b.toNat >>> (8 - depth * (i + 1))) % (1 <<< depth)

/-- The numbers in pairs of octets. -/
def wideSamples : Bytes → List Nat
  | high :: low :: rest => (256 * high.toNat + low.toNat) :: wideSamples rest
  | _ => []

/-- The samples of a row. -/
def samplesOf (depth : Nat) (row : Bytes) : List Nat :=
  if depth = 16 then wideSamples row
  else if depth = 8 then row.map UInt8.toNat
  else row.flatMap (narrowSamples depth)

/-- A sample brought to eight bits. -/
def toOctet (depth sample : Nat) : UInt8 :=
  if depth = 16 then UInt8.ofNat ((sample + 128) / 257)
  else UInt8.ofNat (sample * (255 / ((1 <<< depth) - 1)))

/-- A palette of entries of three octets. -/
def paletteColors : Bytes → List (UInt8 × UInt8 × UInt8)
  | r :: g :: b :: rest => (r, g, b) :: paletteColors rest
  | _ => []

/-- The pixels of a palette. Alpha values beyond its entries make all of them void. -/
def palettePixels (palette alphas : Bytes) : List Pixel :=
  let colors := paletteColors palette
  let alphas := if alphas.length ≤ colors.length then alphas else []
  colors.zipIdx.map fun ((r, g, b), i) => ⟨r, g, b, alphas.getD i 255⟩

/-- How the pixels of an image are made of samples. -/
structure Coloring where
  color : ColorType
  depth : Nat
  key : Key
  palette : Array Pixel

namespace Coloring

/-- The alpha value of a pixel that has none of its own. -/
def alphaOf (coloring : Coloring) (samples : List Nat) : UInt8 :=
  if coloring.key = .samples samples then 0 else 255

/-- Make the next pixel, and leave the other samples. -/
def next? (coloring : Coloring) (samples : List Nat) : Option (Pixel × List Nat) :=
  let octet := toOctet coloring.depth
  match coloring.color, samples with
  | .gray, s :: rest => some (⟨octet s, octet s, octet s, coloring.alphaOf [s]⟩, rest)
  | .grayAlpha, s :: a :: rest => some (⟨octet s, octet s, octet s, octet a⟩, rest)
  | .rgb, r :: g :: b :: rest =>
    some (⟨octet r, octet g, octet b, coloring.alphaOf [r, g, b]⟩, rest)
  | .rgba, r :: g :: b :: a :: rest => some (⟨octet r, octet g, octet b, octet a⟩, rest)
  | .indexed, s :: rest => some (coloring.palette.getD s Pixel.black, rest)
  | _, _ => none

/-- Make a number of pixels. -/
def pixels (coloring : Coloring) : Nat → List Nat → List Pixel
  | 0, _ => []
  | count + 1, samples =>
    match coloring.next? samples with
    | some (pixel, rest) => pixel :: coloring.pixels count rest
    | none => []

/-- The pixels of a row. -/
def row (coloring : Coloring) (width : Nat) (octets : Bytes) : List Pixel :=
  coloring.pixels width (samplesOf coloring.depth octets)

end Coloring

end Png

end ClipExchange
