import ClipExchange.Png.Pixel
import ClipExchange.Png.Row

/-!
# The order of rows

The rows of an image come from top to bottom, or in seven passes. A pass holds the pixels of a
regular grid as an image of its own; passes without pixels are left out.

## Main definitions

* `Png.Pass`: a grid, with `Png.Pass.all`.
* `Png.plainPixels`: the pixels of an image in plain order.
* `Png.passedPixels`: the pixels of an image in seven passes.
* `Png.dataLength`: the octets that are decompressed for an image.
-/

namespace ClipExchange

namespace Png

/-- The grid of pixels in a pass: its first column and row, and the steps between them. -/
structure Pass where
  left : Nat
  top : Nat
  across : Nat
  down : Nat
deriving DecidableEq, Repr

namespace Pass

/-- The seven passes in order. -/
def all : List Pass :=
  [⟨0, 0, 8, 8⟩, ⟨4, 0, 8, 8⟩, ⟨0, 4, 4, 8⟩, ⟨2, 0, 4, 4⟩, ⟨0, 2, 2, 4⟩, ⟨1, 0, 2, 2⟩,
    ⟨0, 1, 1, 2⟩]

/-- The columns of the pass in an image of some width. -/
def width (pass : Pass) (imageWidth : Nat) : Nat :=
  (imageWidth - pass.left + (pass.across - 1)) / pass.across

/-- The rows of the pass in an image of some height. -/
def height (pass : Pass) (imageHeight : Nat) : Nat :=
  (imageHeight - pass.top + (pass.down - 1)) / pass.down

end Pass

/-- The octets of some rows, with the numbers of their filters. -/
def gridLength (header : Header) (width height : Nat) : Nat :=
  height * (1 + header.rowLength width)

/-- The octets that are decompressed for an image. Those of a pass are counted even if its rows
have no pixels. -/
def dataLength (header : Header) : Nat :=
  if header.isInterlaced then
    (Pass.all.map fun pass =>
      gridLength header (pass.width header.width) (pass.height header.height)).foldr (· + ·) 0
  else gridLength header header.width header.height

/-- The pixels of some rows, restored and coloured. -/
def grid (header : Header) (coloring : Coloring) (width height : Nat) (data : Bytes) :
    Except Fault (List (List Pixel) × Bytes) := do
  let (rows, rest) ← rowsFrom header.filterDistance (header.rowLength width) #[] height data
  return (rows.map (coloring.row width), rest)

/-- The pixels of an image whose rows come from top to bottom. -/
def plainPixels (header : Header) (coloring : Coloring) (data : Bytes) :
    Except Fault (List Pixel) :=
  (grid header coloring header.width header.height data).map fun (rows, _) => rows.flatten

/-- The pixels of a pass, each with its place in the whole image. -/
def Pass.placed (pass : Pass) (imageWidth : Nat) (rows : List (List Pixel)) :
    List (Nat × Pixel) :=
  rows.zipIdx.flatMap fun (row, y) =>
    row.zipIdx.map fun (pixel, x) =>
      ((pass.top + pass.down * y) * imageWidth + (pass.left + pass.across * x), pixel)

/-- The placed pixels of all passes. -/
def passesFrom (header : Header) (coloring : Coloring) :
    List Pass → Bytes → Except Fault (List (Nat × Pixel))
  | [], _ => .ok []
  | pass :: passes, data => do
    let width := pass.width header.width
    let height := pass.height header.height
    if width = 0 ∨ height = 0 then passesFrom header coloring passes data
    else
      let (rows, rest) ← grid header coloring width height data
      let others ← passesFrom header coloring passes rest
      return pass.placed header.width rows ++ others

/-- The pixels of an image whose rows come in seven passes. -/
def passedPixels (header : Header) (coloring : Coloring) (data : Bytes) :
    Except Fault (List Pixel) := do
  let placed ← passesFrom header coloring Pass.all data
  let blank := Array.replicate (header.width * header.height) Pixel.black
  return (placed.foldl (fun image (i, pixel) => image.setIfInBounds i pixel) blank).toList

end Png

end ClipExchange
