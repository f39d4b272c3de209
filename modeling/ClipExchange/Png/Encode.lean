import ClipExchange.Image
import ClipExchange.Png.Checksum
import ClipExchange.Png.Chunk
import ClipExchange.Png.Header
import ClipExchange.Png.Row
import ClipExchange.Png.Stored
import ClipExchange.Png.ZeroRuns

/-!
# Writing PNG files

An image is written with four samples of eight bits for each pixel, in plain row order. The
rows are filtered and compressed by runs of zeros, unless storing them as they are takes less.
The compressed data is one chunk, if its length can be written.

## Main definitions

* `Png.imageData`: the compressed data of an image.
* `Png.encode`: the file of an image.
* `Png.encode?`: the same for an image that has a file.
-/

namespace ClipExchange

namespace Png

/-- A zlib stream: its header, the blocks, and the checksum of the octets in them. -/
def zlibStream (blocks contents : Bytes) : Bytes :=
  0x78 :: 0x01 :: (blocks ++ Bytes.bigEndian 4 (Checksum.adler32 contents).toNat)

/-- The octets of one pixel. -/
def pixelLength : Nat := 4

/-- The compressed data of an image. -/
def imageData (image : Image) : Bytes :=
  let length := pixelLength * image.width
  let rows := filteredRows pixelLength length #[] image.height image.rgba
  let blocks := Deflate.zeroRunBlock rows
  if Deflate.storedSize ((length + 1) * image.height) < blocks.length then
    let contents := (plainRows length image.height image.rgba).flatten
    zlibStream (Deflate.storedBlocks contents) contents
  else zlibStream blocks rows.flatten

/-- The greatest length of a chunk's data. -/
def maxChunk : Nat := 2147483647

/-- The file of an image whose dimensions are positive and fit in 32 bits. -/
def encode (image : Image) : Bytes :=
  let chunks := (Bytes.cut maxChunk (imageData image)).map (Chunk.written Tag.data)
  signature ++ (Chunk.written Tag.header (Header.written image.width image.height) ++
    (chunks.flatten ++ Chunk.written Tag.finish []))

/-- Whether a dimension can be written. -/
def isDimension (n : Nat) : Bool :=
  decide (0 < n) && decide (n < 4294967296)

/-- The file of an image. It needs dimensions that can be written, and a buffer that is long
enough for them; what the buffer holds beyond that is left out. -/
def encode? (image : Image) : Option Bytes :=
  if isDimension image.width ∧ isDimension image.height ∧ image.area ≤ image.rgba.length then
    some (encode image)
  else none

end Png

end ClipExchange
