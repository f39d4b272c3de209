import ClipExchange.Image
import ClipExchange.Png.Chunk
import ClipExchange.Png.Interlace
import ClipExchange.Png.Zlib

/-!
# Reading PNG files

The header chunk comes first, then others up to the image data; the palette and transparency
among them count. The data is the run of data chunks that follows, and whatever chunk begins
after it ends the image. In an animation the data of its first frame may take the place of the
image data.

A wrong checksum refuses a critical chunk and makes a reader pass over any other one. A reader
also passes over a transparency chunk that does not suit the image. It refuses the file for a
critical chunk that it does not know, for a frame that is not the whole image, for a background
that refers to a palette before there is one, and for a colour space that no image can have.
Chunks of any other kind do not matter, whatever they hold.

## Main definitions

* `Png.Preamble`: what precedes the image data.
* `Png.dataFrom`: the run of data chunks.
* `Png.decode`: the image of a file.
-/

namespace ClipExchange

namespace Png

/-- What precedes the image data: with the header, palette and transparency, whether a colour
space was given, and how many chunks of frames there were. -/
structure Preamble where
  header : Header
  palette : Option Bytes
  key : Option Key
  hasColorSpace : Bool
  frames : Nat
deriving DecidableEq, Repr

namespace Preamble

/-- Nothing but the header. -/
def ofHeader (header : Header) : Preamble :=
  ⟨header, none, none, false, 0⟩

/-- The preamble with a palette added. It has one entry at least and 256 at most. -/
def addPalette (preamble : Preamble) (data : Bytes) : Except Fault Preamble :=
  if preamble.palette.isNone ∧ 3 ≤ data.length ∧ data.length ≤ 768 then
    .ok { preamble with palette := some data }
  else .error .palette

/-- The preamble with transparency added. The first suitable one counts. -/
def addKey (preamble : Preamble) (data : Bytes) : Preamble :=
  if preamble.key.isNone ∧ 1 ≤ data.length ∧ data.length ≤ 256 then
    { preamble with key := Key.ofBytes? preamble.header preamble.palette.isSome data }
  else preamble

/-- Refuse a background that refers to a palette before there is one. -/
def checkBackground (preamble : Preamble) (data : Bytes) : Except Fault Unit :=
  if preamble.header.color = .indexed ∧ preamble.palette.isNone ∧ 1 ≤ data.length ∧
      data.length ≤ 6 then
    .error .palette
  else .ok ()

/-- The preamble with a colour space added, which has to come before the palette. Samples are
red, green and blue, which is the code zero, and their range is either of two. -/
def addColorSpace (preamble : Preamble) (data : Bytes) : Except Fault Preamble :=
  match data with
  | [_, _, matrix, range] =>
    if preamble.palette.isSome ∨ preamble.hasColorSpace then .ok preamble
    else if matrix = 0 ∧ range.toNat ≤ 1 then .ok { preamble with hasColorSpace := true }
    else .error .colorSpace
  | _ => .ok preamble

/-- The data of a chunk for the frame that is the whole image, as far as it is prescribed: the
number of the chunk, the dimensions, and the offsets. -/
def wholeFrame (preamble : Preamble) : Bytes :=
  Bytes.bigEndian 4 preamble.frames ++ (Bytes.bigEndian 4 preamble.header.width ++
    (Bytes.bigEndian 4 preamble.header.height ++ (Bytes.bigEndian 4 0 ++ Bytes.bigEndian 4 0)))

/-- The preamble with a frame added. Behind what is prescribed stand four octets for its delay,
and what becomes of it and how it is drawn, each by a small number. -/
def addFrame (preamble : Preamble) (data : Bytes) : Except Fault Preamble :=
  match data.drop 24 with
  | [disposal, blending] =>
    if data.take 20 = preamble.wholeFrame ∧ disposal.toNat ≤ 2 ∧ blending.toNat ≤ 1 then
      .ok { preamble with frames := preamble.frames + 1 }
    else .error .frame
  | _ => .error .frame

/-- The length of the data of a chunk for a frame. -/
def frameLength : Nat := 26

/-- The preamble with a critical chunk added. -/
def addCritical (preamble : Preamble) (chunk : Chunk) : Except Fault Preamble :=
  if !chunk.isSound then .error .checksum
  else if chunk.tag = Tag.header then .error .header
  else if chunk.tag = Tag.finish then .error .noData
  else if chunk.tag = Tag.palette then preamble.addPalette chunk.data
  else .error .unknown

/-- The preamble with a chunk added that is not image data. -/
def add (preamble : Preamble) (chunk : Chunk) : Except Fault Preamble :=
  if Tag.isCritical chunk.tag then preamble.addCritical chunk
  else if chunk.tag = Tag.frame ∧ chunk.data.length ≠ frameLength then .error .frame
  else if !chunk.isSound then .ok preamble
  else if chunk.tag = Tag.frame then preamble.addFrame chunk.data
  else if chunk.tag = Tag.transparency then .ok (preamble.addKey chunk.data)
  else if chunk.tag = Tag.colorSpace then preamble.addColorSpace chunk.data
  else if chunk.tag = Tag.background then do
    preamble.checkBackground chunk.data
    return preamble
  else .ok preamble

/-- How the pixels are made of samples; an indexed image needs a palette. -/
def coloring (preamble : Preamble) : Except Fault Coloring :=
  let header := preamble.header
  let key := preamble.key.getD .nothing
  match header.color, preamble.palette with
  | .indexed, none => .error .palette
  | .indexed, some palette =>
    let alphas := match key with
      | .palette alphas => alphas
      | _ => []
    .ok ⟨header.color, header.depth, key, (palettePixels palette alphas).toArray⟩
  | _, _ => .ok ⟨header.color, header.depth, key, #[]⟩

end Preamble

/-- The tag of the chunk that begins what is left of a file. -/
def nextTag? (input : Bytes) : Option Tag :=
  let tag := (input.drop 4).take 4
  if tag.length = 4 then some tag else none

/-- Read chunks up to the first one with image data, and tell which kind of data it is; a chunk
has twelve octets at least. -/
def preambleFrom : Nat → Preamble → Bytes → Except Fault (Preamble × Tag × Bytes)
  | 0, _, _ => .error .truncated
  | fuel + 1, preamble, input =>
    if nextTag? input = some Tag.data then .ok (preamble, Tag.data, input)
    else if nextTag? input = some Tag.frameData then .ok (preamble, Tag.frameData, input)
    else
      match Chunk.next? input with
      | none => .error .truncated
      | some (chunk, rest) => do
        let preamble ← preamble.add chunk
        preambleFrom fuel preamble rest

/-- The piece of the image data in a chunk. The data of a frame stands behind the number of its
chunk, which goes on with the numbers of the frames themselves; without a frame there is none. -/
def pieceOf (chunk : Chunk) (number : Nat) : Except Fault Bytes :=
  if Tag.isCritical chunk.tag then
    if chunk.isSound then .ok chunk.data else .error .checksum
  else if 0 < number ∧ chunk.data.take 4 = Bytes.bigEndian 4 number then .ok (chunk.data.drop 4)
  else .error .frame

/-- Read a run of chunks with image data of a kind, whose pieces so far are `done`, last one
first. Some other chunk has to begin after the run. -/
def dataFrom (tag : Tag) : Nat → Nat → List Bytes → Bytes → Except Fault (List Bytes)
  | 0, _, _, _ => .error .truncated
  | fuel + 1, number, done, input =>
    match nextTag? input with
    | none => .error .truncated
    | some next =>
      if next = tag then
        match Chunk.next? input with
        | none => .error .truncated
        | some (chunk, rest) => do
          let piece ← pieceOf chunk number
          dataFrom tag fuel (number + 1) (piece :: done) rest
      else .ok done.reverse

/-- Read the signature and the header chunk. -/
def start (file : Bytes) : Except Fault (Header × Bytes) :=
  if file.take signature.length = signature then
    match Chunk.next? (file.drop signature.length) with
    | none => .error .truncated
    | some (chunk, rest) =>
      if chunk.tag = Tag.header then
        if chunk.isSound then
          match Header.ofBytes? chunk.data with
          | some header => .ok (header, rest)
          | none => .error .header
        else .error .checksum
      else .error .header
  else .error .signature

/-- The pixels of decompressed image data. -/
def pixels (header : Header) (coloring : Coloring) (data : Bytes) : Except Fault (List Pixel) :=
  if header.isInterlaced then passedPixels header coloring data
  else plainPixels header coloring data

/-- The image of a file. The bound that a reader may set on the memory for an image is left out:
an image of any size is read. -/
def decode (file : Bytes) : Except Fault Image := do
  let (header, rest) ← start file
  let (preamble, tag, rest) ← preambleFrom file.length (Preamble.ofHeader header) rest
  let coloring ← preamble.coloring
  let pieces ← dataFrom tag file.length preamble.frames [] rest
  let data ← Zlib.decompress (dataLength header) pieces
  let pixels ← pixels header coloring data
  return ⟨header.width, header.height, pixels.flatMap Pixel.octets⟩

end Png

end ClipExchange
