import ClipExchange.Png.Fault
import ClipExchange.Png.Checksum

/-!
# Chunks

A PNG file is a signature and a sequence of chunks: the length of the data, a tag of four
octets, the data, and a checksum of tag and data. The case of the tag's first letter tells
whether a reader has to understand the chunk.

## Main definitions

* `Png.Tag`: the four octets that name a kind of chunk.
* `Png.Chunk`: a tag, its data, and whether the checksum was right.
* `Png.Chunk.written`: a chunk as it stands in a file.
* `Png.Chunk.next?`: the first chunk of what is left of a file.
-/

namespace ClipExchange

namespace Png

/-- The octets at the front of every file. -/
def signature : Bytes :=
  [0x89, 0x50, 0x4E, 0x47, 0x0D, 0x0A, 0x1A, 0x0A]

/-- The octets that name a kind of chunk. -/
abbrev Tag := Bytes

namespace Tag

/-- The image header. -/
def header : Tag := [0x49, 0x48, 0x44, 0x52]

/-- The palette. -/
def palette : Tag := [0x50, 0x4C, 0x54, 0x45]

/-- Transparency. -/
def transparency : Tag := [0x74, 0x52, 0x4E, 0x53]

/-- A part of the compressed image data. -/
def data : Tag := [0x49, 0x44, 0x41, 0x54]

/-- The end of the file. -/
def finish : Tag := [0x49, 0x45, 0x4E, 0x44]

/-- The colour of the background. -/
def background : Tag := [0x62, 0x4B, 0x47, 0x44]

/-- The colour space, by its code points. -/
def colorSpace : Tag := [0x63, 0x49, 0x43, 0x50]

/-- A frame of an animation. -/
def frame : Tag := [0x66, 0x63, 0x54, 0x4C]

/-- A part of the compressed data of a frame. -/
def frameData : Tag := [0x66, 0x64, 0x41, 0x54]

/-- A reader has to understand chunks whose tag begins with a capital letter. -/
def isCritical (tag : Tag) : Bool :=
  match tag with
  | first :: _ => !first.toNat.testBit 5
  | [] => false

end Tag

/-- A chunk of a file. -/
structure Chunk where
  tag : Tag
  data : Bytes
  isSound : Bool
deriving DecidableEq, Repr

namespace Chunk

/-- The checksum of a tag and its data. -/
def checksum (tag : Tag) (data : Bytes) : Bytes :=
  Bytes.bigEndian 4 (Checksum.crc32 (tag ++ data)).toNat

/-- A chunk as it stands in a file. -/
def written (tag : Tag) (data : Bytes) : Bytes :=
  Bytes.bigEndian 4 data.length ++ (tag ++ (data ++ checksum tag data))

/-- The first chunk of what is left of a file, and what follows it. -/
def next? (input : Bytes) : Option (Chunk × Bytes) :=
  let length := Bytes.ofBigEndian (input.take 4)
  let tag := (input.drop 4).take 4
  let data := (input.drop 8).take length
  let rest := input.drop (8 + length)
  let check := rest.take 4
  if data.length = length ∧ check.length = 4 then
    some (⟨tag, data, check == checksum tag data⟩, rest.drop 4)
  else none

end Chunk

end Png

end ClipExchange
