/-!
# Faults of a PNG file

## Main definitions

* `Png.Fault`: why octets are no PNG image, with `Png.Fault.message`.
-/

namespace ClipExchange

namespace Png

/-- Why octets are no PNG image. -/
inductive Fault where
  /-- The signature at the front is missing. -/
  | signature
  /-- The file ends too early. -/
  | truncated
  /-- The checksum of a critical chunk is wrong. -/
  | checksum
  /-- The image header is missing, repeated or holds values that do not go together. -/
  | header
  /-- The palette is missing, repeated or of a wrong length. -/
  | palette
  /-- A chunk that a reader has to understand is unknown. -/
  | unknown
  /-- The chunk that describes a frame or its data does not fit its place. -/
  | frame
  /-- The colour space is none that an image can have. -/
  | colorSpace
  /-- There is no image data. -/
  | noData
  /-- The image data cannot be decompressed. -/
  | compression
  /-- A row names an unknown filter. -/
  | filter
deriving DecidableEq, Repr

/-- What is said about octets that are no PNG image. -/
def Fault.message : Fault → String
  | signature => "invalid PNG signature"
  | truncated => "unexpected end of PNG data"
  | checksum => "CRC error in a critical PNG chunk"
  | header => "invalid PNG image header"
  | palette => "invalid PNG palette"
  | unknown => "unknown critical PNG chunk"
  | frame => "invalid PNG frame"
  | colorSpace => "invalid PNG colour space"
  | noData => "PNG image data is missing"
  | compression => "corrupt deflate stream in PNG data"
  | filter => "unknown PNG row filter"

end Png

end ClipExchange
