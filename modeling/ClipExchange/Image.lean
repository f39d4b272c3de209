import ClipExchange.Bytes

/-!
# Images

## Main definitions

* `Image`: a width, a height and a buffer of pixels.
* `Image.IsWhole`: the buffer holds exactly the pixels that the dimensions announce.
-/

namespace ClipExchange

/-- An image of red, green, blue and alpha octets, row after row from the top. -/
structure Image where
  width : Nat
  height : Nat
  rgba : Bytes
deriving DecidableEq, Repr

namespace Image

/-- The number of octets that the dimensions announce. -/
def area (image : Image) : Nat :=
  4 * (image.width * image.height)

/-- The buffer holds exactly the pixels that the dimensions announce. -/
def IsWhole (image : Image) : Prop :=
  image.rgba.length = image.area

instance (image : Image) : Decidable image.IsWhole :=
  inferInstanceAs (Decidable (_ = _))

end Image

end ClipExchange
