/-!
# Byte strings

A byte string is a list of octets. Fixed-width numbers are written into it with either end
first; reading is the value of the digits in base 256.

## Main definitions

* `Bytes`: octet strings.
* `Bytes.littleEndian`, `Bytes.bigEndian`: a number in a given count of octets.
* `Bytes.ofLittleEndian`, `Bytes.ofBigEndian`: the number that octets stand for.
* `Bytes.cut`: octets in pieces of limited length.
-/

namespace ClipExchange

/-- A string of octets. -/
abbrev Bytes := List UInt8

namespace Bytes

/-- The lowest `width` octets of a number, the least significant one first. -/
def littleEndian : Nat → Nat → Bytes
  | 0, _ => []
  | width + 1, n => UInt8.ofNat n :: littleEndian width (n / 256)

/-- The number whose octets are given with the least significant one first. -/
def ofLittleEndian : Bytes → Nat
  | [] => 0
  | b :: rest => b.toNat + 256 * ofLittleEndian rest

/-- The lowest `width` octets of a number, the most significant one first. -/
def bigEndian (width n : Nat) : Bytes :=
  (littleEndian width n).reverse

/-- The number whose octets are given with the most significant one first. -/
def ofBigEndian (bytes : Bytes) : Nat :=
  ofLittleEndian bytes.reverse

/-- Cut octets into pieces of the given length, of which the last one may be shorter. -/
def cut (size : Nat) (data : Bytes) : List Bytes :=
  if size = 0 ∨ (data.drop size).isEmpty then [data]
  else data.take size :: cut size (data.drop size)
termination_by data.length
decreasing_by
  rename_i h
  simp only [not_or, List.isEmpty_iff, List.drop_eq_nil_iff] at h
  simp only [List.length_drop]
  omega

@[simp]
theorem length_littleEndian (width n : Nat) : (littleEndian width n).length = width := by
  induction width generalizing n with
  | zero => rfl
  | succ width ih => simp [littleEndian, ih]

@[simp]
theorem length_bigEndian (width n : Nat) : (bigEndian width n).length = width := by
  simp [bigEndian]

end Bytes

end ClipExchange
