import ClipExchange.Bytes

/-!
# Checksums

## Main definitions

* `Checksum.crc32`: the cyclic redundancy check of PNG chunks.
* `Checksum.adler32`: the checksum of a zlib stream.
-/

namespace ClipExchange

namespace Checksum

/-- Divide by the reflected generator polynomial, one bit at a time. -/
def crcShift : Nat → UInt32 → UInt32
  | 0, c => c
  | count + 1, c =>
    crcShift count (if c &&& 1 = 1 then (c >>> 1) ^^^ 0xEDB88320 else c >>> 1)

/-- Take one octet into the remainder. -/
def crcStep (c : UInt32) (b : UInt8) : UInt32 :=
  crcShift 8 (c ^^^ b.toUInt32)

/-- The 32-bit cyclic redundancy check of an octet string. -/
def crc32 (data : Bytes) : UInt32 :=
  data.foldl crcStep 0xFFFFFFFF ^^^ 0xFFFFFFFF

/-- Take one octet into both sums. -/
def adlerStep (sums : Nat × Nat) (b : UInt8) : Nat × Nat :=
  let low := (sums.1 + b.toNat) % 65521
  (low, (sums.2 + low) % 65521)

/-- The Adler checksum of an octet string. -/
def adler32 (data : Bytes) : UInt32 :=
  let sums := data.foldl adlerStep (1, 0)
  UInt32.ofNat (65536 * sums.2 + sums.1)

end Checksum

end ClipExchange
