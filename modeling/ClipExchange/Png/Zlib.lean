import ClipExchange.Png.Deflate

/-!
# Zlib streams

A zlib stream has a two-octet header before the blocks of a compressed stream and four octets
of checksum after them. The checksum is not compared, as each chunk that carries a part of the
stream has a check of its own. It only has to be there, and only if the blocks end before all
wanted octets are read: a stream that holds all of them may break off behind them.

## Main definitions

* `Png.Zlib.decompress`: the octets of a zlib stream in pieces.
-/

namespace ClipExchange

namespace Png

namespace Zlib

/-- Whether two octets are a header: deflate with a window of at most 32 KiB, no preset
dictionary, and a multiple of 31. -/
def isHeader (method flags : UInt8) : Bool :=
  method.toNat % 16 == 8 && method.toNat / 16 ≤ 7 && !flags.toNat.testBit 5 &&
    (256 * method.toNat + flags.toNat) % 31 == 0

/-- Read the header. -/
def header : BitReader Unit := do
  match ← BitReader.octets 2 with
  | [method, flags] => if isHeader method flags then pure () else BitReader.fail .compression
  | _ => BitReader.fail .truncated

/-- Check what is left of the current piece behind a block that was stored. It may break off
anywhere. -/
def checkCurrent (fuel : Nat) : BitReader Unit := fun input =>
  match (Deflate.emptyBlocks fuel).run input.current with
  | .error .truncated => .ok ((), input)
  | .error fault => .error fault
  | .ok _ => .ok ((), input)

/-- Read the first `wanted` octets of a stream, or all of them if there are fewer; `fuel` bits
are enough. -/
def contents (wanted fuel : Nat) : BitReader (Array UInt8) := do
  header
  let (output, stop) ← Deflate.blocksFrom wanted fuel #[]
  match stop with
  | .inside => pure output
  | .between =>
    checkCurrent fuel
    pure output
  | .behind =>
    if output.size < wanted then
      let _ ← BitReader.octets 4
    pure output

/-- The first `wanted` octets of a stream in pieces, or all of them if there are fewer. What
follows does not matter. -/
def decompress (wanted : Nat) (pieces : List Bytes) : Except Fault Bytes := do
  let size := pieces.foldl (fun size piece => size + piece.length) 0
  let (output, _) ← (contents wanted (8 * size + 1)).run (BitInput.ofPieces pieces)
  return output.toList

end Zlib

end Png

end ClipExchange
