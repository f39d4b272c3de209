import ClipExchange.Bytes

/-!
# Stored blocks

## Main definitions

* `Png.Deflate.storedBlocks`: blocks that store octets as they are.
* `Png.Deflate.storedSize`: the count of their octets.
-/

namespace ClipExchange

namespace Png

namespace Deflate

/-- A block that stores octets as they are. -/
def storedBlockOf (isLast : Bool) (data : Bytes) : Bytes :=
  (if isLast then 1 else 0) :: (Bytes.littleEndian 2 data.length ++
    (Bytes.littleEndian 2 (65535 - data.length) ++ data))

/-- The most octets that a block can store. -/
def maxStored : Nat := 65535

/-- A block for each piece, the last one marked. -/
def blocksOfPieces : List Bytes → List Bytes
  | [] => []
  | [piece] => [storedBlockOf true piece]
  | piece :: pieces => storedBlockOf false piece :: blocksOfPieces pieces

/-- Blocks that store octets as they are. -/
def storedBlocks (data : Bytes) : Bytes :=
  (blocksOfPieces (Bytes.cut maxStored data)).flatten

/-- The count of octets in the blocks that store a positive count of octets: each block has
five of its own. -/
def storedSize (count : Nat) : Nat :=
  count + 5 * ((count + maxStored - 1) / maxStored)

end Deflate

end Png

end ClipExchange
