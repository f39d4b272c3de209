import ClipExchange.Png.Huffman

/-!
# Compressed blocks

A compressed stream is a sequence of blocks. A block stores octets as they are, or codes
literal octets and copies of earlier output with a pair of Huffman codes, either the fixed
pair or one that the block describes.

A reader knows how many octets it wants, and decoding stops as soon as they are there, wherever
in a block that is. Behind a block that was stored, though, the head of the next one is at hand
at once, so what is left of the current piece is checked as far as blocks without octets reach.

## Main definitions

* `Png.Deflate.Codes`: the pair of codes of a block.
* `Png.Deflate.blocksFrom`: the octets of a compressed stream.
* `Png.Deflate.Stop`: where decoding stopped.
* `Png.Deflate.emptyBlocks`: the blocks behind the last octet that is wanted.
-/

namespace ClipExchange

namespace Png

namespace Deflate

/-- The shortest copy that a length symbol stands for, and the count of extra bits. -/
def lengthSymbols : Array (Nat × Nat) := #[
  (3, 0), (4, 0), (5, 0), (6, 0), (7, 0), (8, 0), (9, 0), (10, 0), (11, 1), (13, 1), (15, 1),
  (17, 1), (19, 2), (23, 2), (27, 2), (31, 2), (35, 3), (43, 3), (51, 3), (59, 3), (67, 4),
  (83, 4), (99, 4), (115, 4), (131, 5), (163, 5), (195, 5), (227, 5), (258, 0)]

/-- The least distance that a distance symbol stands for, and the count of extra bits. -/
def distanceSymbols : Array (Nat × Nat) := #[
  (1, 0), (2, 0), (3, 0), (4, 0), (5, 1), (7, 1), (9, 2), (13, 2), (17, 3), (25, 3), (33, 4),
  (49, 4), (65, 5), (97, 5), (129, 6), (193, 6), (257, 7), (385, 7), (513, 8), (769, 8),
  (1025, 9), (1537, 9), (2049, 10), (3073, 10), (4097, 11), (6145, 11), (8193, 12),
  (12289, 12), (16385, 13), (24577, 13)]

/-- The number that a symbol and its extra bits stand for. -/
def amount (table : Array (Nat × Nat)) (symbol : Nat) : BitReader Nat :=
  match table[symbol]? with
  | none => BitReader.fail .compression
  | some (base, extra) => do
    let more ← BitReader.bits extra
    pure (base + more)

/-- Append octets that were written some distance ago, one by one. -/
def copy (output : Array UInt8) (distance : Nat) : Nat → Array UInt8
  | 0 => output
  | count + 1 =>
    copy (output.push (output.getD (output.size - distance) 0)) distance count

/-- The pair of codes of a block. -/
structure Codes where
  literals : Huffman
  distances : Huffman

/-- The symbol that ends a block. -/
def endOfBlock : Nat := 256

/-- The fixed pair of codes. -/
def fixedCodes : Codes where
  literals := Huffman.ofLengths
    (List.replicate 144 8 ++ List.replicate 112 9 ++ List.replicate 24 7 ++ List.replicate 8 8)
  distances := Huffman.ofLengths (List.replicate 32 5)

/-- The order in which the lengths of the code for lengths are given. -/
def lengthOrder : List Nat :=
  [16, 17, 18, 0, 8, 7, 9, 6, 10, 5, 11, 4, 12, 3, 13, 2, 14, 1, 15]

/-- The lengths that one symbol adds to `done`, which is given last one first. -/
def lengthRun (done : List Nat) (symbol : Nat) : BitReader (List Nat) :=
  match symbol with
  | 16 =>
    match done with
    | [] => BitReader.fail .compression
    | last :: _ => do
      let more ← BitReader.bits 2
      pure (List.replicate (3 + more) last)
  | 17 => do
    let more ← BitReader.bits 3
    pure (List.replicate (3 + more) 0)
  | 18 => do
    let more ← BitReader.bits 7
    pure (List.replicate (11 + more) 0)
  | length => pure [length]

/-- Read code lengths until there are `total`; every round adds one at least. No block ends
within the seven bits that a symbol may take. -/
def lengthsFrom (code : Huffman) (total : Nat) : Nat → List Nat → BitReader (List Nat)
  | 0, _ => BitReader.fail .compression
  | rounds + 1, done =>
    if done.length = total then pure done.reverse
    else if total < done.length then BitReader.fail .compression
    else do
      BitReader.need 7
      let symbol ← code.symbol
      let run ← lengthRun done symbol
      lengthsFrom code total rounds (run ++ done)

/-- A distance code may also be empty or a single word of one bit. -/
def isDistanceCode (code : Huffman) : Bool :=
  code.isComplete || code.isEmpty || code.isSingle

/-- Read the pair of codes that a block describes. -/
def describedCodes : BitReader Codes := do
  let literalCount := 257 + (← BitReader.bits 5)
  let distanceCount := 1 + (← BitReader.bits 5)
  let orderCount := 4 + (← BitReader.bits 4)
  if 286 < literalCount ∨ 30 < distanceCount then BitReader.fail .compression
  else
    let given ← (lengthOrder.take orderCount).mapM fun symbol => do
      let length ← BitReader.bits 3
      pure (symbol, length)
    let lengthCode := Huffman.ofLengths
      ((List.range lengthOrder.length).map fun symbol => (given.lookup symbol).getD 0)
    if lengthCode.isComplete then
      let total := literalCount + distanceCount
      let lengths ← lengthsFrom lengthCode total (total + 1) []
      let codes : Codes :=
        ⟨Huffman.ofLengths (lengths.take literalCount),
          Huffman.ofLengths (lengths.drop literalCount)⟩
      if lengths.getD endOfBlock 0 ≠ 0 ∧ codes.literals.isComplete ∧
          isDistanceCode codes.distances then
        pure codes
      else BitReader.fail .compression
    else BitReader.fail .compression

/-- Read literals and copies until there are `wanted` octets or the block ends, and tell
whether it ended. Each takes a bit at least, so `fuel` bits are enough. -/
def codedFrom (codes : Codes) (wanted : Nat) :
    Nat → Array UInt8 → BitReader (Array UInt8 × Bool)
  | 0, _ => BitReader.fail .truncated
  | fuel + 1, output =>
    if wanted ≤ output.size then pure (output, false)
    else do
      let symbol ← codes.literals.symbol
      if symbol < endOfBlock then
        codedFrom codes wanted fuel (output.push (UInt8.ofNat symbol))
      else if symbol = endOfBlock then pure (output, true)
      else
        let length ← amount lengthSymbols (symbol - 257)
        let distance ← amount distanceSymbols (← codes.distances.symbol)
        if output.size < distance then BitReader.fail .compression
        else
          let length := min length (wanted - output.size)
          codedFrom codes wanted fuel (copy output distance length)

/-- Read the count of octets that are stored as they are. -/
def storedLength : BitReader Nat := do
  let length := Bytes.ofLittleEndian (← BitReader.octets 2)
  let complement := Bytes.ofLittleEndian (← BitReader.octets 2)
  if length + complement = 65535 then pure length
  else BitReader.fail .compression

/-- Read octets that are stored as they are until there are `wanted` octets or the block ends,
and tell whether it ended. -/
def storedBlock (wanted : Nat) (output : Array UInt8) : BitReader (Array UInt8 × Bool) := do
  let length ← storedLength
  let count := min length (wanted - output.size)
  let data ← BitReader.octets count
  pure (output ++ data, count == length)

/-- Read whether a block is the last one, and its kind. No block has fewer than ten bits. -/
def blockHead : BitReader (Bool × Nat) := do
  BitReader.need 10
  let isLast ← BitReader.bit
  let kind ← BitReader.bits 2
  pure (isLast, kind)

/-- Read the contents of a block of a kind until there are `wanted` octets or the block ends,
and tell whether it ended. -/
def block (kind wanted fuel : Nat) (output : Array UInt8) :
    BitReader (Array UInt8 × Bool) :=
  match kind with
  | 0 => storedBlock wanted output
  | 1 => codedFrom fixedCodes wanted fuel output
  | 2 => do
    let codes ← describedCodes
    codedFrom codes wanted fuel output
  | _ => BitReader.fail .compression

/-- Where decoding stopped. -/
inductive Stop where
  /-- Inside a block. -/
  | inside
  /-- Behind a block that is not the last one. -/
  | between
  /-- Behind the last block. -/
  | behind
deriving DecidableEq, Repr

/-- Read blocks until there are `wanted` octets or the last block ends. Each takes a bit at
least, so `fuel` bits are enough. -/
def blocksFrom (wanted : Nat) : Nat → Array UInt8 → BitReader (Array UInt8 × Stop)
  | 0, _ => BitReader.fail .truncated
  | fuel + 1, output => do
    let (isLast, kind) ← blockHead
    let (output, isEnded) ← block kind wanted fuel output
    if !isEnded then pure (output, .inside)
    else if isLast then pure (output, .behind)
    else if wanted ≤ output.size then pure (output, .between)
    else blocksFrom wanted fuel output

/-- Read blocks without octets up to the last one, or up to the contents of one that has
octets. -/
def emptyBlocks : Nat → BitReader Unit
  | 0 => pure ()
  | fuel + 1 => do
    let (isLast, kind) ← blockHead
    match kind with
    | 0 =>
      let length ← storedLength
      if length = 0 ∧ !isLast then emptyBlocks fuel else pure ()
    | 1 =>
      let word ← BitReader.bits 7
      if word = 0 ∧ !isLast then emptyBlocks fuel else pure ()
    | 2 =>
      let _ ← describedCodes
      pure ()
    | _ => BitReader.fail .compression

end Deflate

end Png

end ClipExchange
