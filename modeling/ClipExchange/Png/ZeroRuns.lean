import ClipExchange.Png.BitWriter
import ClipExchange.Png.Deflate

/-!
# Compression by runs of zeros

A filtered row holds many zeros and many differences that are almost zero. A single block with
one fixed pair of codes suits any such row: small differences have short code words, and a run
of zeros is one zero followed by copies of the octet before.

Runs are looked for in groups of eight octets. A run begins with the zeros at the end of a
group and goes on with all zeros that follow; other zeros stand for themselves, as do the last
octets of a row that are no whole group.

## Main definitions

* `Png.Deflate.Piece`: an octet or a run of zeros, with `Png.Deflate.piecesOf`.
* `Png.Deflate.zeroRunCodes`: the pair of codes.
* `Png.Deflate.zeroRunBlock`: the block for some rows.
-/

namespace ClipExchange

namespace Png

namespace Deflate

/-- A part of a row. -/
inductive Piece where
  | octet (b : UInt8)
  | zeros (count : Nat)
deriving DecidableEq, Repr

namespace Piece

/-- Add a run of zeros, if there are any. -/
def addZeros (done : Array Piece) (count : Nat) : Array Piece :=
  if count = 0 then done else done.push (zeros count)

/-- Add octets that stand for themselves. -/
def addOctets (done : Array Piece) (data : Bytes) : Array Piece :=
  data.foldl (fun done b => done.push (octet b)) done

/-- Add a group of octets behind an open run of zeros. The result has the length of the run
that is open after it. -/
def addGroup (done : Array Piece) (run : Nat) (group : Bytes) : Array Piece × Nat :=
  if group.all (· == 0) then (done, run + group.length)
  else
    let lead := if run = 0 then [] else group.takeWhile (· == 0)
    let others := group.drop lead.length
    let trailing := (others.reverse.takeWhile (· == 0)).length
    let between := others.take (others.length - trailing)
    (addOctets (addZeros done (run + lead.length)) between, trailing)

/-- Add the octets of a row behind an open run of zeros. -/
def addRow (done : Array Piece) (run : Nat) : Bytes → Array Piece
  | a :: b :: c :: d :: e :: f :: g :: h :: rest =>
    let (done, run) := addGroup done run [a, b, c, d, e, f, g, h]
    addRow done run rest
  | rest => addOctets (addZeros done run) rest

end Piece

/-- The parts of a row. -/
def piecesOf (row : Bytes) : Array Piece :=
  Piece.addRow #[] 0 row

/-- The lengths of the code words, each with the number of symbols in a row that have it. -/
def zeroRunLengths : List (Nat × Nat) := [
  (1, 2), (1, 3), (1, 4), (2, 5), (2, 6), (3, 7), (5, 8), (7, 9), (9, 10), (12, 11), (171, 12),
  (10, 11), (1, 10), (1, 11), (9, 10), (5, 9), (1, 8), (1, 9), (5, 8), (3, 7), (3, 6), (1, 5),
  (1, 4), (1, 3), (3, 12), (2, 9), (1, 11), (1, 10), (2, 11), (1, 10), (6, 11), (1, 12), (1, 11),
  (11, 12), (1, 9)]

/-- The pair of codes. There is one distance only, that of the octet before. -/
def zeroRunCodes : Codes where
  literals := Huffman.ofLengths
    (zeroRunLengths.flatMap fun (count, length) => List.replicate count length)
  distances := Huffman.ofLengths [1]

/-- The head of a block that describes the pair of codes and is the last one, in octets. -/
def zeroRunHeadOctets : Bytes := [
  0xED, 0xC0, 0x03, 0xA0, 0x24, 0x59, 0x96, 0xC6, 0xF1, 0xFF, 0x77, 0xEE, 0x8D, 0xC8, 0xCC, 0xA7,
  0x72, 0x4B, 0x63, 0xAE, 0x6D, 0xDB, 0xB6, 0x6D, 0xDB, 0xB6, 0x6D, 0xDB, 0xB6, 0x6D, 0x69, 0x8C,
  0x9E, 0x96, 0x4A, 0xAF, 0x9E, 0x32, 0x33, 0x22, 0xEE, 0xF9, 0x76, 0xB7, 0x6A, 0x7A, 0xA6, 0x87,
  0x3B, 0x6B, 0xD5, 0x0F]

/-- The bits of the head. -/
def zeroRunHead : List Bool :=
  (zeroRunHeadOctets.flatMap BitReader.bitsOf).take 413

/-- The code words of the literal symbols. -/
def zeroRunWords : Array (List Bool) :=
  ((List.range 286).map zeroRunCodes.literals.word).toArray

/-- The code word of the distance one. -/
def distanceOne : List Bool := [false]

/-- The bits of a symbol. -/
def symbolBits (symbol : Nat) : List Bool :=
  zeroRunWords.getD symbol []

/-- The bits of a copy of some octets, the first of them being right behind the one before. The
symbol is the last one with a base that is not too great. -/
def copyBits (length : Nat) : List Bool :=
  let suitable := lengthSymbols.toList.zipIdx.filter fun ((base, _), _) => base ≤ length
  match suitable.getLast? with
  | some ((base, extra), i) =>
    symbolBits (257 + i) ++ (fieldBits extra (length - base) ++ distanceOne)
  | none => []

/-- The longest copy. -/
def maxCopy : Nat := 258

/-- The bits of zeros behind another zero. Up to four of them stand for themselves. -/
def moreZeros (count : Nat) : List Bool :=
  let whole := (List.replicate (count / maxCopy) (copyBits maxCopy)).flatten
  let rest := count % maxCopy
  whole ++ (if 4 < rest then copyBits rest else (List.replicate rest (symbolBits 0)).flatten)

/-- The bits of a part of a row. -/
def Piece.bits : Piece → List Bool
  | octet b => symbolBits b.toNat
  | zeros count => symbolBits 0 ++ moreZeros (count - 1)

/-- Write the parts of a row. -/
def writeRow (writer : BitWriter) (row : Bytes) : BitWriter :=
  (piecesOf row).foldl (fun writer piece => writer.append piece.bits) writer

/-- A block with the octets of some rows, which is the last one. -/
def zeroRunBlock (rows : List Bytes) : Bytes :=
  let writer := rows.foldl writeRow (BitWriter.empty.append zeroRunHead)
  (writer.append (symbolBits endOfBlock)).finish

end Deflate

end Png

end ClipExchange
