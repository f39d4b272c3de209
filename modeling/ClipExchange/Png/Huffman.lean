import ClipExchange.Png.BitReader

/-!
# Canonical Huffman codes

A canonical code is given by the length of each symbol's code word. Code words of one length
are consecutive numbers in the order of their symbols, and follow the shorter ones. So the
symbols of each length, in order, are all that decoding needs: reading one more bit doubles
the word, and the words of that length begin where twice the end of the previous ones lies.

## Main definitions

* `Png.Huffman`: the symbols of each length.
* `Png.Huffman.isComplete`: every bit string begins with a code word.
* `Png.Huffman.symbol`: read one symbol.
* `Png.Huffman.words`: the code words.
-/

namespace ClipExchange

namespace Png

/-- The symbols with code words of one bit, of two bits, and so on. -/
abbrev Huffman := List (Array Nat)

namespace Huffman

/-- The greatest length of a code word. -/
def maxLength : Nat := 15

/-- The symbols whose length is the given one. -/
def symbolsOf (lengths : List Nat) (length : Nat) : Array Nat :=
  (lengths.zipIdx.filterMap fun (l, s) => if l = length then some s else none).toArray

/-- The canonical code with the given lengths; a symbol of length zero has no code word. -/
def ofLengths (lengths : List Nat) : Huffman :=
  (List.range maxLength).map fun i => symbolsOf lengths (i + 1)

/-- Whether the code words use up all bit strings, and no more. -/
def isComplete (code : Huffman) : Bool :=
  code.foldl (fun used row => 2 * used + row.size) 0 == 1 <<< code.length

/-- Whether there is no code word. -/
def isEmpty (code : Huffman) : Bool :=
  code.all Array.isEmpty

/-- Whether there is one code word, of one bit. -/
def isSingle (code : Huffman) : Bool :=
  match code with
  | first :: rest => first.size == 1 && rest.all Array.isEmpty
  | [] => false

/-- Read bits until they are a code word. `word` was read before, and the words of its length
begin at `first`. -/
def walk (word first : Nat) : Huffman → BitReader Nat
  | [] => BitReader.fail .compression
  | row :: rows => do
    let b ← BitReader.bit
    let word := 2 * word + b.toNat
    match row[word - first]? with
    | some symbol => pure symbol
    | none => walk word (2 * (first + row.size)) rows

/-- Read one symbol. -/
def symbol (code : Huffman) : BitReader Nat :=
  walk 0 0 code

/-- The lowest bits of a number, the most significant one first. -/
def wordBits (length n : Nat) : List Bool :=
  ((List.range length).map n.testBit).reverse

/-- The symbols with their code words, where the words of the next length begin at `first`. -/
def wordsFrom (length first : Nat) : Huffman → List (Nat × List Bool)
  | [] => []
  | row :: rows =>
    row.toList.zipIdx.map (fun (symbol, i) => (symbol, wordBits length (first + i))) ++
      wordsFrom (length + 1) (2 * (first + row.size)) rows

/-- The symbols with their code words. -/
def words (code : Huffman) : List (Nat × List Bool) :=
  wordsFrom 1 0 code

/-- The code word of a symbol; empty if it has none. -/
def word (code : Huffman) (symbol : Nat) : List Bool :=
  (code.words.lookup symbol).getD []

end Huffman

end Png

end ClipExchange
