import Mathlib
import ClipExchange.Png.Huffman
import ClipExchange.Proofs.Png.Bits

/-!
# Reading code words

The words of a canonical code are numbers with their most significant bit first. The words of each
length begin where twice the end of the shorter ones lies, so a word that was read up to some length
is beyond the end of the words of that length exactly if it has to go on. Reading bit by bit thus
ends at the last bit of a code word, as long as the numbers of each length fit that length.

## Main definitions

* `Png.Huffman.wordValue`: the number that a word stands for.
* `Png.Huffman.Fits`: the words of each length are numbers that fit that length.

## Main results

* `Png.Huffman.reads_of_mem_words`: a code word is read as its symbol.
* `Png.Huffman.reads_word`: every symbol with a length is read from its word.
-/

namespace ClipExchange

namespace Png

namespace Huffman

open BitReader

variable {code : Huffman} {length first symbol : Nat} {bits : List Bool}

/-! ### Words as numbers -/

/-- The number whose bits are given, the most significant one first. -/
def wordValue (bits : List Bool) : Nat :=
  bits.foldl (fun n b => 2 * n + b.toNat) 0

theorem wordValue_append_singleton (bits : List Bool) (b : Bool) :
    wordValue (bits ++ [b]) = 2 * wordValue bits + b.toNat := by
  simp [wordValue]

@[simp]
theorem length_wordBits (length n : Nat) : (wordBits length n).length = length := by
  simp [wordBits]

theorem wordBits_succ (length n : Nat) :
    wordBits (length + 1) n = wordBits length (n / 2) ++ [n.testBit 0] := by
  have hbits := congrArg List.reverse (fieldBits_succ length n)
  rw [List.reverse_cons] at hbits
  exact hbits

/-- A number that fits is the value of its word. -/
theorem wordValue_wordBits {n : Nat} (h : n < 2 ^ length) :
    wordValue (wordBits length n) = n := by
  induction length generalizing n with
  | zero =>
    obtain rfl : n = 0 := by omega
    rfl
  | succ length ih =>
    rw [Nat.pow_succ] at h
    rw [wordBits_succ, wordValue_append_singleton, ih (by omega), Nat.testBit_zero]
    rcases Nat.mod_two_eq_zero_or_one n with hn | hn <;> simp [hn] <;> omega

/-! ### The words of each length -/

/-- The words of the given length, which begin at `first`, and all longer ones are numbers that fit
their lengths. -/
def FitsFrom (length first : Nat) : Huffman → Prop
  | [] => True
  | row :: rows =>
    first + row.size ≤ 2 ^ length ∧ FitsFrom (length + 1) (2 * (first + row.size)) rows

/-- The words of each length are numbers that fit that length. -/
def Fits (code : Huffman) : Prop :=
  FitsFrom 1 0 code

instance decidableFitsFrom : (length first : Nat) → (code : Huffman) →
    Decidable (FitsFrom length first code)
  | _, _, [] => isTrue trivial
  | length, first, row :: rows =>
    haveI := decidableFitsFrom (length + 1) (2 * (first + row.size)) rows
    inferInstanceAs (Decidable (_ ∧ _))

instance (code : Huffman) : Decidable code.Fits :=
  decidableFitsFrom 1 0 code

theorem mem_wordsFrom_cons {row : Array Nat} {rows : Huffman} :
    (symbol, bits) ∈ wordsFrom length first (row :: rows) ↔
      (∃ i, row[i]? = some symbol ∧ bits = wordBits length (first + i)) ∨
        (symbol, bits) ∈ wordsFrom (length + 1) (2 * (first + row.size)) rows := by
  rw [wordsFrom, List.mem_append]
  refine or_congr_left ?_
  simp only [List.mem_map, Prod.exists, Prod.mk.injEq, List.mk_mem_zipIdx_iff_getElem?,
    Array.getElem?_toList]
  constructor
  · rintro ⟨_, i, hi, rfl, rfl⟩
    exact ⟨i, hi, rfl⟩
  · rintro ⟨i, hi, rfl⟩
    exact ⟨symbol, i, hi, rfl, rfl⟩

theorem lt_size_of_getElem? {row : Array Nat} {i : Nat} (h : row[i]? = some symbol) :
    i < row.size := by
  by_contra hlength
  rw [Array.getElem?_eq_none (by omega)] at h
  cases h

theorem length_le_of_mem (h : (symbol, bits) ∈ wordsFrom length first code) :
    length ≤ bits.length := by
  induction code generalizing length first with
  | nil => cases h
  | cons row rows ih =>
    rcases mem_wordsFrom_cons.1 h with ⟨i, -, rfl⟩ | h
    · rw [length_wordBits]
    · exact (Nat.le_succ length).trans (ih h)

/-- What a number of one more bit says about the number without its last bit. -/
theorem le_wordValue_take {n : Nat} (hlength : length < bits.length)
    (h : 2 * n ≤ wordValue (bits.take (length + 1))) : n ≤ wordValue (bits.take length) := by
  have hbit := (bits[length]).toNat_lt
  rw [List.take_succ_eq_append_getElem hlength, wordValue_append_singleton] at h
  omega

/-- The words from some length on begin with numbers from `first` on. -/
theorem first_le_of_mem (hfits : FitsFrom length first code)
    (h : (symbol, bits) ∈ wordsFrom length first code) : first ≤ wordValue (bits.take length) := by
  induction code generalizing length first with
  | nil => cases h
  | cons row rows ih =>
    obtain ⟨hrow, hrows⟩ := hfits
    rcases mem_wordsFrom_cons.1 h with ⟨i, hi, rfl⟩ | h
    · have hsize := lt_size_of_getElem? hi
      rw [List.take_of_length_le (length_wordBits _ _).le, wordValue_wordBits (by omega)]
      exact Nat.le_add_right _ _
    · have hend := le_wordValue_take (length_le_of_mem h) (ih hrows h)
      omega

/-! ### Reading -/

/-- A word is read to its end after all but the bits from some length on were read. -/
theorem reads_walk {front back : List Bool} (hfits : FitsFrom length first code)
    (h : (symbol, front ++ back) ∈ wordsFrom length first code)
    (hfront : front.length + 1 = length) :
    (walk (wordValue front) first code).Reads back symbol := by
  induction code generalizing length first front back with
  | nil => cases h
  | cons row rows ih =>
    obtain ⟨hrow, hrows⟩ := hfits
    obtain ⟨b, back, rfl⟩ : ∃ b back', back = b :: back' := by
      refine List.exists_cons_of_ne_nil fun hback => ?_
      have hlength := length_le_of_mem h
      rw [hback, List.append_nil] at hlength
      omega
    have hvalue := wordValue_append_singleton front b
    refine (reads_bit b).bind ?_
    rw [← hvalue]
    rcases mem_wordsFrom_cons.1 h with ⟨i, hi, hbits⟩ | h
    · -- The word has the length that is reached.
      have hsize := lt_size_of_getElem? hi
      obtain rfl : back = [] := by
        have hlength := congrArg List.length hbits
        simp only [List.length_append, List.length_cons, length_wordBits] at hlength
        exact List.length_eq_zero_iff.1 (by omega)
      rw [hbits, wordValue_wordBits (by omega)]
      simp only [Nat.add_sub_cancel_left, hi]
      exact reads_pure symbol
    · -- The word is longer, so what was read of it lies beyond the words of this length.
      have hbits : front ++ b :: back = front ++ [b] ++ back := by simp
      have hfront' : (front ++ [b]).length = length := by simpa using hfront
      rw [hbits] at h
      have hend := le_wordValue_take (length_le_of_mem h) (first_le_of_mem hrows h)
      rw [List.take_left' hfront'] at hend
      have hnone : row[wordValue (front ++ [b]) - first]? = none :=
        Array.getElem?_eq_none (by omega)
      simp only [hnone]
      exact ih hrows h (by rw [hfront'])

/-- **A code word is read as its symbol.** -/
theorem reads_of_mem_words (hfits : code.Fits) (h : (symbol, bits) ∈ code.words) :
    code.symbol.Reads bits symbol :=
  have hbits : (symbol, [] ++ bits) ∈ wordsFrom 1 0 code := h
  reads_walk hfits hbits rfl

/-! ### The words of all symbols -/

theorem exists_mem_wordsFrom {row : Array Nat} (hrow : row ∈ code) (hsymbol : symbol ∈ row) :
    ∃ bits, (symbol, bits) ∈ wordsFrom length first code := by
  induction code generalizing length first with
  | nil => cases hrow
  | cons head rows ih =>
    rcases List.mem_cons.1 hrow with rfl | hrow
    · obtain ⟨i, hi⟩ := Array.mem_iff_getElem?.1 hsymbol
      exact ⟨_, mem_wordsFrom_cons.2 (.inl ⟨i, hi, rfl⟩)⟩
    · obtain ⟨bits, hbits⟩ := ih hrow
      exact ⟨bits, mem_wordsFrom_cons.2 (.inr hbits)⟩

theorem mem_symbolsOf {lengths : List Nat} (h : lengths[symbol]? = some length) :
    symbol ∈ symbolsOf lengths length := by
  rw [symbolsOf, List.mem_toArray, List.mem_filterMap]
  exact ⟨(length, symbol), List.mk_mem_zipIdx_iff_getElem?.2 h, if_pos rfl⟩

/-- In a canonical code, every symbol with a length has a word. -/
theorem exists_lookup_words {lengths : List Nat} (h : lengths[symbol]? = some length)
    (hpos : 0 < length) (hmax : length ≤ maxLength) :
    ∃ bits, (ofLengths lengths).words.lookup symbol = some bits := by
  have hrow : symbolsOf lengths length ∈ ofLengths lengths :=
    List.mem_map.2 ⟨length - 1, List.mem_range.2 (by omega), by rw [Nat.sub_add_cancel hpos]⟩
  obtain ⟨bits, hbits⟩ : ∃ bits, (symbol, bits) ∈ (ofLengths lengths).words :=
    exists_mem_wordsFrom hrow (mem_symbolsOf h)
  refine Option.ne_none_iff_exists'.1 fun hnone => ?_
  have hne := List.lookup_eq_none_iff.1 hnone _ hbits
  exact absurd hne (by simp)

/-- **A symbol with a length is read from its word,** which has one bit at least. -/
theorem reads_word {lengths : List Nat} (hfits : (ofLengths lengths).Fits)
    (h : lengths[symbol]? = some length) (hpos : 0 < length) (hmax : length ≤ maxLength) :
    (ofLengths lengths).symbol.Reads ((ofLengths lengths).word symbol) symbol ∧
      (ofLengths lengths).word symbol ≠ [] := by
  obtain ⟨bits, hlookup⟩ := exists_lookup_words h hpos hmax
  obtain ⟨before, after, hwords, -⟩ := List.lookup_eq_some_iff.1 hlookup
  have hmem : (symbol, bits) ∈ (ofLengths lengths).words := by
    rw [hwords]
    exact List.mem_append_right _ List.mem_cons_self
  rw [word, hlookup, Option.getD_some]
  exact ⟨reads_of_mem_words hfits hmem, List.ne_nil_of_length_pos (length_le_of_mem hmem)⟩

/-! ### Codes are read one bit after the other -/

theorem sequential_walk (word first : Nat) (code : Huffman) :
    (walk word first code).Sequential := by
  induction code generalizing word first with
  | nil => exact sequential_fail _
  | cons row rows ih =>
    refine sequential_bit.bind fun b => ?_
    dsimp only
    split
    · exact sequential_pure _
    · exact ih _ _

theorem sequential_symbol (code : Huffman) : code.symbol.Sequential :=
  sequential_walk 0 0 code

end Huffman

end Png

end ClipExchange
