import Mathlib
import ClipExchange.Bytes.Lemmas
import ClipExchange.Png.Deflate
import ClipExchange.Png.Stored
import ClipExchange.Proofs.Png.Bits

/-!
# Reading stored blocks

A stored block begins with a full octet, whose lowest bits are its head; the other bits of this
octet are dropped. The count of the octets that follow is given with its complement. So each block
gives its piece of the stored octets, and the last one gives the last piece.

## Main results

* `Png.Deflate.blockHead_of_stored`, `Png.Deflate.storedBlock_of_append`: the parts of one block.
* `Png.Deflate.blocksFrom_blocksOfPieces`: the octets that stored blocks hold.
-/

namespace ClipExchange

namespace Png

namespace Deflate

open BitReader

variable {input : BitInput} {data more : Bytes} {wanted : Nat}

/-- The head of a block that stores octets. -/
theorem blockHead_of_stored {isLast : Bool} (hpending : input.pending = [])
    (hoctets : input.octets = (if isLast then 1 else 0) :: more) (hmore : more ≠ []) :
    ∃ input', blockHead input = .ok ((isLast, 0), input') ∧ input'.octets = more := by
  obtain ⟨pending, rest, later⟩ := input
  obtain rfl : pending = [] := hpending
  obtain ⟨rest', later', hoctet, hrest⟩ := BitInput.octet?_of_append hoctets
  have hneed : need 10 ⟨[], rest, later⟩ = .ok ((), ⟨[], rest, later⟩) := by
    have hlength := List.length_pos_of_ne_nil hmore
    refine if_pos (BitInput.has_of_le ?_)
    rw [BitInput.length_bits, hoctets, List.length_cons]
    omega
  cases isLast with
  | false =>
    refine ⟨⟨(bitsOf 0).drop 3, rest', later'⟩, ?_, hrest⟩
    exact (bind_of_ok hneed).trans (bind_of_ok (bit_of_octet? hoctet))
  | true =>
    refine ⟨⟨(bitsOf 1).drop 3, rest', later'⟩, ?_, hrest⟩
    exact (bind_of_ok hneed).trans (bind_of_ok (bit_of_octet? hoctet))

/-- The count of the stored octets. -/
theorem storedLength_of_append {length : Nat} (hlength : length ≤ maxStored)
    (hoctets : input.octets =
      Bytes.littleEndian 2 length ++ (Bytes.littleEndian 2 (maxStored - length) ++ more)) :
    ∃ input', storedLength input = .ok (length, input') ∧
      input'.pending = [] ∧ input'.octets = more := by
  unfold maxStored at hlength hoctets
  obtain ⟨middle, hread, -, hmiddle⟩ := octets_of_append hoctets
  obtain ⟨input', hread', hpending, hinput'⟩ := octets_of_append hmiddle
  rw [Bytes.length_littleEndian] at hread hread'
  refine ⟨input', ?_, hpending, hinput'⟩
  refine (bind_of_ok hread).trans ((bind_of_ok hread').trans ?_)
  rw [Bytes.ofLittleEndian_littleEndian (by omega), Bytes.ofLittleEndian_littleEndian (by omega),
    if_pos (by omega)]
  rfl

/-- The stored octets come behind what was read before. -/
theorem storedBlock_of_append {piece : Bytes} (hlength : piece.length ≤ maxStored)
    (hroom : data.length + piece.length ≤ wanted)
    (hoctets : input.octets = Bytes.littleEndian 2 piece.length ++
      (Bytes.littleEndian 2 (maxStored - piece.length) ++ (piece ++ more))) :
    ∃ input',
      storedBlock wanted data.toArray input = .ok (((data ++ piece).toArray, true), input') ∧
      input'.pending = [] ∧ input'.octets = more := by
  obtain ⟨middle, hread, hpending, hmiddle⟩ := storedLength_of_append hlength hoctets
  obtain ⟨input', hread', hpending', hinput'⟩ := octets_of_append hmiddle
  have hmin : min piece.length (wanted - data.toArray.size) = piece.length := by
    rw [List.size_toArray]
    omega
  refine ⟨input', ?_, hpending', hinput'⟩
  refine (bind_of_ok hread).trans ?_
  rw [hmin]
  refine (bind_of_ok hread').trans ?_
  rw [beq_self_eq_true, ← List.toArray_appendList]
  rfl

/-- A stored block at the front of others. -/
theorem blocksFrom_storedBlockOf {isLast : Bool} {piece : Bytes} (fuel : Nat)
    (hlength : piece.length ≤ maxStored) (hroom : data.length + piece.length ≤ wanted)
    (hpending : input.pending = []) (hoctets : input.octets = storedBlockOf isLast piece ++ more) :
    ∃ input', input'.pending = [] ∧ input'.octets = more ∧
      blocksFrom wanted (fuel + 1) data.toArray input =
        (if isLast then pure ((data ++ piece).toArray, .behind)
          else if wanted ≤ (data ++ piece).length then pure ((data ++ piece).toArray, .between)
          else blocksFrom wanted fuel (data ++ piece).toArray) input' := by
  have hblock : input.octets = (if isLast then 1 else 0) :: (Bytes.littleEndian 2 piece.length ++
      (Bytes.littleEndian 2 (maxStored - piece.length) ++ (piece ++ more))) := by
    rw [hoctets, storedBlockOf, maxStored]
    simp only [List.cons_append, List.append_assoc]
  have hne : Bytes.littleEndian 2 piece.length ++
      (Bytes.littleEndian 2 (maxStored - piece.length) ++ (piece ++ more)) ≠ [] :=
    List.append_ne_nil_of_left_ne_nil (List.cons_ne_nil _ _) _
  obtain ⟨middle, hhead, hmiddle⟩ := blockHead_of_stored hpending hblock hne
  obtain ⟨input', hread, hpending', hinput'⟩ := storedBlock_of_append hlength hroom hmiddle
  refine ⟨input', hpending', hinput', ?_⟩
  rw [blocksFrom]
  exact (bind_of_ok hhead).trans (bind_of_ok hread)

theorem blocksOfPieces_cons_cons (piece next : Bytes) (pieces : List Bytes) :
    blocksOfPieces (piece :: next :: pieces) =
      storedBlockOf false piece :: blocksOfPieces (next :: pieces) :=
  rfl

/-- Each block has an octet at least. -/
theorem length_le_blocksOfPieces (pieces : List Bytes) :
    pieces.length ≤ (blocksOfPieces pieces).flatten.length := by
  fun_induction blocksOfPieces pieces with
  | case1 => exact Nat.zero_le _
  | case2 piece => simp [storedBlockOf]
  | case3 piece pieces _ ih =>
    rw [List.flatten_cons, List.length_append, storedBlockOf, List.length_cons, List.length_cons]
    omega

/-- **Stored blocks hold their octets,** and reading them ends behind the last block. -/
theorem blocksFrom_blocksOfPieces {pieces : List Bytes} {fuel : Nat} (hne : pieces ≠ [])
    (hpieces : ∀ piece ∈ pieces, piece ≠ [] ∧ piece.length ≤ maxStored)
    (hpending : input.pending = [])
    (hoctets : input.octets = (blocksOfPieces pieces).flatten ++ more)
    (hwanted : data.length + pieces.flatten.length = wanted) (hfuel : pieces.length ≤ fuel) :
    ∃ input', blocksFrom wanted fuel data.toArray input =
      .ok (((data ++ pieces.flatten).toArray, .behind), input') := by
  induction pieces generalizing input data fuel with
  | nil => exact absurd rfl hne
  | cons piece pieces ih =>
    obtain ⟨⟨-, hlength⟩, hpieces⟩ := List.forall_mem_cons.1 hpieces
    rw [List.flatten_cons, List.length_append] at hwanted
    rw [List.length_cons] at hfuel
    obtain ⟨fuel, rfl⟩ : ∃ n, fuel = n + 1 := ⟨fuel - 1, by omega⟩
    cases pieces with
    | nil =>
      rw [blocksOfPieces, List.flatten_singleton] at hoctets
      have hroom : data.length + piece.length ≤ wanted := by omega
      obtain ⟨input', -, -, hread⟩ :=
        blocksFrom_storedBlockOf fuel hlength hroom hpending hoctets
      exact ⟨input', by rw [hread, List.flatten_singleton]; rfl⟩
    | cons next pieces =>
      rw [blocksOfPieces_cons_cons, List.flatten_cons, List.append_assoc] at hoctets
      have hroom : data.length + piece.length ≤ wanted := by omega
      obtain ⟨middle, hmiddle, hmore, hread⟩ :=
        blocksFrom_storedBlockOf fuel hlength hroom hpending hoctets
      -- Octets are still wanted, since the next piece is not empty.
      have hnext := List.length_pos_of_ne_nil (hpieces next List.mem_cons_self).1
      have hstill : ¬ wanted ≤ (data ++ piece).length := by
        rw [List.flatten_cons, List.length_append] at hwanted
        rw [List.length_append]
        omega
      rw [hread, if_neg Bool.false_ne_true, if_neg hstill, List.flatten_cons, ← List.append_assoc]
      exact ih (List.cons_ne_nil _ _) hpieces hmiddle hmore
        (by rw [List.length_append]; omega) (by omega)

end Deflate

end Png

end ClipExchange
