import Mathlib
import ClipExchange.Png.Deflate
import ClipExchange.Proofs.Png.CodeWords

/-!
# Reading coded blocks

Behind some octets that were read already, the bits of a coded block append further ones: an octet
that stands for itself, or a copy of earlier octets. What some bits append is stated for every
continuation (`Deflate.Appends`), so that it is put together from what the parts append. A block is
left as soon as all wanted octets are there.

The codes that a block describes are read one bit after the other, so what one computation reads is
read from every input.

## Main definitions

* `Png.Deflate.Appends`: some bits of a coded block append octets.

## Main results

* `Png.Deflate.sequential_describedCodes`: the description of the codes is read bit by bit.
* `Png.Deflate.Appends.append`, `Png.Deflate.appends_octet`, `Png.Deflate.appends_copy`: what bits
  append.
* `Png.Deflate.Appends.reads_codedFrom`: a block that appends all wanted octets.
-/

namespace ClipExchange

namespace Png

open BitReader

/-! ### Sequences of readers -/

theorem BitReader.Sequential.mapM {α β : Type} {f : α → BitReader β} (hf : ∀ x, (f x).Sequential)
    (values : List α) : (values.mapM f).Sequential := by
  induction values with
  | nil =>
    rw [List.mapM_nil]
    exact sequential_pure _
  | cons x values ih =>
    rw [List.mapM_cons]
    exact (hf x).bind fun _ => ih.bind fun _ => sequential_pure _

namespace Deflate

/-! ### The description of the codes -/

theorem sequential_lengthRun (done : List Nat) (symbol : Nat) :
    (lengthRun done symbol).Sequential := by
  unfold lengthRun
  split
  · cases done with
    | nil => exact sequential_fail _
    | cons => exact (sequential_bits 2).bind fun _ => sequential_pure _
  · exact (sequential_bits 3).bind fun _ => sequential_pure _
  · exact (sequential_bits 7).bind fun _ => sequential_pure _
  · exact sequential_pure _

theorem sequential_lengthsFrom (code : Huffman) (total rounds : Nat) (done : List Nat) :
    (lengthsFrom code total rounds done).Sequential := by
  induction rounds generalizing done with
  | zero => exact sequential_fail _
  | succ rounds ih =>
    unfold lengthsFrom
    split_ifs
    · exact sequential_pure _
    · exact sequential_fail _
    · refine (sequential_need (by decide)).bind fun _ => ?_
      refine code.sequential_symbol.bind fun symbol => ?_
      exact (sequential_lengthRun done symbol).bind fun _ => ih _

theorem sequential_describedCodes : describedCodes.Sequential := by
  refine (sequential_bits 5).bind fun _ => (sequential_bits 5).bind fun _ =>
    (sequential_bits 4).bind fun _ => ?_
  split_ifs
  · exact sequential_fail _
  · refine (Sequential.mapM (fun _ => (sequential_bits 3).bind fun _ => sequential_pure _) _).bind
      fun _ => ?_
    dsimp only
    split_ifs
    · refine (sequential_lengthsFrom _ _ _ _).bind fun _ => ?_
      split_ifs
      · exact sequential_pure _
      · exact sequential_fail _
    · exact sequential_fail _

/-! ### What bits append -/

variable {codes : Codes} {wanted : Nat} {data more : Bytes} {bits : List Bool}

/-- Behind the octets of `data`, some bits of a block append the octets of `more`: reading goes on
behind these. Each round of reading takes one bit at least. -/
def Appends (codes : Codes) (wanted : Nat) (data : Bytes) (bits : List Bool) (more : Bytes) :
    Prop :=
  ∀ rounds rest result,
    (∀ fuel, rounds ≤ fuel →
      (codedFrom codes wanted fuel (data ++ more).toArray).Reads rest result) →
    ∀ fuel, rounds + bits.length ≤ fuel →
      (codedFrom codes wanted fuel data.toArray).Reads (bits ++ rest) result

theorem appends_nil (data : Bytes) : Appends codes wanted data [] [] := by
  intro rounds rest result h fuel hfuel
  rw [List.append_nil] at h
  exact h fuel hfuel

theorem Appends.append {bits' : List Bool} {more' : Bytes}
    (h : Appends codes wanted data bits more)
    (h' : Appends codes wanted (data ++ more) bits' more') :
    Appends codes wanted data (bits ++ bits') (more ++ more') := by
  intro rounds rest result hrest fuel hfuel
  rw [List.append_assoc]
  rw [List.length_append] at hfuel
  rw [← List.append_assoc] at hrest
  exact h (rounds + bits'.length) _ result (h' rounds rest result hrest) fuel (by omega)

/-- A word for an octet that stands for itself. -/
theorem appends_octet {b : UInt8} (hroom : data.length < wanted) (hne : bits ≠ [])
    (hread : codes.literals.symbol.Reads bits b.toNat) :
    Appends codes wanted data bits [b] := by
  intro rounds rest result hrest fuel hfuel
  have hpos := List.length_pos_of_ne_nil hne
  obtain ⟨fuel, rfl⟩ : ∃ n, fuel = n + 1 := ⟨fuel - 1, by omega⟩
  have hroom : ¬ wanted ≤ data.toArray.size := by simpa using hroom
  have hliteral : b.toNat < endOfBlock := b.toNat_lt
  unfold codedFrom
  rw [if_neg hroom]
  refine hread.bind ?_
  rw [if_pos hliteral, UInt8.ofNat_toNat, List.push_toArray]
  exact hrest fuel (by omega)

/-- The words and the extra bits for a copy of octets that were read before. -/
theorem appends_copy {word extra distanceWord distanceExtra : List Bool}
    {symbol length distanceSymbol distance : Nat} (hpos : 0 < length)
    (hroom : data.length + length ≤ wanted) (hne : word ≠ [])
    (hword : codes.literals.symbol.Reads word (257 + symbol))
    (hlength : (amount lengthSymbols symbol).Reads extra length)
    (hdistanceWord : codes.distances.symbol.Reads distanceWord distanceSymbol)
    (hdistance : (amount distanceSymbols distanceSymbol).Reads distanceExtra distance)
    (hbehind : distance ≤ data.length)
    (hcopy : copy data.toArray distance length = (data ++ more).toArray) :
    Appends codes wanted data (word ++ (extra ++ (distanceWord ++ distanceExtra))) more := by
  intro rounds rest result hrest fuel hfuel
  have hwordLength := List.length_pos_of_ne_nil hne
  simp only [List.length_append] at hfuel
  obtain ⟨fuel, rfl⟩ : ∃ n, fuel = n + 1 := ⟨fuel - 1, by omega⟩
  have hsize : data.toArray.size = data.length := List.size_toArray
  have hsymbol : ¬ 257 + symbol < endOfBlock ∧ 257 + symbol ≠ endOfBlock := by
    unfold endOfBlock
    omega
  have hmin : min length (wanted - data.length) = length := by omega
  unfold codedFrom
  rw [hsize, if_neg (by omega)]
  simp only [List.append_assoc]
  refine hword.bind ?_
  rw [if_neg hsymbol.1, if_neg hsymbol.2, Nat.add_sub_cancel_left]
  refine hlength.bind (hdistanceWord.bind (hdistance.bind ?_))
  rw [if_neg (by omega), hmin, hcopy]
  exact hrest fuel (by omega)

/-- A block that appends all wanted octets is left behind their bits. -/
theorem Appends.reads_codedFrom (h : Appends codes more.length [] bits more) {fuel : Nat}
    (hfuel : bits.length < fuel) :
    (codedFrom codes more.length fuel #[]).Reads bits (more.toArray, false) := by
  have hdone (fuel : Nat) (hfuel : 1 ≤ fuel) :
      (codedFrom codes more.length fuel more.toArray).Reads [] (more.toArray, false) := by
    obtain ⟨fuel, rfl⟩ : ∃ n, fuel = n + 1 := ⟨fuel - 1, by omega⟩
    unfold codedFrom
    rw [if_pos (by simp)]
    exact reads_pure _
  have hreads := h 1 [] _ hdone fuel (by omega)
  rwa [List.append_nil] at hreads

end Deflate

end Png

end ClipExchange
