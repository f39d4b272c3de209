import Mathlib
import ClipExchange.Bytes

/-!
# Numbers in octets, and octets in pieces

A number that fits its width is read back as it was written, with either end first. Octets that are
cut into pieces are the pieces one behind the other.

## Main statements

* `Bytes.ofLittleEndian_littleEndian`, `Bytes.ofBigEndian_bigEndian`: reading what was written.
* `Bytes.littleEndian_ofLittleEndian`, `Bytes.bigEndian_ofBigEndian`: writing what was read.
* `Bytes.ofLittleEndian_lt`: octets stand for a number below the power of 256 of their count.
* `Bytes.flatten_cut`: the pieces of octets.
-/

namespace ClipExchange

namespace Bytes

/-- A number that fits the width is read back. -/
theorem ofLittleEndian_littleEndian {width n : Nat} (h : n < 256 ^ width) :
    ofLittleEndian (littleEndian width n) = n := by
  induction width generalizing n with
  | zero => simp [littleEndian, ofLittleEndian] at *; omega
  | succ width ih =>
    have hdiv : n / 256 < 256 ^ width := by
      rw [Nat.pow_succ] at h
      omega
    simp only [littleEndian, ofLittleEndian, ih hdiv, UInt8.toNat_ofNat']
    omega

/-- A number that fits the width is read back from its big-endian octets. -/
theorem ofBigEndian_bigEndian {width n : Nat} (h : n < 256 ^ width) :
    ofBigEndian (bigEndian width n) = n := by
  simp [ofBigEndian, bigEndian, ofLittleEndian_littleEndian h]

/-- The number that octets stand for is written in these octets. -/
theorem littleEndian_ofLittleEndian (bytes : Bytes) :
    littleEndian bytes.length (ofLittleEndian bytes) = bytes := by
  induction bytes with
  | nil => rfl
  | cons b rest ih =>
    have hb := b.toNat_lt
    have hlow : UInt8.ofNat (b.toNat + 256 * ofLittleEndian rest) = b := by
      rw [← UInt8.toNat_inj, UInt8.toNat_ofNat']
      omega
    have hhigh : (b.toNat + 256 * ofLittleEndian rest) / 256 = ofLittleEndian rest := by
      omega
    simp only [ofLittleEndian, List.length_cons, littleEndian, hlow, hhigh, ih]

/-- The same with the most significant octet first. -/
theorem bigEndian_ofBigEndian (bytes : Bytes) :
    bigEndian bytes.length (ofBigEndian bytes) = bytes := by
  have hreverse := littleEndian_ofLittleEndian bytes.reverse
  rw [List.length_reverse] at hreverse
  rw [bigEndian, ofBigEndian, hreverse, List.reverse_reverse]

/-- Octets stand for a number below the power of 256 of their count. -/
theorem ofLittleEndian_lt (bytes : Bytes) : ofLittleEndian bytes < 256 ^ bytes.length := by
  induction bytes with
  | nil => simp [ofLittleEndian]
  | cons b rest ih =>
    have hb := b.toNat_lt
    simp only [ofLittleEndian, List.length_cons, Nat.pow_succ]
    omega

/-! ### Pieces -/

variable {size : Nat} {data : Bytes}

theorem flatten_cut (size : Nat) (data : Bytes) : (cut size data).flatten = data := by
  fun_induction cut size data with
  | case1 data => exact List.flatten_singleton
  | case2 data _ ih => rw [List.flatten_cons, ih, List.take_append_drop]

theorem cut_ne_nil (size : Nat) (data : Bytes) : cut size data ≠ [] := by
  unfold cut
  split_ifs
  · exact List.cons_ne_nil _ _
  · exact List.cons_ne_nil _ _

theorem length_le_of_mem_cut (hsize : 0 < size) : ∀ piece ∈ cut size data, piece.length ≤ size := by
  fun_induction cut size data with
  | case1 data h =>
    refine List.forall_mem_singleton.2 ?_
    simp only [List.isEmpty_iff, List.drop_eq_nil_iff] at h
    omega
  | case2 data _ ih => exact List.forall_mem_cons.2 ⟨List.length_take_le _ _, ih⟩

theorem ne_nil_of_mem_cut (hdata : data ≠ []) : ∀ piece ∈ cut size data, piece ≠ [] := by
  fun_induction cut size data with
  | case1 data => exact List.forall_mem_singleton.2 hdata
  | case2 data h ih =>
    simp only [not_or, List.isEmpty_iff] at h
    refine List.forall_mem_cons.2 ⟨fun htake => ?_, ih h.2⟩
    rcases List.take_eq_nil_iff.1 htake with hzero | hnil
    · exact h.1 hzero
    · exact hdata hnil

/-- Pieces that are not empty are no more than their octets. -/
theorem length_le_length_flatten {pieces : List Bytes} (h : ∀ piece ∈ pieces, piece ≠ []) :
    pieces.length ≤ pieces.flatten.length := by
  induction pieces with
  | nil => exact Nat.zero_le _
  | cons piece pieces ih =>
    obtain ⟨hpiece, hpieces⟩ := List.forall_mem_cons.1 h
    have hlength := List.length_pos_of_ne_nil hpiece
    have hrest := ih hpieces
    rw [List.flatten_cons, List.length_append, List.length_cons]
    omega

end Bytes

end ClipExchange
