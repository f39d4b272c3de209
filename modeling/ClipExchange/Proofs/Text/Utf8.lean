import Mathlib
import ClipExchange.Text.Utf8

/-!
# Reading UTF-8 that was written

A character is written in one to four octets. The first one tells how many there are and, for
the longer forms, in which range the second one lies (`lead_three`, `lead_four`); every further
octet carries six bits of the character. Reading the octets of a character therefore takes
exactly that character off the front (`decodeFrom_utf8EncodeChar`), and a text is read back from
its octets.

## Main results

* `Utf8.decodeFrom_utf8EncodeChar`: reading one written character.
* `Utf8.decode_encode`: a text is read back.
* `Utf8.length_encode`: the octets of a text are counted by its size.
-/

namespace ClipExchange

namespace Utf8

open String (utf8EncodeChar)

/-! ### The octets of a text -/

theorem encode_eq_flatMap (s : String) : encode s = s.toList.flatMap utf8EncodeChar := by
  rw [encode, ← String.utf8Encode_toList, List.utf8Encode, List.toList_data_toByteArray]

@[simp]
theorem length_encode (s : String) : (encode s).length = s.utf8ByteSize := by
  rw [encode, Array.length_toList]
  rfl

/-! ### What a first octet announces -/

theorem lead_single {b : UInt8} (h : b.toNat < 0x80) : lead b = .single := by
  simp only [lead, UInt8.lt_iff_toNat_lt]
  exact if_pos h

theorem lead_two {b : UInt8} (h₁ : 0xC2 ≤ b.toNat) (h₂ : b.toNat < 0xE0) : lead b = .two := by
  simp only [lead, UInt8.lt_iff_toNat_lt, UInt8.reduceToNat]
  split_ifs <;> first | rfl | omega

theorem lead_three {b : UInt8} (h₁ : 0xE0 ≤ b.toNat) (h₂ : b.toNat < 0xF0) :
    lead b = .three (if b.toNat = 0xE0 then 0xA0 else 0x80)
      (if b.toNat = 0xED then 0x9F else 0xBF) := by
  simp only [lead, UInt8.lt_iff_toNat_lt, ← UInt8.toNat_inj, UInt8.reduceToNat]
  split_ifs <;> first | rfl | omega

theorem lead_four {b : UInt8} (h₁ : 0xF0 ≤ b.toNat) (h₂ : b.toNat ≤ 0xF4) :
    lead b = .four (if b.toNat = 0xF0 then 0x90 else 0x80)
      (if b.toNat = 0xF4 then 0x8F else 0xBF) := by
  simp only [lead, UInt8.lt_iff_toNat_lt, ← UInt8.toNat_inj, UInt8.reduceToNat]
  split_ifs <;> first | rfl | omega

theorem within_eq_true_iff {low high b : UInt8} :
    within low high b = true ↔ low.toNat ≤ b.toNat ∧ b.toNat ≤ high.toNat := by
  simp [within, UInt8.le_iff_toNat_le]

/-! ### One written character -/

/-- The octet that carries the lowest six bits of a number. -/
private def tail (n : Nat) : UInt8 :=
  UInt8.ofNat (n % 64 + 0x80)

private theorem toNat_tail (n : Nat) : (tail n).toNat = n % 64 + 0x80 := by
  rw [tail, UInt8.toNat_ofNat']
  omega

private theorem isContinuation_tail (n : Nat) : isContinuation (tail n) = true := by
  rw [isContinuation, within_eq_true_iff, toNat_tail]
  simp only [UInt8.reduceToNat]
  omega

variable {n : Nat} (offset : Nat) (done : List Char) (rest : Bytes)

private theorem decodeFrom_one (h : n < 0x80) :
    decodeFrom offset done (UInt8.ofNat n :: rest) =
      decodeFrom (offset + 1) (Char.ofNat n :: done) rest := by
  have hn : (UInt8.ofNat n).toNat = n := by
    rw [UInt8.toNat_ofNat']
    omega
  rw [decodeFrom.eq_def]
  simp only [lead_single (hn.trans_lt h), hn]

private theorem decodeFrom_two (h₁ : 0x80 ≤ n) (h₂ : n < 0x800) :
    decodeFrom offset done (UInt8.ofNat (n / 64 % 32 + 0xC0) :: tail n :: rest) =
      decodeFrom (offset + 2) (Char.ofNat n :: done) rest := by
  have ha : (UInt8.ofNat (n / 64 % 32 + 0xC0)).toNat = n / 64 + 0xC0 := by
    rw [UInt8.toNat_ofNat']
    omega
  have hlead : lead (UInt8.ofNat (n / 64 % 32 + 0xC0)) = .two := lead_two (by omega) (by omega)
  have hchar : char₂ (UInt8.ofNat (n / 64 % 32 + 0xC0)) (tail n) = Char.ofNat n := by
    rw [char₂, ha, toNat_tail]
    exact congrArg Char.ofNat (by omega)
  rw [decodeFrom.eq_def]
  simp only [hlead, isContinuation_tail, hchar, if_true]

private theorem decodeFrom_three (h₁ : 0x800 ≤ n) (h₂ : n < 0x10000)
    (hscalar : n < 0xD800 ∨ 0xDFFF < n) :
    decodeFrom offset done
        (UInt8.ofNat (n / 4096 % 16 + 0xE0) :: tail (n / 64) :: tail n :: rest) =
      decodeFrom (offset + 3) (Char.ofNat n :: done) rest := by
  have ha : (UInt8.ofNat (n / 4096 % 16 + 0xE0)).toNat = n / 4096 + 0xE0 := by
    rw [UInt8.toNat_ofNat']
    omega
  have hlead := lead_three (b := UInt8.ofNat (n / 4096 % 16 + 0xE0)) (by omega) (by omega)
  have hwithin : within (if (UInt8.ofNat (n / 4096 % 16 + 0xE0)).toNat = 0xE0 then 0xA0 else 0x80)
      (if (UInt8.ofNat (n / 4096 % 16 + 0xE0)).toNat = 0xED then 0x9F else 0xBF)
      (tail (n / 64)) = true := by
    rw [within_eq_true_iff, ha, toNat_tail]
    split_ifs <;> simp only [UInt8.reduceToNat] <;> omega
  have hchar : char₃ (UInt8.ofNat (n / 4096 % 16 + 0xE0)) (tail (n / 64)) (tail n) =
      Char.ofNat n := by
    rw [char₃, ha, toNat_tail, toNat_tail]
    exact congrArg Char.ofNat (by omega)
  rw [decodeFrom.eq_def]
  simp only [hlead, hwithin, isContinuation_tail, hchar, if_true]

private theorem decodeFrom_four (h₁ : 0x10000 ≤ n) (h₂ : n < 0x110000) :
    decodeFrom offset done
        (UInt8.ofNat (n / 262144 % 8 + 0xF0) :: tail (n / 4096) :: tail (n / 64) :: tail n ::
          rest) =
      decodeFrom (offset + 4) (Char.ofNat n :: done) rest := by
  have ha : (UInt8.ofNat (n / 262144 % 8 + 0xF0)).toNat = n / 262144 + 0xF0 := by
    rw [UInt8.toNat_ofNat']
    omega
  have hlead := lead_four (b := UInt8.ofNat (n / 262144 % 8 + 0xF0)) (by omega) (by omega)
  have hwithin : within (if (UInt8.ofNat (n / 262144 % 8 + 0xF0)).toNat = 0xF0 then 0x90 else 0x80)
      (if (UInt8.ofNat (n / 262144 % 8 + 0xF0)).toNat = 0xF4 then 0x8F else 0xBF)
      (tail (n / 4096)) = true := by
    rw [within_eq_true_iff, ha, toNat_tail]
    split_ifs <;> simp only [UInt8.reduceToNat] <;> omega
  have hchar : char₄ (UInt8.ofNat (n / 262144 % 8 + 0xF0)) (tail (n / 4096)) (tail (n / 64))
      (tail n) = Char.ofNat n := by
    rw [char₄, ha, toNat_tail, toNat_tail, toNat_tail]
    exact congrArg Char.ofNat (by omega)
  rw [decodeFrom.eq_def]
  simp only [hlead, hwithin, isContinuation_tail, hchar, if_true]

/-- Reading takes a written character off the front, whatever follows it. -/
theorem decodeFrom_utf8EncodeChar (c : Char) :
    decodeFrom offset done (utf8EncodeChar c ++ rest) =
      decodeFrom (offset + (utf8EncodeChar c).length) (c :: done) rest := by
  have hscalar : c.val.toNat < 0xD800 ∨ 0xDFFF < c.val.toNat ∧ c.val.toNat < 0x110000 := c.valid
  have hc : Char.ofNat c.val.toNat = c := Char.ofNat_toNat c
  -- The four widths are those of the definition; `tail` is the form of all but the first octet.
  simp only [utf8EncodeChar]
  split_ifs with h₁ h₂ h₃
  · have h := decodeFrom_one (n := c.val.toNat) offset done rest (by omega)
    rwa [hc] at h
  · have h := decodeFrom_two (n := c.val.toNat) offset done rest (by omega) (by omega)
    rwa [hc] at h
  · have h := decodeFrom_three (n := c.val.toNat) offset done rest (by omega) (by omega) (by omega)
    rwa [hc] at h
  · have h := decodeFrom_four (n := c.val.toNat) offset done rest (by omega) (by omega)
    rwa [hc] at h

theorem decodeFrom_flatMap (cs : List Char) :
    decodeFrom offset done (cs.flatMap utf8EncodeChar) = .ok (done.reverse ++ cs) := by
  induction cs generalizing offset done with
  | nil => simp [decodeFrom]
  | cons c cs ih => simp [decodeFrom_utf8EncodeChar, ih]

/-- **A text is read back from its octets.** -/
theorem decode_encode (s : String) : decode (encode s) = .ok s := by
  simp [decode, encode_eq_flatMap, decodeFrom_flatMap, Except.map]

end Utf8

end ClipExchange
