import Mathlib
import ClipExchange.Proofs.Text.Utf8

/-!
# UTF-8 has one form for each text

Octets that are read as a text are the octets in which that text is written. A character read
from one to four octets is written in just these, because the range of the second octet leaves
out the numbers for which fewer octets would do. So reading a text and writing it are inverse to
each other.

## Main results

* `Utf8.lead_cases`: the range of a first octet, told by what it announces.
* `Utf8.utf8EncodeChar_char₂`, `Utf8.utf8EncodeChar_char₃`, `Utf8.utf8EncodeChar_char₄`: writing
  a character that was read.
* `Utf8.decode_eq_ok_iff`: what is read as a text is what is written for it.
-/

namespace ClipExchange

namespace Utf8

open String (utf8EncodeChar)

/-! ### The octets that a first octet announces -/

variable {a b c d low high : UInt8}

/-- The octets that begin no sequence. -/
theorem lead_none (h : 0x80 ≤ a.toNat ∧ a.toNat < 0xC2 ∨ 0xF4 < a.toNat) : lead a = .none := by
  simp only [lead, UInt8.lt_iff_toNat_lt, ← UInt8.toNat_inj, UInt8.reduceToNat]
  rcases h with h | h
  · rw [if_neg (by omega), if_pos (by omega)]
  · iterate 10 rw [if_neg (by omega)]

/-- What an octet announces tells in which range it lies. -/
theorem lead_cases (a : UInt8) :
    lead a = .single ∧ a.toNat < 0x80 ∨
      lead a = .two ∧ 0xC2 ≤ a.toNat ∧ a.toNat < 0xE0 ∨
      lead a = .three (if a.toNat = 0xE0 then 0xA0 else 0x80)
        (if a.toNat = 0xED then 0x9F else 0xBF) ∧ 0xE0 ≤ a.toNat ∧ a.toNat < 0xF0 ∨
      lead a = .four (if a.toNat = 0xF0 then 0x90 else 0x80)
        (if a.toNat = 0xF4 then 0x8F else 0xBF) ∧ 0xF0 ≤ a.toNat ∧ a.toNat ≤ 0xF4 ∨
      lead a = .none := by
  by_cases hsingle : a.toNat < 0x80
  · exact .inl ⟨lead_single hsingle, hsingle⟩
  by_cases htwo : 0xC2 ≤ a.toNat ∧ a.toNat < 0xE0
  · exact .inr (.inl ⟨lead_two htwo.1 htwo.2, htwo⟩)
  by_cases hthree : 0xE0 ≤ a.toNat ∧ a.toNat < 0xF0
  · exact .inr (.inr (.inl ⟨lead_three hthree.1 hthree.2, hthree⟩))
  by_cases hfour : 0xF0 ≤ a.toNat ∧ a.toNat ≤ 0xF4
  · exact .inr (.inr (.inr (.inl ⟨lead_four hfour.1 hfour.2, hfour⟩)))
  · exact .inr (.inr (.inr (.inr (lead_none (by omega)))))

theorem lt_of_lead_single (h : lead a = .single) : a.toNat < 0x80 := by
  rcases lead_cases a with ⟨-, ha⟩ | ⟨h', -⟩ | ⟨h', -⟩ | ⟨h', -⟩ | h'
  · exact ha
  all_goals cases h'.symm.trans h

theorem range_of_lead_two (h : lead a = .two) : 0xC2 ≤ a.toNat ∧ a.toNat < 0xE0 := by
  rcases lead_cases a with ⟨h', -⟩ | ⟨-, ha⟩ | ⟨h', -⟩ | ⟨h', -⟩ | h'
  case inr.inl => exact ha
  all_goals cases h'.symm.trans h

/-- Three octets stand for a number from `0x800` on that is no surrogate. -/
theorem range_of_lead_three (h : lead a = .three low high) (hb : within low high b = true) :
    0xE0 ≤ a.toNat ∧ a.toNat < 0xF0 ∧ 0x80 ≤ b.toNat ∧ b.toNat ≤ 0xBF ∧
      (a.toNat = 0xE0 → 0xA0 ≤ b.toNat) ∧ (a.toNat = 0xED → b.toNat ≤ 0x9F) := by
  rw [within_eq_true_iff] at hb
  rcases lead_cases a with ⟨h', -⟩ | ⟨h', -⟩ | ⟨h', ha⟩ | ⟨h', -⟩ | h'
  case inr.inr.inl =>
    obtain ⟨rfl, rfl⟩ := Lead.three.inj (h'.symm.trans h)
    split_ifs at hb <;> simp only [UInt8.reduceToNat] at hb <;> omega
  all_goals cases h'.symm.trans h

/-- Four octets stand for a number from `0x10000` on, up to the last character. -/
theorem range_of_lead_four (h : lead a = .four low high) (hb : within low high b = true) :
    0xF0 ≤ a.toNat ∧ a.toNat ≤ 0xF4 ∧ 0x80 ≤ b.toNat ∧ b.toNat ≤ 0xBF ∧
      (a.toNat = 0xF0 → 0x90 ≤ b.toNat) ∧ (a.toNat = 0xF4 → b.toNat ≤ 0x8F) := by
  rw [within_eq_true_iff] at hb
  rcases lead_cases a with ⟨h', -⟩ | ⟨h', -⟩ | ⟨h', -⟩ | ⟨h', ha⟩ | h'
  case inr.inr.inr.inl =>
    obtain ⟨rfl, rfl⟩ := Lead.four.inj (h'.symm.trans h)
    split_ifs at hb <;> simp only [UInt8.reduceToNat] at hb <;> omega
  all_goals cases h'.symm.trans h

theorem range_of_isContinuation (h : isContinuation b = true) :
    0x80 ≤ b.toNat ∧ b.toNat ≤ 0xBF := by
  rw [isContinuation, within_eq_true_iff] at h
  exact h

/-! ### Writing a character that was read -/

theorem toNat_val_ofNat {n : Nat} (h : n.isValidChar) : (Char.ofNat n).val.toNat = n := by
  have hn := Char.toNat_ofNat n
  rwa [if_pos h] at hn

/-- A number below 256 is that of an octet. -/
theorem ofNat_eq {n : Nat} (h : n = a.toNat) : UInt8.ofNat n = a := by
  rw [h, UInt8.ofNat_toNat]

theorem utf8EncodeChar_char₁ (ha : lead a = .single) :
    utf8EncodeChar (Char.ofNat a.toNat) = [a] := by
  have hrange := lt_of_lead_single ha
  have hn : (Char.ofNat a.toNat).val.toNat = a.toNat := toNat_val_ofNat (Or.inl (by omega))
  simp only [utf8EncodeChar, hn]
  rw [if_pos (by omega), ofNat_eq rfl]

theorem utf8EncodeChar_char₂ (ha : lead a = .two) (hb : isContinuation b = true) :
    utf8EncodeChar (char₂ a b) = [a, b] := by
  have hrange := range_of_lead_two ha
  have hrange₂ := range_of_isContinuation hb
  have hn := toNat_val_ofNat (n := a.toNat % 32 * 64 + b.toNat % 64) (Or.inl (by omega))
  simp only [utf8EncodeChar, char₂, hn]
  rw [if_neg (by omega), if_pos (by omega), ofNat_eq (a := a) (by omega),
    ofNat_eq (a := b) (by omega)]

theorem utf8EncodeChar_char₃ (ha : lead a = .three low high) (hb : within low high b = true)
    (hc : isContinuation c = true) : utf8EncodeChar (char₃ a b c) = [a, b, c] := by
  have hrange := range_of_lead_three ha hb
  have hrange₃ := range_of_isContinuation hc
  have hn := toNat_val_ofNat (n := a.toNat % 16 * 4096 + b.toNat % 64 * 64 + c.toNat % 64)
    (by unfold Nat.isValidChar; omega)
  simp only [utf8EncodeChar, char₃, hn]
  rw [if_neg (by omega), if_neg (by omega), if_pos (by omega), ofNat_eq (a := a) (by omega),
    ofNat_eq (a := b) (by omega), ofNat_eq (a := c) (by omega)]

theorem utf8EncodeChar_char₄ (ha : lead a = .four low high) (hb : within low high b = true)
    (hc : isContinuation c = true) (hd : isContinuation d = true) :
    utf8EncodeChar (char₄ a b c d) = [a, b, c, d] := by
  have hrange := range_of_lead_four ha hb
  have hrange₃ := range_of_isContinuation hc
  have hrange₄ := range_of_isContinuation hd
  have hn := toNat_val_ofNat
    (n := a.toNat % 8 * 262144 + b.toNat % 64 * 4096 + c.toNat % 64 * 64 + d.toNat % 64)
    (by unfold Nat.isValidChar; omega)
  simp only [utf8EncodeChar, char₄, hn]
  rw [if_neg (by omega), if_neg (by omega), if_neg (by omega), ofNat_eq (a := a) (by omega),
    ofNat_eq (a := b) (by omega), ofNat_eq (a := c) (by omega), ofNat_eq (a := d) (by omega)]

/-! ### Writing a text that was read -/

/-- The octets that are read are those of the characters that they gave. -/
theorem flatMap_of_decodeFrom {offset : Nat} {done cs : List Char} {bytes : Bytes}
    (h : decodeFrom offset done bytes = .ok cs) :
    cs.flatMap utf8EncodeChar = done.reverse.flatMap utf8EncodeChar ++ bytes := by
  fun_induction decodeFrom offset done bytes with
  | case1 offset done =>
    obtain rfl := Except.ok.inj h
    rw [List.append_nil]
  | case3 offset done a rest ha ih => simp [ih h, utf8EncodeChar_char₁ ha]
  | case5 offset done a ha b rest hb ih => simp [ih h, utf8EncodeChar_char₂ ha hb]
  | case9 offset done a low high ha b hb c rest hc ih =>
    simp [ih h, utf8EncodeChar_char₃ ha hb hc]
  | case15 offset done a low high ha b hb c hc d rest hd ih =>
    simp [ih h, utf8EncodeChar_char₄ ha hb hc hd]
  -- In every other case the octets are refused.
  | _ => cases h

/-- **What is read as a text is what is written for it.** -/
theorem decode_eq_ok_iff {bytes : Bytes} {s : String} :
    decode bytes = .ok s ↔ bytes = encode s := by
  refine ⟨fun h => ?_, fun h => h ▸ decode_encode s⟩
  unfold decode at h
  cases hcs : decodeFrom 0 [] bytes with
  | error fault =>
    rw [hcs] at h
    cases h
  | ok cs =>
    rw [hcs] at h
    obtain rfl := Except.ok.inj h
    simpa [encode_eq_flatMap] using (flatMap_of_decodeFrom hcs).symm

theorem decode?_eq_some_iff {bytes : Bytes} {s : String} :
    decode? bytes = some s ↔ bytes = encode s := by
  rw [← decode_eq_ok_iff, decode?]
  cases decode bytes with
  | error fault => exact iff_of_false nofun nofun
  | ok text =>
    exact ⟨fun h => congrArg _ (Option.some.inj h), fun h => congrArg _ (Except.ok.inj h)⟩

end Utf8

end ClipExchange
