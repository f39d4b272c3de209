import Mathlib
import ClipExchange.Proofs.Text.Canonical

/-!
# Where octets stop being UTF-8

Octets that are not at their end begin with a character, or else reading stops at them. It stops
for want of octets if they are the beginning of a character that lacks its end, and otherwise at an
octet that is wrong whatever follows (`Utf8.front`). So reading takes as many characters off the
front as there are, and a refusal tells how far they reach and whether more octets could mend it.

## Main definitions

* `Utf8.IsText`: octets that are the UTF-8 form of some characters.
* `Utf8.IsCutOff`: the beginning of a character that lacks its end.
* `Utf8.Fault.Marks`: where some octets stop being a text, and whether they merely end.

## Main results

* `Utf8.exists_chars`: the characters that octets begin with.
* `Utf8.exists_fault`: where octets that are no text are refused.
-/

namespace ClipExchange

namespace Utf8

open String (utf8EncodeChar)

/-- Octets are the UTF-8 form of some characters. -/
def IsText (bytes : Bytes) : Prop :=
  ∃ cs : List Char, bytes = cs.flatMap utf8EncodeChar

/-- Octets are the beginning of a character, and lack its end. -/
def IsCutOff (bytes : Bytes) : Prop :=
  ∃ c : Char, bytes <+: utf8EncodeChar c ∧ bytes ≠ utf8EncodeChar c

/-- A fault marks where some octets stop being a text: those before it are the longest beginning
that is one, and no octet is blamed exactly if those behind it are a character that is cut off. -/
structure Fault.Marks (fault : Fault) (bytes : Bytes) : Prop where
  isGreatest_validUpTo : IsGreatest {n | n ≤ bytes.length ∧ IsText (bytes.take n)} fault.validUpTo
  faultLength_eq_none_iff : fault.faultLength = none ↔ IsCutOff (bytes.drop fault.validUpTo)

variable {a b c d low high : UInt8} {bytes rest : Bytes}

theorem isText_iff : IsText bytes ↔ ∃ s, bytes = encode s := by
  constructor
  · rintro ⟨cs, rfl⟩
    exact ⟨String.ofList cs, by rw [encode_eq_flatMap, String.toList_ofList]⟩
  · rintro ⟨s, rfl⟩
    exact ⟨s.toList, encode_eq_flatMap s⟩

theorem isCutOff_of_append {c : Char} (h : utf8EncodeChar c = bytes ++ rest) (hrest : rest ≠ []) :
    IsCutOff bytes := by
  refine ⟨c, h ▸ List.prefix_append bytes rest, fun hbytes => hrest ?_⟩
  rwa [← hbytes, eq_comm, List.append_right_eq_self] at h

/-! ### The front of some octets -/

/-- Reading stops at some octets, and blames the given number of them. -/
def StopsAt (bytes : Bytes) (faultLength : Option Nat) : Prop :=
  ∀ offset done, decodeFrom offset done bytes = .error ⟨offset, faultLength⟩

/-- What stands at the front of octets that do not end there. -/
inductive Front : Bytes → Prop
  | char (c : Char) (rest : Bytes) : Front (utf8EncodeChar c ++ rest)
  /-- The octets end within a character. -/
  | cutOff {bytes : Bytes} (hcut : IsCutOff bytes) (hstops : StopsAt bytes none) : Front bytes
  /-- No octets behind these could mend them. -/
  | wrong {bytes : Bytes} (count : Nat) (hstops : ∀ more, StopsAt (bytes ++ more) (some count)) :
    Front bytes

/-- The least octet that may come second is one that may. -/
theorem within_low_of_lead_three (h : lead a = .three low high) : within low high low = true := by
  rw [within_eq_true_iff]
  rcases lead_cases a with ⟨h', -⟩ | ⟨h', -⟩ | ⟨h', -⟩ | ⟨h', -⟩ | h'
  case inr.inr.inl =>
    obtain ⟨rfl, rfl⟩ := Lead.three.inj (h'.symm.trans h)
    split_ifs <;> simp only [UInt8.reduceToNat] <;> omega
  all_goals cases h'.symm.trans h

theorem within_low_of_lead_four (h : lead a = .four low high) : within low high low = true := by
  rw [within_eq_true_iff]
  rcases lead_cases a with ⟨h', -⟩ | ⟨h', -⟩ | ⟨h', -⟩ | ⟨h', -⟩ | h'
  case inr.inr.inr.inl =>
    obtain ⟨rfl, rfl⟩ := Lead.four.inj (h'.symm.trans h)
    split_ifs <;> simp only [UInt8.reduceToNat] <;> omega
  all_goals cases h'.symm.trans h

/-- The least octet that continues a sequence. -/
theorem isContinuation_least : isContinuation 0x80 = true := by
  decide

/-- The octets of a character without its end. -/
theorem Front.ofAppend {c : Char} (bytes : Bytes) (hchar : utf8EncodeChar c = bytes ++ rest)
    (hrest : rest ≠ []) (hstops : StopsAt bytes none) : Front bytes :=
  .cutOff (isCutOff_of_append hchar hrest) hstops

theorem front_of_lead_single (ha : lead a = .single) (rest : Bytes) : Front (a :: rest) := by
  have hfront := Front.char (Char.ofNat a.toNat) rest
  rwa [utf8EncodeChar_char₁ ha] at hfront

theorem front_of_lead_none (ha : lead a = .none) (rest : Bytes) : Front (a :: rest) := by
  refine .wrong 1 fun more offset done => ?_
  rw [List.cons_append, decodeFrom.eq_def]
  simp only [ha]

theorem front_of_lead_two (ha : lead a = .two) (rest : Bytes) : Front (a :: rest) := by
  rcases rest with _ | ⟨b, rest⟩
  · have hchar := utf8EncodeChar_char₂ ha isContinuation_least
    refine .ofAppend [a] hchar (List.cons_ne_nil _ _) fun offset done => ?_
    simp only [decodeFrom, ha]
  by_cases hb : isContinuation b = true
  · have hfront := Front.char (char₂ a b) rest
    rwa [utf8EncodeChar_char₂ ha hb] at hfront
  · refine .wrong 1 fun more offset done => ?_
    rw [List.cons_append, List.cons_append, decodeFrom.eq_def]
    simp only [ha, if_neg hb]

theorem front_of_lead_three (ha : lead a = .three low high) (rest : Bytes) :
    Front (a :: rest) := by
  rcases rest with _ | ⟨b, rest⟩
  · have hchar := utf8EncodeChar_char₃ ha (within_low_of_lead_three ha) isContinuation_least
    refine .ofAppend [a] hchar (List.cons_ne_nil _ _) fun offset done => ?_
    simp only [decodeFrom, ha]
  by_cases hb : within low high b = true
  · rcases rest with _ | ⟨c, rest⟩
    · have hchar := utf8EncodeChar_char₃ ha hb isContinuation_least
      refine .ofAppend [a, b] hchar (List.cons_ne_nil _ _) fun offset done => ?_
      simp only [decodeFrom, ha, if_pos hb]
    by_cases hc : isContinuation c = true
    · have hfront := Front.char (char₃ a b c) rest
      rwa [utf8EncodeChar_char₃ ha hb hc] at hfront
    · refine .wrong 2 fun more offset done => ?_
      rw [List.cons_append, List.cons_append, List.cons_append, decodeFrom.eq_def]
      simp only [ha, if_pos hb, if_neg hc]
  · refine .wrong 1 fun more offset done => ?_
    rw [List.cons_append, List.cons_append, decodeFrom.eq_def]
    simp only [ha, if_neg hb]

theorem front_of_lead_four (ha : lead a = .four low high) (rest : Bytes) :
    Front (a :: rest) := by
  rcases rest with _ | ⟨b, rest⟩
  · have hchar := utf8EncodeChar_char₄ ha (within_low_of_lead_four ha) isContinuation_least
      isContinuation_least
    refine .ofAppend [a] hchar (List.cons_ne_nil _ _) fun offset done => ?_
    simp only [decodeFrom, ha]
  by_cases hb : within low high b = true
  · rcases rest with _ | ⟨c, rest⟩
    · have hchar := utf8EncodeChar_char₄ ha hb isContinuation_least isContinuation_least
      refine .ofAppend [a, b] hchar (List.cons_ne_nil _ _) fun offset done => ?_
      simp only [decodeFrom, ha, if_pos hb]
    by_cases hc : isContinuation c = true
    · rcases rest with _ | ⟨d, rest⟩
      · have hchar := utf8EncodeChar_char₄ ha hb hc isContinuation_least
        refine .ofAppend [a, b, c] hchar (List.cons_ne_nil _ _) fun offset done => ?_
        simp only [decodeFrom, ha, if_pos hb, if_pos hc]
      by_cases hd : isContinuation d = true
      · have hfront := Front.char (char₄ a b c d) rest
        rwa [utf8EncodeChar_char₄ ha hb hc hd] at hfront
      · refine .wrong 3 fun more offset done => ?_
        rw [List.cons_append, List.cons_append, List.cons_append, List.cons_append,
          decodeFrom.eq_def]
        simp only [ha, if_pos hb, if_pos hc, if_neg hd]
    · refine .wrong 2 fun more offset done => ?_
      rw [List.cons_append, List.cons_append, List.cons_append, decodeFrom.eq_def]
      simp only [ha, if_pos hb, if_neg hc]
  · refine .wrong 1 fun more offset done => ?_
    rw [List.cons_append, List.cons_append, decodeFrom.eq_def]
    simp only [ha, if_neg hb]

/-- Octets begin with a character, or reading stops at them. -/
theorem front (a : UInt8) (rest : Bytes) : Front (a :: rest) := by
  rcases lead_cases a with ⟨ha, -⟩ | ⟨ha, -⟩ | ⟨ha, -⟩ | ⟨ha, -⟩ | ha
  · exact front_of_lead_single ha rest
  · exact front_of_lead_two ha rest
  · exact front_of_lead_three ha rest
  · exact front_of_lead_four ha rest
  · exact front_of_lead_none ha rest

/-! ### The characters at the front -/

/-- Characters are taken off the front. -/
theorem decodeFrom_flatMap_append (offset : Nat) (done cs : List Char) (rest : Bytes) :
    decodeFrom offset done (cs.flatMap utf8EncodeChar ++ rest) =
      decodeFrom (offset + (cs.flatMap utf8EncodeChar).length) (cs.reverse ++ done) rest := by
  induction cs generalizing offset done with
  | nil => rfl
  | cons c cs ih =>
    rw [List.flatMap_cons, List.append_assoc, decodeFrom_utf8EncodeChar, ih, List.length_append,
      Nat.add_assoc, List.reverse_cons, List.append_assoc, List.singleton_append]

/-- Reading does not stop for good at the beginning of a character. -/
theorem not_isCutOff {count : Nat} (h : ∀ more, StopsAt (bytes ++ more) (some count)) :
    ¬ IsCutOff bytes := by
  rintro ⟨c, ⟨more, hmore⟩, -⟩
  have hread := decodeFrom_flatMap 0 [] [c]
  rw [List.flatMap_singleton, ← hmore, h more] at hread
  cases hread

/-- Octets are characters up to their end, or up to a place where reading stops. -/
theorem exists_chars (bytes : Bytes) : ∃ (cs : List Char) (rest : Bytes),
    bytes = cs.flatMap utf8EncodeChar ++ rest ∧
      (rest = [] ∨ ∃ faultLength, StopsAt rest faultLength ∧
        (faultLength = none ↔ IsCutOff rest)) := by
  induction hlength : bytes.length using Nat.strong_induction_on generalizing bytes with
  | _ n ih =>
    cases bytes with
    | nil => exact ⟨[], [], rfl, .inl rfl⟩
    | cons a rest =>
      generalize hbytes : a :: rest = bytes at hlength ⊢
      cases hbytes ▸ front a rest with
      | char c left =>
        have hpos := List.length_pos_of_ne_nil (String.utf8EncodeChar_ne_nil (c := c))
        rw [List.length_append] at hlength
        obtain ⟨cs, stop, rfl, hstop⟩ := ih left.length (by omega) left rfl
        refine ⟨c :: cs, stop, ?_, hstop⟩
        rw [List.flatMap_cons, List.append_assoc]
      | cutOff hcut hstops =>
        exact ⟨[], bytes, rfl, .inr ⟨none, hstops, iff_of_true rfl hcut⟩⟩
      | wrong count hstops =>
        refine ⟨[], bytes, rfl, .inr ⟨some count, ?_, iff_of_false nofun (not_isCutOff hstops)⟩⟩
        simpa using hstops []

/-! ### Octets that are no text -/

theorem decode_of_append (cs : List Char) {faultLength : Option Nat}
    (hstops : StopsAt rest faultLength) :
    decode (cs.flatMap utf8EncodeChar ++ rest) =
      .error ⟨(cs.flatMap utf8EncodeChar).length, faultLength⟩ := by
  rw [decode, decodeFrom_flatMap_append, Nat.zero_add, hstops]
  rfl

/-- Characters at the front of octets that are refused do not reach beyond the fault. -/
theorem length_le_validUpTo {fault : Fault} {cs : List Char}
    (h : decode (cs.flatMap utf8EncodeChar ++ rest) = .error fault) :
    (cs.flatMap utf8EncodeChar).length ≤ fault.validUpTo := by
  obtain ⟨more, stop, rfl, rfl | ⟨faultLength, hstops, -⟩⟩ := exists_chars rest
  · rw [List.append_nil, ← List.flatMap_append] at h
    have hread := decode_encode (String.ofList (cs ++ more))
    rw [encode_eq_flatMap, String.toList_ofList, h] at hread
    cases hread
  · rw [← List.append_assoc, ← List.flatMap_append, decode_of_append _ hstops] at h
    obtain rfl := Except.error.inj h
    rw [List.flatMap_append, List.length_append]
    exact Nat.le_add_right _ _

/-- Octets that are no text are refused where they stop being one. -/
theorem exists_fault (h : ¬ IsText bytes) : ∃ fault, decode bytes = .error fault ∧
    fault.Marks bytes := by
  obtain ⟨cs, rest, rfl, rfl | ⟨faultLength, hstops, hcut⟩⟩ := exists_chars bytes
  · exact absurd ⟨cs, List.append_nil _⟩ h
  have hdecode := decode_of_append cs hstops
  refine ⟨_, hdecode, ⟨⟨?_, ?_⟩, ?_⟩, ?_⟩
  · rw [List.length_append]
    exact Nat.le_add_right _ _
  · exact ⟨cs, List.take_left⟩
  · rintro n ⟨hn, ds, hds⟩
    have hlength : (ds.flatMap utf8EncodeChar).length = n := by
      rw [← hds, List.length_take_of_le hn]
    rw [← List.take_append_drop n (cs.flatMap utf8EncodeChar ++ rest), hds] at hdecode
    exact hlength ▸ length_le_validUpTo hdecode
  · rwa [List.drop_left]

end Utf8

end ClipExchange
