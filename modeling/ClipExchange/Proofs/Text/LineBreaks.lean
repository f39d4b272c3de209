import Mathlib
import ClipExchange.Proofs.Format.Names
import ClipExchange.Text.Quoted
import ClipExchange.TransactionId

/-!
# Line breaks in texts that are shown

Some characters end a line wherever they are shown. None of them is visible ASCII, so numbers and
identifiers hold none, and none has a visible form of its own, so each is escaped between quotes.
Bringing a text to lower case neither adds nor removes any of them.

## Main definitions

* `Text.lineBreaks`: the characters that end a line.
* `Text.occurrences`: how often a character stands in a text.

## Main results

* `Text.occurrences_append`, `Text.occurrences_join`, `Text.occurrences_intercalate`: texts that
  are put together.
* `Text.occurrences_quoted`: a quoted text stays on one line.
-/

namespace ClipExchange

namespace Text

/-- The characters that end a line: line feed, line and form tabulation, carriage return, next line,
and the two separators. -/
def lineBreaks : List Char :=
  ['\n', '\x0b', '\x0c', '\r', '\u0085', '\u2028', '\u2029']

/-- How often a character stands in a text. -/
def occurrences (c : Char) (s : String) : Nat :=
  s.toList.count c

variable {b c : Char} {s separator : String}

/-! ### Texts that are put together -/

theorem occurrences_eq_zero_iff : occurrences c s = 0 ↔ c ∉ s.toList :=
  List.count_eq_zero

theorem occurrences_pos_iff : 0 < occurrences c s ↔ c ∈ s.toList :=
  List.count_pos_iff

@[simp]
theorem occurrences_empty (c : Char) : occurrences c "" = 0 :=
  rfl

@[simp]
theorem occurrences_append (c : Char) (s t : String) :
    occurrences c (s ++ t) = occurrences c s + occurrences c t := by
  simp [occurrences]

theorem occurrences_join (c : Char) (parts : List String) :
    occurrences c (String.join parts) = (parts.map (occurrences c)).sum := by
  rw [occurrences, String.toList_join, List.count_flatMap]
  rfl

/-- A separator without a character adds none. -/
theorem occurrences_intercalate (hseparator : occurrences c separator = 0) (parts : List String) :
    occurrences c (separator.intercalate parts) = (parts.map (occurrences c)).sum := by
  induction parts with
  | nil => rfl
  | cons part parts ih =>
    cases parts with
    | nil => simp
    | cons next parts =>
      rw [String.intercalate_cons_cons, occurrences_append, occurrences_append, ih, hseparator,
        Nat.add_zero, List.map_cons (l := next :: parts), List.sum_cons]

/-! ### Texts without line breaks -/

/-- A character of ASCII that is drawn, or a space. -/
def isVisible (c : Char) : Bool :=
  decide (' ' ≤ c) && decide (c ≤ '~')

theorem isVisible_of_mem_lineBreaks (hb : b ∈ lineBreaks) : isVisible b = false := by
  have hall : (lineBreaks.all fun b => !isVisible b) = true := by decide
  simpa using List.all_eq_true.1 hall b hb

theorem not_mem_of_visible {cs : List Char} (hb : b ∈ lineBreaks) (h : cs.all isVisible = true) :
    b ∉ cs := by
  intro hmem
  cases (isVisible_of_mem_lineBreaks hb).symm.trans (List.all_eq_true.1 h b hmem)

theorem occurrences_of_visible (hb : b ∈ lineBreaks) (h : s.toList.all isVisible = true) :
    occurrences b s = 0 :=
  occurrences_eq_zero_iff.2 (not_mem_of_visible hb h)

theorem occurrences_repr (hb : b ∈ lineBreaks) (n : Nat) : occurrences b n.repr = 0 := by
  refine occurrences_of_visible hb (List.all_eq_true.2 fun c hc => ?_)
  rw [Nat.toList_repr] at hc
  have hdigit := Nat.isDigit_of_mem_toDigits (by decide) (by decide) hc
  simp only [Char.isDigit, Bool.and_eq_true, decide_eq_true_eq] at hdigit
  rw [isVisible, Bool.and_eq_true, decide_eq_true_eq, decide_eq_true_eq]
  exact ⟨le_trans (by decide) hdigit.1, le_trans hdigit.2 (by decide)⟩

theorem isVisible_digit {n : Nat} (h : n < 16) : isVisible (Hex.digit n) = true := by
  have hdigit : ∀ m : Fin 16, isVisible (Hex.digit m) = true := by decide
  exact hdigit ⟨n, h⟩

theorem all_isVisible_ofBytes (bytes : Bytes) : (Hex.ofBytes bytes).all isVisible = true := by
  rw [Hex.ofBytes, List.all_flatMap, List.all_eq_true]
  intro octet _
  have hoctet := octet.toNat_lt
  have hhigh := isVisible_digit (n := octet.toNat / 16) (by omega)
  have hlow := isVisible_digit (n := octet.toNat % 16) (by omega)
  simp [Hex.ofByte, hhigh, hlow]

theorem occurrences_identifier (hb : b ∈ lineBreaks) (id : TransactionId) :
    occurrences b id.text = 0 := by
  have hhyphen : isVisible '-' = true := by decide
  refine occurrences_of_visible hb ?_
  rw [TransactionId.text, String.toList_ofList]
  simp [TransactionId.textChars, all_isVisible_ofBytes, hhyphen]

/-! ### Quoted texts -/

theorem all_isVisible_digitsFrom (fuel n : Nat) :
    (Hex.digitsFrom fuel n).all isVisible = true := by
  induction fuel generalizing n with
  | zero => rfl
  | succ fuel ih =>
    have hdigit := isVisible_digit (n := n % 16) (by omega)
    rw [Hex.digitsFrom, List.all_cons, hdigit, Bool.true_and]
    split_ifs
    · rfl
    · exact ih (n / 16)

theorem all_isVisible_byCodePoint (c : Char) : (byCodePoint c).all isVisible = true := by
  have hfront : "\\u\x7b".toList.all isVisible = true := by decide
  have hend : "\x7d".toList.all isVisible = true := by decide
  rw [byCodePoint, List.all_append, List.all_append, hfront, hend, Hex.ofNat, List.all_reverse,
    all_isVisible_digitsFrom]
  rfl

/-- A character that ends a line has no visible form of its own. -/
theorem isUnprintable_of_mem_lineBreaks (hb : b ∈ lineBreaks) : isUnprintable b = true := by
  have hall : lineBreaks.all isUnprintable = true := by decide +kernel
  exact List.all_eq_true.1 hall b hb

/-- What a character is escaped to does not end a line. -/
theorem not_mem_escaped (hb : b ∈ lineBreaks) (c : Char) : b ∉ escaped c := by
  unfold escaped
  split_ifs with h₁ h₂ h₃ h₄ h₅ h₆ h₇
  iterate 6 exact not_mem_of_visible hb (by decide)
  · exact not_mem_of_visible hb (all_isVisible_byCodePoint c)
  · intro hmem
    obtain rfl := List.mem_singleton.1 hmem
    exact h₇ (by rw [isUnprintable_of_mem_lineBreaks hb, Bool.or_true])

/-- **A quoted text stays on one line.** -/
theorem occurrences_quoted (hb : b ∈ lineBreaks) (s : String) : occurrences b (quoted s) = 0 := by
  have hquote : b ∉ ['"'] := not_mem_of_visible hb (by decide)
  have hbody : b ∉ s.toList.flatMap escaped := by
    intro hmem
    obtain ⟨c, -, hc⟩ := List.mem_flatMap.1 hmem
    exact not_mem_escaped hb c hc
  rw [occurrences_eq_zero_iff, quoted, String.toList_ofList, ← List.singleton_append]
  simp only [List.mem_append, hquote, hbody, or_self, not_false_eq_true]

/-! ### Letter case -/

/-- A character in lower case ends a line only if it did so before. -/
theorem toLower_eq_iff (hb : b ∈ lineBreaks) : c.toLower = b ↔ c = b := by
  have hall : (lineBreaks.all fun b => decide (b.toNat < 65 ∨ 122 < b.toNat)) = true := by decide
  have hrange := of_decide_eq_true (List.all_eq_true.1 hall b hb)
  rw [← Char.toNat_inj, ← Char.toNat_inj, toNat_toLower]
  split_ifs <;> omega

theorem occurrences_lowercase (hb : b ∈ lineBreaks) (s : String) :
    occurrences b (lowercase s) = occurrences b s := by
  rw [occurrences, toList_lowercase, List.count, List.countP_map]
  refine List.countP_congr fun c _ => ?_
  simp [toLower_eq_iff hb]

end Text

end ClipExchange
