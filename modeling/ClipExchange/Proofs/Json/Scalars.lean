import Mathlib
import ClipExchange.Json.Codec
import ClipExchange.Proofs.Text.Decimal

/-!
# Strings and numbers of JSON are read back

A reader takes a value off the front of a text. Where a value ends must not depend on what comes
after it, as long as this is a mark that may follow a value: a string ends at its quote, but a
number only where no digit, point or exponent follows.

Strings are read one character at a time, and behind every escape the machine that reads them is
where it was before.

## Main definitions

* `Json.Closes`: what may follow a value.
* `Json.Reader.Reads`: a reader takes a written form off every text that begins with it.

## Main results

* `Json.textFrom_escaped`: an escaped character is read as the character.
* `Json.Reader.reads_text`: a string is read back.
* `Json.Reader.reads_natural`: a natural number is read back.
-/

namespace ClipExchange

namespace Json

/-- What may follow a value: the end of the text, a comma or a closing bracket. -/
inductive Closes : List Char → Prop
  | ended : Closes []
  | comma (rest : List Char) : Closes (',' :: rest)
  | item (rest : List Char) : Closes (']' :: rest)
  | field (rest : List Char) : Closes ('\x7d' :: rest)

variable {rest input : List Char}

/-- No digit follows a value. -/
theorem Closes.takeWhile_isDigit (h : Closes rest) : rest.takeWhile Decimal.isDigit = [] := by
  cases h with
  | ended => rfl
  | _ => exact List.takeWhile_cons_of_neg (by decide)

namespace Reader

variable {α β : Type} {reader : Reader α} {written : List Char} {value : α}

/-- The reader takes the written form off every text that goes on as behind a value, and what is
read is the given value. The form begins like a value, so that it is neither skipped as blank nor
taken for the end of a list. -/
structure Reads (reader : Reader α) (written : List Char) (value : α) : Prop where
  opens : ∃ c cs, written = c :: cs ∧ isBlank c = false ∧ c ≠ ']'
  takes : ∀ rest, Closes rest → reader (written ++ rest) = .ok (value, rest)

/-! ### Steps -/

/-- A reader that begins with a successful step goes on behind it. -/
theorem bind_of_ok {step : Reader α} {next : α → Reader β} (h : step input = .ok (value, rest)) :
    (step >>= next) input = next value rest := by
  change (step input >>= fun p => next p.1 p.2) = next value rest
  rw [h]
  rfl

theorem map_of_ok {step : Reader α} (f : α → β) (h : step input = .ok (value, rest)) :
    (f <$> step) input = .ok (f value, rest) := by
  change (step input >>= fun p => pure (f p.1, p.2)) = _
  rw [h]
  rfl

/-- A character that is not blank is seen. -/
theorem peek_cons {c : Char} (h : isBlank c = false) (rest : List Char) :
    peek (c :: rest) = .ok (some c, c :: rest) := by
  simp [peek, List.dropWhile_cons_of_neg, h]

theorem begin_cons {c : Char} (h : isBlank c = false) (rest : List Char) :
    begin (c :: rest) = .ok (c, c :: rest) := by
  rw [begin, bind_of_ok (peek_cons h rest)]
  rfl

theorem skip_cons (c : Char) (rest : List Char) : skip (c :: rest) = .ok ((), rest) :=
  rfl

theorem mark_cons {c : Char} (h : isBlank c = false) (rest : List Char) :
    mark c (c :: rest) = .ok ((), rest) := by
  rw [mark, bind_of_ok (peek_cons h rest)]
  exact (congrFun (if_pos rfl) _).trans (skip_cons c rest)

/-- A value that is read and then converted. -/
theorem Reads.map (h : reader.Reads written value) (f : α → β) :
    (f <$> reader).Reads written (f value) :=
  ⟨h.opens, fun rest hrest => map_of_ok f (h.takes rest hrest)⟩

end Reader

/-! ### Strings -/

variable {done : List Char}

/-- The code unit of a control character is read as the character. -/
theorem textFrom_controlCode {c : Char} (h : c < ' ') (done rest : List Char) :
    textFrom .escape done
        ('u' :: '0' :: '0' :: Hex.digit (c.toNat / 16) :: Hex.digit (c.toNat % 16) :: rest) =
      textFrom .plain (c :: done) rest := by
  have hc : c.toNat < 32 := h
  have hhigh : Hex.value? (Hex.digit (c.toNat / 16)) = some (c.toNat / 16) :=
    Hex.value?_digit (by omega)
  have hlow : Hex.value? (Hex.digit (c.toNat % 16)) = some (c.toNat % 16) :=
    Hex.value?_digit (by omega)
  have hzero : Hex.value? '0' = some 0 := by decide
  have hvalue : 16 * (c.toNat / 16) + c.toNat % 16 = c.toNat := Nat.div_add_mod _ _
  have hclose : closeUnit none c.toNat = .ok (some c, .plain) := by
    have hlowHalf : isLowSurrogate c.toNat = false := by
      simp only [isLowSurrogate, Bool.and_eq_false_iff, decide_eq_false_iff_not]
      omega
    have hhighHalf : isHighSurrogate c.toNat = false := by
      simp only [isHighSurrogate, Bool.and_eq_false_iff, decide_eq_false_iff_not]
      omega
    simp [closeUnit, hlowHalf, hhighHalf, Char.ofNat_toNat]
  simp [textFrom, hzero, hhigh, hlow, hvalue, hclose]

/-- **An escaped character is read as the character**, whatever it is, and leaves nothing open. -/
theorem textFrom_escaped (c : Char) (done rest : List Char) :
    textFrom .plain done (escaped c ++ rest) = textFrom .plain (c :: done) rest := by
  have hplain (h₁ : c ≠ '"') (h₂ : c ≠ '\\') (h₃ : ¬c < ' ') :
      textFrom .plain done ([c] ++ rest) = textFrom .plain (c :: done) rest := by
    simp [textFrom, h₁, h₂, h₃]
  have hcontrol (h : c < ' ') :
      textFrom .plain done (['\\', 'u', '0', '0', Hex.digit (c.toNat / 16),
        Hex.digit (c.toNat % 16)] ++ rest) = textFrom .plain (c :: done) rest := by
    rw [← textFrom_controlCode h]
    simp [textFrom]
  unfold escaped
  split_ifs with hquote hslash _ _ _ _ _ hlow
  iterate 7 · simp [textFrom, escapeOf?, *]
  · exact hcontrol hlow
  · exact hplain hquote hslash hlow

/-- Escaped characters and the quote behind them are read to the quote. -/
theorem textFrom_flatMap_escaped (cs done rest : List Char) :
    textFrom .plain done (cs.flatMap escaped ++ '"' :: rest) =
      .ok (String.ofList (done.reverse ++ cs), rest) := by
  induction cs generalizing done with
  | nil => simp [textFrom]
  | cons c cs ih =>
    rw [List.flatMap_cons, List.append_assoc, textFrom_escaped, ih]
    simp

namespace Reader

theorem textBody_escaped (s : String) (rest : List Char) :
    textBody (s.toList.flatMap escaped ++ '"' :: rest) = .ok (s, rest) := by
  rw [textBody, textFrom_flatMap_escaped]
  simp

/-- **A string is read back.** -/
theorem reads_text (s : String) : text.Reads (writeText s) s := by
  refine ⟨⟨'"', _, rfl, by decide, by decide⟩, fun rest _ => ?_⟩
  rw [writeText, List.cons_append, text, bind_of_ok (begin_cons (by decide) _), if_pos rfl,
    bind_of_ok (skip_cons _ _), List.append_assoc]
  exact textBody_escaped s rest

end Reader

/-! ### Numbers -/

/-- Digits whose number fits are all taken. -/
theorem extend_eq {before : Nat} {ds : List Char} (h : Decimal.valueFrom before ds ≤ maxWhole) :
    extend before ds = (Decimal.valueFrom before ds, []) := by
  induction ds generalizing before with
  | nil => rfl
  | cons c cs ih =>
    have hvalue : Decimal.valueFrom before (c :: cs) =
        Decimal.valueFrom (10 * before + Decimal.digitValue c) cs := rfl
    have hfits := (Decimal.le_valueFrom (10 * before + Decimal.digitValue c) cs).trans (hvalue ▸ h)
    rw [extend, if_pos hfits, ih (hvalue ▸ h), hvalue]

namespace Reader

theorem digits_of_closes {ds : List Char} (hds : ∀ c ∈ ds, Decimal.isDigit c = true)
    (hrest : Closes rest) : digits (ds ++ rest) = .ok (ds, rest) := by
  have htake : (ds ++ rest).takeWhile Decimal.isDigit = ds := by
    rw [List.takeWhile_append_of_pos hds, hrest.takeWhile_isDigit, List.append_nil]
  simp [digits, htake]

theorem number_digits {n : Nat} (h : n ≤ maxWhole) (hrest : Closes rest) :
    number (Decimal.digits n ++ rest) = .ok (some n, rest) := by
  have hsome : someDigits (Decimal.digits n ++ rest) = .ok (Decimal.digits n, rest) := by
    rw [someDigits, bind_of_ok (digits_of_closes (Decimal.isDigit_of_mem_digits n) hrest)]
    cases hds : Decimal.digits n with
    | nil => exact absurd hds (Decimal.digits_ne_nil n)
    | cons c cs => rfl
  have hextend : extend 0 (Decimal.digits n) = (n, []) := by
    have hvalue : Decimal.valueFrom 0 (Decimal.digits n) = n := Decimal.value_digits n
    rw [extend_eq (hvalue.le.trans h), hvalue]
  have hzeros := Decimal.digits_ne_zero_cons n
  rw [number, bind_of_ok hsome]
  generalize Decimal.digits n = ds at hextend hzeros
  split
  · exact absurd rfl (hzeros _ _)
  · rw [hextend]
    cases hrest <;> rfl

/-- **A natural number is read back** where numbers up to a greatest one are expected. -/
theorem reads_natural {n max : Nat} (h : n ≤ max) (hmax : max ≤ maxWhole) :
    (natural max).Reads (writeNatural n) n := by
  obtain ⟨c, cs, hcs⟩ := List.exists_cons_of_ne_nil (Decimal.digits_ne_nil n)
  have hdigit : Decimal.isDigit c = true := Decimal.isDigit_of_mem_digits n c (hcs ▸ by simp)
  -- The first digit is no blank, bracket or sign, all of which are told apart by computation.
  have hne (d : Char) (hd : Decimal.isDigit d = false) : c ≠ d := by
    rintro rfl
    rw [hdigit] at hd
    cases hd
  have hblank : isBlank c = false := by
    simp only [isBlank, Bool.or_eq_false_iff, decide_eq_false_iff_not]
    exact ⟨⟨⟨hne _ (by decide), hne _ (by decide)⟩, hne _ (by decide)⟩, hne _ (by decide)⟩
  refine ⟨⟨c, cs, hcs, hblank, hne _ (by decide)⟩, fun rest hrest => ?_⟩
  have hbegin : begin (writeNatural n ++ rest) = .ok (c, writeNatural n ++ rest) := by
    rw [writeNatural, hcs]
    exact begin_cons hblank _
  rw [natural, bind_of_ok hbegin, if_neg (hne _ (by decide)), if_pos hdigit, writeNatural,
    bind_of_ok (number_digits (h.trans hmax) hrest)]
  simp only [if_pos h]
  rfl

end Reader

end Json

end ClipExchange
