import Mathlib
import ClipExchange.Text.Decimal

/-!
# Decimal digits

A number is the value of its digits, and no zero leads them unless the number is zero.

## Main results

* `Decimal.value_digits`: a number is the value of its digits.
* `Decimal.digits_ne_zero_cons`: no zero leads other digits.
-/

namespace ClipExchange

namespace Decimal

variable {n : Nat}

theorem isDigit_digit (h : n < 10) : isDigit (digit n) = true := by
  have : ∀ m : Fin 10, isDigit (digit m) = true := by decide
  exact this ⟨n, h⟩

theorem digitValue_digit (h : n < 10) : digitValue (digit n) = n := by
  have : ∀ m : Fin 10, digitValue (digit m) = m.val := by decide
  exact this ⟨n, h⟩

theorem digits_of_lt (h : n < 10) : digits n = [digit n] := by
  rw [digits, if_pos h]

theorem digits_of_le (h : 10 ≤ n) : digits n = digits (n / 10) ++ [digit (n % 10)] := by
  rw [digits, if_neg (not_lt.2 h)]

theorem digits_ne_nil (n : Nat) : digits n ≠ [] := by
  rcases lt_or_ge n 10 with h | h
  · simp [digits_of_lt h]
  · simp [digits_of_le h]

/-- Induction on the digits of a number: the last one is taken off as long as there is another. -/
theorem digits_induction {motive : Nat → Prop} (one : ∀ n, n < 10 → motive n)
    (more : ∀ n, 10 ≤ n → motive (n / 10) → motive n) (n : Nat) : motive n := by
  induction n using Nat.strong_induction_on with
  | _ n ih =>
    rcases lt_or_ge n 10 with h | h
    · exact one n h
    · exact more n h (ih (n / 10) (by omega))

theorem isDigit_of_mem_digits (n : Nat) : ∀ c ∈ digits n, isDigit c = true := by
  induction n using digits_induction with
  | one n h => simp [digits_of_lt h, isDigit_digit h]
  | more n h ih =>
    intro c hc
    rw [digits_of_le h, List.mem_append, List.mem_singleton] at hc
    rcases hc with hc | rfl
    · exact ih c hc
    · exact isDigit_digit (by omega)

/-- A number is the value of its digits. -/
theorem value_digits (n : Nat) : value (digits n) = n := by
  induction n using digits_induction with
  | one n h => simp [digits_of_lt h, value, valueFrom, digitValue_digit h]
  | more n h ih =>
    have hlast := digitValue_digit (n := n % 10) (by omega)
    rw [value, valueFrom] at ih ⊢
    rw [digits_of_le h, List.foldl_append, ih, List.foldl_cons, List.foldl_nil, hlast]
    omega

theorem head?_digits (h : 0 < n) : (digits n).head? ≠ some '0' := by
  induction n using digits_induction with
  | one n hn =>
    have : ∀ m : Fin 10, 0 < m.val → digit m ≠ '0' := by decide
    simpa [digits_of_lt hn] using this ⟨n, hn⟩ h
  | more n hn ih =>
    rw [digits_of_le hn, List.head?_append_of_ne_nil _ (digits_ne_nil _)]
    exact ih (by omega)

/-- No zero leads other digits. -/
theorem digits_ne_zero_cons (n : Nat) (c : Char) (cs : List Char) : digits n ≠ '0' :: c :: cs := by
  intro h
  rcases Nat.eq_zero_or_pos n with rfl | hn
  · have hzero : digits 0 = ['0'] := digits_of_lt (by decide)
    rw [hzero] at h
    cases h
  · exact head?_digits hn (by rw [h, List.head?_cons])

/-- Further digits make a number no smaller. -/
theorem le_valueFrom (before : Nat) (ds : List Char) : before ≤ valueFrom before ds := by
  induction ds generalizing before with
  | nil => exact le_rfl
  | cons c cs ih =>
    rw [valueFrom, List.foldl_cons]
    exact le_trans (by omega) (ih (10 * before + digitValue c))

end Decimal

end ClipExchange
