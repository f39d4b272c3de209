import ClipExchange.Text.Decimal
import ClipExchange.Text.Hex
import ClipExchange.Toml.Reader

/-!
# TOML numbers

An integer has sixty-four bits and is decimal, or hexadecimal, octal or binary behind a prefix
of its own. A single underscore may stand between two digits. A number with a fraction or an
exponent is a float; all that matters about it is that it does not round to infinity.

## Main definitions

* `Toml.Reader.integer`: an integer.
* `Toml.Reader.float`: a float.
* `Toml.overflows`: a decimal that rounds to infinity.
-/

namespace ClipExchange

namespace Toml

/-- Decimals from here on are nearer to the end of the range than to the greatest double. -/
def infinityFrom : Nat := (1 <<< 1024) - (1 <<< 970)

/-- Whether a whole number times a power of ten rounds to infinity. A number of `n` digits is
at least ten to the power of `n - 1`, so very large and very small ones need no power. -/
def overflows (significand : Nat) (exponent : Int) : Bool :=
  if significand = 0 then false
  else
    let magnitude : Int := (Decimal.digits significand).length + exponent
    if 400 < magnitude then true
    else if magnitude < 300 then false
    else if 0 ≤ exponent then decide (infinityFrom ≤ significand * Nat.pow 10 exponent.toNat)
    else decide (infinityFrom * Nat.pow 10 (-exponent).toNat ≤ significand)

/-- The value of a digit in a base. -/
def digitValue? (base : Nat) (c : Char) : Option Nat :=
  match Hex.value? c with
  | some d => if d < base then some d else none
  | none => none

/-- The number that digits stand for in a base. -/
def valueIn (base : Nat) (digits : List Char) : Nat :=
  digits.foldl (fun n c => base * n + (digitValue? base c).getD 0) 0

namespace Reader

/-- Read digits of a base; an underscore may stand before each one but the first. `done` came
before, last one first, and each round takes a character at least. -/
def digitsFrom (base : Nat) : Nat → List Char → Reader (List Char)
  | 0, _ => fail
  | fuel + 1, done => do
    let isUnderscore ← skip? ['_']
    match ← optional (satisfying fun c => (digitValue? base c).isSome) with
    | some c => digitsFrom base fuel (c :: done)
    | none => if isUnderscore then fail else pure done.reverse

/-- Digits of a base, one at least. -/
def digits (base : Nat) : Reader (List Char) := do
  let c ← satisfying fun c => (digitValue? base c).isSome
  digitsFrom base (← budget) [c]

/-- The sign of a number; true if it is negative. -/
def sign : Reader Bool := do
  if ← skip? ['-'] then pure true
  else
    let _ ← skip? ['+']
    pure false

/-- Decimal digits without a leading zero. -/
def wholeDigits : Reader (List Char) := do
  if ← skip? ['0'] then pure ['0'] else digits 10

/-- An integer of sixty-four bits. -/
def inWord (n : Int) : Reader Int :=
  if -9223372036854775808 ≤ n ∧ n ≤ 9223372036854775807 then pure n else fail

/-- A decimal integer. -/
def decimalInteger : Reader Int := do
  let isNegative ← sign
  let n := valueIn 10 (← wholeDigits)
  inWord (if isNegative then -(n : Int) else n)

/-- An integer of any base. -/
def integer : Reader Int := do
  if ← skip? ['0', 'x'] then inWord (valueIn 16 (← digits 16))
  else if ← skip? ['0', 'o'] then inWord (valueIn 8 (← digits 8))
  else if ← skip? ['0', 'b'] then inWord (valueIn 2 (← digits 2))
  else decimalInteger

/-- The fraction of a float. -/
def fractionDigits : Reader (List Char) := do
  char '.'
  digits 10

/-- The exponent of a float. -/
def exponent : Reader Int := do
  let _ ← satisfying fun c => c = 'e' || c = 'E'
  let isNegative ← sign
  let n := valueIn 10 (← digits 10)
  pure (if isNegative then -(n : Int) else n)

/-- A float in digits, with a fraction or an exponent or both. -/
def decimalFloat : Reader Unit := do
  let isNegative ← sign
  let whole ← wholeDigits
  let fraction ← optional fractionDigits
  let power ← match fraction with
    | none => some <$> exponent
    | some _ => optional exponent
  let fraction := fraction.getD []
  let significand := valueIn 10 (whole ++ fraction)
  if !isNegative && overflows significand (power.getD 0 - fraction.length) then fail

/-- A float by name. -/
def namedFloat : Reader Unit := do
  let _ ← sign
  either (word "inf".toList) (word "nan".toList)

/-- A float. -/
def float : Reader Unit :=
  either decimalFloat namedFloat

end Reader

end Toml

end ClipExchange
