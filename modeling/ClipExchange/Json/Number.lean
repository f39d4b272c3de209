import ClipExchange.Json.Reader
import ClipExchange.Text.Decimal

/-!
# JSON numbers

Only natural numbers are wanted, but any number may stand where one is expected, and then it
has to be well formed to the end. A number with a fraction or an exponent is kept in double
precision, and one beyond the range of that precision counts as malformed. A whole number that
does not fit in sixty-four bits is such a number as well; the digits that do not fit only
raise its exponent.

## Main definitions

* `Json.roundToDouble`: the nearest number of 53 significant bits.
* `Json.exceedsRange`: a decimal beyond the range of double precision.
* `Json.Reader.number`: a number; its value if it is a natural one.
-/

namespace ClipExchange

namespace Json

/-- The greatest number of sixty-four bits. -/
def maxWhole : Nat := 18446744073709551615

/-- The nearest number of at most 53 significant bits; a tie goes to the even one. -/
def roundToDouble (n : Nat) : Nat :=
  let step := 1 <<< (n.log2 + 1 - 53)
  let below := n / step
  let rest := n % step
  let up := step < 2 * rest ∨ (step = 2 * rest ∧ below % 2 = 1)
  (if up then below + 1 else below) * step

/-- Numbers from here on round beyond the greatest double. -/
def rangeEnd : Nat := (1 <<< 1024) - (1 <<< 970)

/-- Whether a whole number times a power of ten is beyond the range of double precision. Both
factors are rounded before they are multiplied. -/
def exceedsRange (significand : Nat) (exponent : Int) : Bool :=
  if exponent < 0 ∨ significand = 0 then false
  else if 308 < exponent then true
  else decide (rangeEnd ≤ roundToDouble significand * roundToDouble (Nat.pow 10 exponent.toNat))

/-- Append digits to a number for as long as it fits; the number and the digits left over. -/
def extend (n : Nat) : List Char → Nat × List Char
  | [] => (n, [])
  | c :: cs =>
    let more := 10 * n + Decimal.digitValue c
    if more ≤ maxWhole then extend more cs else (n, c :: cs)

namespace Reader

/-- The digits at the front. -/
def digits : Reader (List Char) := fun input =>
  let ds := input.takeWhile Decimal.isDigit
  .ok (ds, input.drop ds.length)

/-- The digits at the front, one at least. -/
def someDigits : Reader (List Char) := do
  match ← digits with
  | [] =>
    match ← front with
    | none => fail .incomplete
    | some _ => fail .malformed
  | ds => pure ds

/-- Refuse a number beyond the range of double precision. -/
def inRange (significand : Nat) (exponent : Int) : Reader Unit :=
  if exceedsRange significand exponent then fail .malformed else pure ()

/-- Read an exponent behind its letter. -/
def exponent (significand : Nat) (start : Int) : Reader Unit := do
  let sign ← front
  if sign = some '+' ∨ sign = some '-' then skip
  let amount : Int := Decimal.value (← someDigits)
  inRange significand (if sign = some '-' then start - amount else start + amount)

/-- Read what may follow the digits of a number. -/
def exponent? (significand : Nat) (start : Int) : Reader Unit := do
  let c ← front
  if c = some 'e' ∨ c = some 'E' then
    skip
    exponent significand start
  else
    inRange significand start

/-- Read a fraction behind its point, and what may follow. -/
def fraction (significand : Nat) (start : Int) : Reader Unit := do
  let ds ← someDigits
  let (significand, left) := extend significand ds
  exponent? significand (start - (ds.length - left.length))

/-- Read a number behind its sign. The value is absent if it is no natural number of
sixty-four bits. -/
def number : Reader (Option Nat) := do
  match ← someDigits with
  | '0' :: _ :: _ => fail .malformed
  | ds =>
    let (significand, left) := extend 0 ds
    let start : Int := left.length
    match ← front with
    | some '.' =>
      skip
      fraction significand start
      pure none
    | _ =>
      if left = [] ∧ (← front) ≠ some 'e' ∧ (← front) ≠ some 'E' then pure (some significand)
      else
        exponent? significand start
        pure none

/-- Pass over the digits at the front, one at least. -/
def skipDigits : Reader Unit := do
  match ← digits with
  | [] => fail .malformed
  | _ => pure ()

/-- Pass over an exponent behind its letter. -/
def skipExponent : Reader Unit := do
  let sign ← front
  if sign = some '+' ∨ sign = some '-' then skip
  skipDigits

/-- Pass over a number behind its sign, whatever its range. -/
def skipNumber : Reader Unit := do
  match ← digits with
  | [] | '0' :: _ :: _ => fail .malformed
  | _ => pure ()
  if (← front) = some '.' then
    skip
    skipDigits
  let c ← front
  if c = some 'e' ∨ c = some 'E' then
    skip
    skipExponent

end Reader

end Json

end ClipExchange
