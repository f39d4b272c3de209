/-!
# Decimal digits

## Main definitions

* `Decimal.digits`: a number without leading zeros.
* `Decimal.value`: the number that digits stand for.
-/

namespace ClipExchange

namespace Decimal

/-- The digit of a value below ten. -/
def digit (n : Nat) : Char :=
  Char.ofNat (48 + n)

/-- Whether a character is one of the ten digits. -/
def isDigit (c : Char) : Bool :=
  decide ('0' ≤ c) && decide (c ≤ '9')

/-- The value of a digit. -/
def digitValue (c : Char) : Nat :=
  c.toNat - 48

/-- A number in decimal digits without leading zeros. -/
def digits (n : Nat) : List Char :=
  if n < 10 then [digit n] else digits (n / 10) ++ [digit (n % 10)]
termination_by n
decreasing_by omega

/-- The number that digits stand for, after the digits of `before`. -/
def valueFrom (before : Nat) (ds : List Char) : Nat :=
  ds.foldl (fun n c => 10 * n + digitValue c) before

/-- The number that digits stand for. -/
def value (ds : List Char) : Nat :=
  valueFrom 0 ds

end Decimal

end ClipExchange
