import ClipExchange.Bytes

/-!
# Hexadecimal digits

## Main definitions

* `Hex.digit`, `Hex.value?`: a digit and its value; both letter cases are read.
* `Hex.ofBytes`: two lower-case digits for each octet.
* `Hex.toBytes?`: the octets written by pairs of digits.
* `Hex.ofNat`: a number without leading zeros.
-/

namespace ClipExchange

namespace Hex

/-- The lower-case digit of a value below sixteen. -/
def digit (n : Nat) : Char :=
  if n < 10 then Char.ofNat (48 + n) else Char.ofNat (87 + n)

/-- The value of a digit in either letter case. -/
def value? (c : Char) : Option Nat :=
  if '0' ≤ c ∧ c ≤ '9' then some (c.toNat - 48)
  else if 'a' ≤ c ∧ c ≤ 'f' then some (c.toNat - 87)
  else if 'A' ≤ c ∧ c ≤ 'F' then some (c.toNat - 55)
  else none

/-- The two digits of an octet. -/
def ofByte (b : UInt8) : List Char :=
  [digit (b.toNat / 16), digit (b.toNat % 16)]

/-- Two digits for each octet. -/
def ofBytes (bytes : Bytes) : List Char :=
  bytes.flatMap ofByte

/-- The octets written by pairs of digits. -/
def toBytes? : List Char → Option Bytes
  | [] => some []
  | [_] => none
  | a :: b :: cs => do
    let high ← value? a
    let low ← value? b
    let rest ← toBytes? cs
    return UInt8.ofNat (16 * high + low) :: rest

/-- The digits of a number, least significant first, at most `fuel` of them. -/
def digitsFrom : Nat → Nat → List Char
  | 0, _ => []
  | fuel + 1, n => digit (n % 16) :: if n < 16 then [] else digitsFrom fuel (n / 16)

/-- A number in lower-case digits without leading zeros. -/
def ofNat (n : Nat) : List Char :=
  (digitsFrom (n + 1) n).reverse

/-- Every value below sixteen is read back from its digit. -/
theorem value?_digit {n : Nat} (h : n < 16) : value? (digit n) = some n := by
  have : ∀ m : Fin 16, value? (digit m) = some m.val := by decide
  exact this ⟨n, h⟩

end Hex

end ClipExchange
