import ClipExchange.Text.Utf8

/-!
# Decoders

A decoder takes a value off the front of an octet string and leaves the rest. It fails in one
of five ways. The first of them, an input that ends too early, says how many octets the read
in progress lacked; every other one is decided by octets already seen, so no continuation of
the input can mend it.

## Main definitions

* `Wire.DecodeError`: the failures, with their texts.
* `Wire.Decoder`: a reader of values.
* `Wire.Decoder.octets`, `Wire.Decoder.times`: a run of octets, a run of values.
-/

namespace ClipExchange

namespace Wire

/-- The forms in which an integer may be announced by its first octet. -/
inductive IntegerForm where
  | u16
  | u32
  | u64
  | u128
  | reserved
deriving DecidableEq, Repr

/-- The name of a form. -/
def IntegerForm.name : IntegerForm → String
  | u16 => "U16"
  | u32 => "U32"
  | u64 => "U64"
  | u128 => "U128"
  | reserved => "Reserved"

/-- The octets that follow the first one. -/
def IntegerForm.width : IntegerForm → Nat
  | u16 => 2
  | u32 => 4
  | u64 => 8
  | u128 => 16
  | reserved => 32

/-- Why some octets are no encoded value. -/
inductive DecodeError where
  /-- The read in progress needed this many more octets. -/
  | unexpectedEnd (additional : Nat)
  /-- An integer is announced in a form too wide for its type. -/
  | invalidInteger (expected found : IntegerForm)
  /-- A choice between numbered variants has no such number. -/
  | unexpectedVariant (type : String) (max found : Nat)
  /-- A text is not UTF-8. -/
  | invalidText (fault : Utf8.Fault)
  /-- An identifier does not have sixteen octets. -/
  | identifierLength (found : Nat)
deriving DecidableEq, Repr

/-- A number that may be absent. -/
private def optionText : Option Nat → String
  | none => "None"
  | some n => "Some(" ++ toString n ++ ")"

/-- What is said about octets that cannot be decoded. -/
def DecodeError.message : DecodeError → String
  | unexpectedEnd additional =>
    "UnexpectedEnd \x7b additional: " ++ toString additional ++ " \x7d"
  | invalidInteger expected found =>
    "InvalidIntegerType \x7b expected: " ++ expected.name ++ ", found: " ++ found.name ++ " \x7d"
  | unexpectedVariant type max found =>
    "UnexpectedVariant \x7b type_name: \"" ++ type ++ "\", allowed: Range \x7b min: 0, max: " ++
      toString max ++ " \x7d, found: " ++ toString found ++ " \x7d"
  | invalidText fault =>
    "Utf8 \x7b inner: Utf8Error \x7b valid_up_to: " ++ toString fault.validUpTo ++
      ", error_len: " ++ optionText fault.faultLength ++ " \x7d \x7d"
  | identifierLength found =>
    "OtherString(\"UUID parsing failed: invalid length: expected 16 bytes, found " ++
      toString found ++ "\")"

/-- A reader that takes a value off the front of an octet string. -/
abbrev Decoder := StateT Bytes (Except DecodeError)

namespace Decoder

/-- Fail whatever follows. -/
def fail {α : Type} (e : DecodeError) : Decoder α :=
  fun _ => .error e

/-- The next octets, a given number of them. -/
def octets (count : Nat) : Decoder Bytes := fun input =>
  let front := input.take count
  if front.length = count then .ok (front, input.drop count)
  else .error (.unexpectedEnd (count - front.length))

/-- Read values one after the other in front of those already read, last one first. -/
def timesFrom {α : Type} (item : Decoder α) (done : List α) : Nat → Decoder (List α)
  | 0 => fun input => .ok (done.reverse, input)
  | count + 1 => fun input =>
    match item input with
    | .ok (value, rest) => timesFrom item (value :: done) count rest
    | .error e => .error e

/-- A given number of values. -/
def times {α : Type} (count : Nat) (item : Decoder α) : Decoder (List α) :=
  timesFrom item [] count

end Decoder

end Wire

end ClipExchange
