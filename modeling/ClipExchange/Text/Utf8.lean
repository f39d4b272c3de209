import ClipExchange.Bytes

/-!
# UTF-8

A text is written as the UTF-8 octets of its characters. Reading accepts exactly those
octet strings: overlong forms, surrogates and values above U+10FFFF are refused through the
range that the first octet allows for the second. A refusal says how many octets before it
are sound, and how many octets of the first unsound sequence are known to be wrong; none of
them is when the input merely ends inside a sequence.

## Main definitions

* `Utf8.encode`: the octets of a text.
* `Utf8.decode`: the text of some octets, or the place of the first fault.
-/

namespace ClipExchange

namespace Utf8

/-- Where an octet string stops being UTF-8. `faultLength` is absent when the input ends
inside a sequence that more octets could complete. -/
structure Fault where
  validUpTo : Nat
  faultLength : Option Nat
deriving DecidableEq, Repr

/-- The octets of a text. -/
def encode (text : String) : Bytes :=
  text.toByteArray.data.toList

/-- What a first octet announces. Longer sequences carry the range of their second octet. -/
inductive Lead where
  | single
  | two
  | three (low high : UInt8)
  | four (low high : UInt8)
  | none
deriving DecidableEq, Repr

/-- The sequence that an octet can begin. -/
def lead (b : UInt8) : Lead :=
  if b < 0x80 then .single
  else if b < 0xC2 then .none
  else if b < 0xE0 then .two
  else if b = 0xE0 then .three 0xA0 0xBF
  else if b < 0xED then .three 0x80 0xBF
  else if b = 0xED then .three 0x80 0x9F
  else if b < 0xF0 then .three 0x80 0xBF
  else if b = 0xF0 then .four 0x90 0xBF
  else if b < 0xF4 then .four 0x80 0xBF
  else if b = 0xF4 then .four 0x80 0x8F
  else .none

/-- Membership in a closed range of octets. -/
def within (low high b : UInt8) : Bool :=
  decide (low ≤ b) && decide (b ≤ high)

/-- An octet that continues a sequence. -/
def isContinuation (b : UInt8) : Bool :=
  within 0x80 0xBF b

/-- The character of a two-octet sequence. -/
def char₂ (a b : UInt8) : Char :=
  Char.ofNat (a.toNat % 32 * 64 + b.toNat % 64)

/-- The character of a three-octet sequence. -/
def char₃ (a b c : UInt8) : Char :=
  Char.ofNat (a.toNat % 16 * 4096 + b.toNat % 64 * 64 + c.toNat % 64)

/-- The character of a four-octet sequence. -/
def char₄ (a b c d : UInt8) : Char :=
  Char.ofNat (a.toNat % 8 * 262144 + b.toNat % 64 * 4096 + c.toNat % 64 * 64 + d.toNat % 64)

/-- Read characters to the end of the input; `offset` octets gave `done`, last one first. -/
def decodeFrom (offset : Nat) (done : List Char) : Bytes → Except Fault (List Char)
  | [] => .ok done.reverse
  | a :: rest =>
    match lead a with
    | .none => .error ⟨offset, some 1⟩
    | .single => decodeFrom (offset + 1) (Char.ofNat a.toNat :: done) rest
    | .two =>
      match rest with
      | [] => .error ⟨offset, none⟩
      | b :: rest =>
        if isContinuation b then decodeFrom (offset + 2) (char₂ a b :: done) rest
        else .error ⟨offset, some 1⟩
    | .three low high =>
      match rest with
      | [] => .error ⟨offset, none⟩
      | b :: rest =>
        if within low high b then
          match rest with
          | [] => .error ⟨offset, none⟩
          | c :: rest =>
            if isContinuation c then decodeFrom (offset + 3) (char₃ a b c :: done) rest
            else .error ⟨offset, some 2⟩
        else .error ⟨offset, some 1⟩
    | .four low high =>
      match rest with
      | [] => .error ⟨offset, none⟩
      | b :: rest =>
        if within low high b then
          match rest with
          | [] => .error ⟨offset, none⟩
          | c :: rest =>
            if isContinuation c then
              match rest with
              | [] => .error ⟨offset, none⟩
              | d :: rest =>
                if isContinuation d then decodeFrom (offset + 4) (char₄ a b c d :: done) rest
                else .error ⟨offset, some 3⟩
            else .error ⟨offset, some 2⟩
        else .error ⟨offset, some 1⟩

/-- The text that the octets encode. -/
def decode (bytes : Bytes) : Except Fault String :=
  (decodeFrom 0 [] bytes).map String.ofList

/-- The text that the octets encode, if they encode one. -/
def decode? (bytes : Bytes) : Option String :=
  (decode bytes).toOption

end Utf8

end ClipExchange
