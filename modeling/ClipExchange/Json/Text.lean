import ClipExchange.Json.Reader
import ClipExchange.Text.Hex

/-!
# JSON strings

A string stands between double quotes. A quote, a backslash and control characters are escaped;
every other character may stand for itself. A character beyond U+FFFF may be escaped as a pair
of surrogates, and a surrogate without its partner is refused.

Reading is a machine that takes one character at a time, so its state says what the characters
before it leave open.

## Main definitions

* `Json.writeText`: a string between quotes.
* `Json.textFrom`: read a string behind its first quote.
* `Json.skipTextFrom`: pass over a string; the pairing of surrogates is not checked.
-/

namespace ClipExchange

namespace Json

/-- A character as it is written in a string. -/
def escaped (c : Char) : List Char :=
  if c = '"' then ['\\', '"']
  else if c = '\\' then ['\\', '\\']
  else if c = '\x08' then ['\\', 'b']
  else if c = '\x0c' then ['\\', 'f']
  else if c = '\n' then ['\\', 'n']
  else if c = '\r' then ['\\', 'r']
  else if c = '\t' then ['\\', 't']
  else if c < ' ' then ['\\', 'u', '0', '0', Hex.digit (c.toNat / 16), Hex.digit (c.toNat % 16)]
  else [c]

/-- A string between quotes. -/
def writeText (s : String) : List Char :=
  '"' :: (s.toList.flatMap escaped ++ ['"'])

/-- The character that a letter after a backslash stands for. -/
def escapeOf? (c : Char) : Option Char :=
  if c = '"' ∨ c = '\\' ∨ c = '/' then some c
  else if c = 'b' then some '\x08'
  else if c = 'f' then some '\x0c'
  else if c = 'n' then some '\n'
  else if c = 'r' then some '\r'
  else if c = 't' then some '\t'
  else none

/-- The first half of a surrogate pair. -/
def isHighSurrogate (n : Nat) : Bool :=
  decide (0xD800 ≤ n) && decide (n ≤ 0xDBFF)

/-- The second half of a surrogate pair. -/
def isLowSurrogate (n : Nat) : Bool :=
  decide (0xDC00 ≤ n) && decide (n ≤ 0xDFFF)

/-- The character of a surrogate pair. -/
def charOfPair (high low : Nat) : Char :=
  Char.ofNat ((high - 0xD800) * 0x400 + (low - 0xDC00) + 0x10000)

/-- What the characters read so far leave open. -/
inductive TextState where
  /-- Nothing. -/
  | plain
  /-- An escape, after its backslash. -/
  | escape
  /-- The hexadecimal digits of a code unit, so many of them read with this value; a high
  surrogate may precede. -/
  | unit (high : Option Nat) (count value : Nat)
  /-- The backslash that has to follow a high surrogate. -/
  | paired (high : Nat)
  /-- The letter that has to follow that backslash. -/
  | pairedUnit (high : Nat)
deriving DecidableEq, Repr

/-- Whether at least so many octets of UTF-8 are left. -/
def hasOctets (count : Nat) (input : List Char) : Bool :=
  count ≤ (input.take count).foldr (fun c rest => c.utf8Size + rest) 0

/-- A code unit is complete: the character it adds or the state it leads to. -/
def closeUnit (high : Option Nat) (value : Nat) : Except Fault (Option Char × TextState) :=
  match high with
  | none =>
    if isLowSurrogate value then .error .malformed
    else if isHighSurrogate value then .ok (none, .paired value)
    else .ok (some (Char.ofNat value), .plain)
  | some high =>
    if isLowSurrogate value then .ok (some (charOfPair high value), .plain)
    else .error .malformed

/-- Read a string behind its first quote; `done` was read before, last character first. -/
def textFrom (state : TextState) (done : List Char) : List Char →
    Except Fault (String × List Char)
  | [] => .error .incomplete
  | c :: rest =>
    match state with
    | .plain =>
      if c = '"' then .ok (String.ofList done.reverse, rest)
      else if c = '\\' then textFrom .escape done rest
      else if c < ' ' then .error .malformed
      else textFrom .plain (c :: done) rest
    | .escape =>
      if c = 'u' then textFrom (.unit none 0 0) done rest
      else
        match escapeOf? c with
        | some d => textFrom .plain (d :: done) rest
        | none => .error .malformed
    | .unit high count value =>
      match Hex.value? c with
      | none => .error (if hasOctets (4 - count) (c :: rest) then .malformed else .incomplete)
      | some d =>
        if count < 3 then textFrom (.unit high (count + 1) (16 * value + d)) done rest
        else
          match closeUnit high (16 * value + d) with
          | .error fault => .error fault
          | .ok (none, state) => textFrom state done rest
          | .ok (some c, state) => textFrom state (c :: done) rest
    | .paired high =>
      if c = '\\' then textFrom (.pairedUnit high) done rest else .error .malformed
    | .pairedUnit high =>
      if c = 'u' then textFrom (.unit (some high) 0 0) done rest else .error .malformed

/-- What the characters passed over so far leave open. -/
inductive SkipState where
  | plain
  | escape
  /-- So many digits of a code unit were read. -/
  | unit (count : Nat)
deriving DecidableEq, Repr

/-- Pass over a string behind its first quote. -/
def skipTextFrom (state : SkipState) : List Char → Except Fault (List Char)
  | [] => .error .incomplete
  | c :: rest =>
    match state with
    | .plain =>
      if c = '"' then .ok rest
      else if c = '\\' then skipTextFrom .escape rest
      else if c < ' ' then .error .malformed
      else skipTextFrom .plain rest
    | .escape =>
      if c = 'u' then skipTextFrom (.unit 0) rest
      else if (escapeOf? c).isSome then skipTextFrom .plain rest
      else .error .malformed
    | .unit count =>
      match Hex.value? c with
      | none => .error (if hasOctets (4 - count) (c :: rest) then .malformed else .incomplete)
      | some _ => skipTextFrom (if count < 3 then .unit (count + 1) else .plain) rest

namespace Reader

/-- Read a string behind its first quote. -/
def textBody : Reader String :=
  textFrom .plain []

/-- Pass over a string behind its first quote. -/
def skipTextBody : Reader Unit := fun input =>
  (skipTextFrom .plain input).map fun rest => ((), rest)

end Reader

end Json

end ClipExchange
