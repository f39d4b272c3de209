import ClipExchange.Json.Number
import ClipExchange.Json.Text

/-!
# Passing over JSON values

The value of an unknown field is checked for its form and dropped. It may be nested to any
depth, so the brackets that are open stand in a list of their own.

## Main definitions

* `Json.Reader.skipValue`: pass over any value.
* `Json.Reader.wrongType`: refuse a value that is not of the expected type.
-/

namespace ClipExchange

namespace Json

/-- A bracket that is open. -/
inductive Bracket where
  | list
  | object
deriving DecidableEq, Repr

/-- The character that closes a bracket. -/
def Bracket.closer : Bracket → Char
  | list => ']'
  | object => '\x7d'

namespace Reader

/-- Pass over the key of a field and the colon after it. -/
def skipKey : Reader Unit := do
  mark '"'
  skipTextBody
  mark ':'

/-- Go on to the next item of an open bracket. -/
def skipToItem (bracket : Bracket) : Reader Unit :=
  match bracket with
  | .list => pure ()
  | .object => skipKey

/-- Close brackets behind a value, up to the next item of one of them. The result is the
brackets still open, or nothing if all are closed. -/
def closeBrackets : List Bracket → Reader (Option (List Bracket))
  | [] => pure none
  | bracket :: stack => do
    match ← peek with
    | none => fail .incomplete
    | some c =>
      if c = ',' then
        skip
        skipToItem bracket
        pure (some (bracket :: stack))
      else if c = bracket.closer then
        skip
        closeBrackets stack
      else fail .malformed

/-- Open a bracket, up to its first item if it has one. -/
def openBracket (bracket : Bracket) (stack : List Bracket) :
    Reader (Option (List Bracket)) := do
  skip
  match ← peek with
  | none => fail .incomplete
  | some c =>
    if c = bracket.closer then
      skip
      closeBrackets stack
    else
      skipToItem bracket
      pure (some (bracket :: stack))

/-- Pass over a value that has no parts, which begins with the given character. -/
def skipScalar (c : Char) : Reader Unit :=
  if c = 'n' then word "null".toList
  else if c = 't' then word "true".toList
  else if c = 'f' then word "false".toList
  else if c = '"' then do
    skip
    skipTextBody
  else if c = '-' then do
    skip
    skipNumber
  else if Decimal.isDigit c then skipNumber
  else fail .malformed

/-- Pass over a scalar or open a bracket; the result is as for `closeBrackets`. -/
def skipStep (stack : List Bracket) : Reader (Option (List Bracket)) := do
  match ← peek with
  | none => fail .incomplete
  | some '[' => openBracket .list stack
  | some '\x7b' => openBracket .object stack
  | some c =>
    skipScalar c
    closeBrackets stack

/-- Pass over values until every bracket is closed; each step takes a character at least. -/
def skipFrom : Nat → List Bracket → Reader Unit
  | 0, _ => fail .incomplete
  | fuel + 1, stack => do
    match ← skipStep stack with
    | none => pure ()
    | some stack => skipFrom fuel stack

/-- Pass over any value. -/
def skipValue : Reader Unit := fun input =>
  skipFrom (input.length + 1) [] input

/-- Refuse the value that begins with the given character because it is not of the expected
type. A scalar is read to its end, so it is refused for its form if that is broken. -/
def wrongType {α : Type} (c : Char) : Reader α :=
  if c = 'n' then do
    word "null".toList
    fail .mismatch
  else if c = 't' then do
    word "true".toList
    fail .mismatch
  else if c = 'f' then do
    word "false".toList
    fail .mismatch
  else if c = '"' then do
    skip
    let _ ← textBody
    fail .mismatch
  else if c = '-' then do
    skip
    let _ ← number
    fail .mismatch
  else if Decimal.isDigit c then do
    let _ ← number
    fail .mismatch
  else if c = '[' ∨ c = '\x7b' then fail .mismatch
  else fail .malformed

end Reader

end Json

end ClipExchange
