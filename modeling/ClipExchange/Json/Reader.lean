/-!
# Readers of JSON

A reader takes a value off the front of a text and leaves the rest. It reports the first of
three faults that it meets: the text breaks the grammar, the text ends too early, or what
stands there is well formed but no value of the expected type.

## Main definitions

* `Json.Fault`: the faults.
* `Json.Reader`: a reader of values.
* `Json.Reader.peek`, `Json.Reader.skip`, `Json.Reader.word`: the smallest steps.
-/

namespace ClipExchange

namespace Json

/-- Why a text is no value of the expected type. -/
inductive Fault where
  /-- The text breaks the grammar. -/
  | malformed
  /-- The text is not a value of the type. -/
  | mismatch
  /-- The text ends inside a value. -/
  | incomplete
deriving DecidableEq, Repr

/-- A reader that takes a value off the front of a text. -/
abbrev Reader := StateT (List Char) (Except Fault)

/-- The characters that may stand between tokens. -/
def isBlank (c : Char) : Bool :=
  c = ' ' || c = '\n' || c = '\t' || c = '\r'

namespace Reader

/-- Fail whatever follows. -/
def fail {α : Type} (fault : Fault) : Reader α :=
  fun _ => .error fault

/-- The first character after blanks, which stays in place. -/
def peek : Reader (Option Char) := fun input =>
  let input := input.dropWhile isBlank
  .ok (input.head?, input)

/-- Drop one character. -/
def skip : Reader Unit := fun input =>
  .ok ((), input.drop 1)

/-- The character at the front, which stays in place. -/
def front : Reader (Option Char) := fun input =>
  .ok (input.head?, input)

/-- Read the given characters. -/
def word : List Char → Reader Unit
  | [] => fun input => .ok ((), input)
  | expected :: others => fun input =>
    match input with
    | [] => .error .incomplete
    | c :: rest => if c = expected then word others rest else .error .malformed

/-- Drop blanks and then a given character. -/
def mark (expected : Char) : Reader Unit := do
  match ← peek with
  | none => fail .incomplete
  | some c => if c = expected then skip else fail .malformed

end Reader

end Json

end ClipExchange
