/-!
# Readers of TOML

A reader takes something off the front of a text, or refuses the text. A refusal carries no
reason: a configuration is either well formed or not.

## Main definitions

* `Toml.Reader`: a reader.
* `Toml.Reader.char`, `Toml.Reader.satisfying`, `Toml.Reader.many`: the smallest steps.
* `Toml.Reader.blanks`, `Toml.Reader.newline`, `Toml.Reader.lineEnd`: what stands between items.
-/

namespace ClipExchange

namespace Toml

/-- A reader that takes something off the front of a text. -/
abbrev Reader := StateT (List Char) Option

/-- A character beyond ASCII. -/
def isWide (c : Char) : Bool :=
  decide (0x80 ≤ c.toNat)

/-- A character that may stand in a comment: a tab, or one that is no control character. -/
def isComment (c : Char) : Bool :=
  c = '\t' || (decide (' ' ≤ c) && decide (c ≤ '~')) || isWide c

/-- A blank within a line. -/
def isBlank (c : Char) : Bool :=
  c = ' ' || c = '\t'

namespace Reader

/-- Refuse the text. -/
def fail {α : Type} : Reader α :=
  fun _ => none

/-- The character at the front, which stays in place. -/
def front : Reader (Option Char) := fun input =>
  some (input.head?, input)

/-- Drop one character. -/
def skip : Reader Unit := fun input =>
  some ((), input.drop 1)

/-- The next character, which has to be of a kind. -/
def satisfying (kind : Char → Bool) : Reader Char := fun input =>
  match input with
  | c :: rest => if kind c then some (c, rest) else none
  | [] => none

/-- The given character. -/
def char (c : Char) : Reader Unit := do
  let _ ← satisfying fun d => d = c

/-- The given characters. -/
def word : List Char → Reader Unit
  | [] => pure ()
  | c :: cs => do
    char c
    word cs

/-- Whether the given characters come next; if so, they are dropped. -/
def skip? (expected : List Char) : Reader Bool := fun input =>
  if input.take expected.length = expected then some (true, input.drop expected.length)
  else some (false, input)

/-- Whether the given characters come next; they stay in place. -/
def sees (expected : List Char) : Reader Bool := fun input =>
  some (decide (input.take expected.length = expected), input)

/-- As many characters of a kind as there are. -/
def many (kind : Char → Bool) : Reader (List Char) := fun input =>
  let front := input.takeWhile kind
  some (front, input.drop front.length)

/-- Characters of a kind, one at least. -/
def some₁ (kind : Char → Bool) : Reader (List Char) := do
  match ← many kind with
  | [] => fail
  | cs => pure cs

/-- What a reader takes, or nothing if it refuses. -/
def optional {α : Type} (reader : Reader α) : Reader (Option α) := fun input =>
  match reader input with
  | some (value, rest) => some (some value, rest)
  | none => some (none, input)

/-- The first of two readers that does not refuse. -/
def either {α : Type} (first second : Reader α) : Reader α := fun input =>
  match first input with
  | some result => some result
  | none => second input

/-- A bound on the steps that each take a character of what is left. -/
def budget : Reader Nat := fun input =>
  some (input.length + 1, input)

/-- Pass over blanks. -/
def blanks : Reader Unit := do
  let _ ← many isBlank

/-- The end of a line: a line feed, which a carriage return may precede. -/
def newline : Reader Unit := do
  let _ ← skip? ['\r']
  char '\n'

/-- A comment up to the end of its line. -/
def comment : Reader Unit := do
  char '#'
  let _ ← many isComment

/-- The end of a line or of the text. -/
def lineOrTextEnd : Reader Unit := do
  match ← front with
  | none => pure ()
  | some _ => newline

/-- The rest of a line behind an item: blanks and a comment at most. -/
def lineEnd : Reader Unit := do
  blanks
  if (← front) = some '#' then comment
  lineOrTextEnd

/-- Pass over blanks, comments and line ends; each round takes a character at least. -/
def spaceFrom : Nat → Reader Unit
  | 0 => pure ()
  | fuel + 1 => do
    blanks
    match ← front with
    | some '#' =>
      comment
      newline
      spaceFrom fuel
    | some '\n' | some '\r' =>
      newline
      spaceFrom fuel
    | _ => pure ()

/-- Pass over blanks, comments and line ends. -/
def space : Reader Unit := do
  spaceFrom (← budget)

end Reader

end Toml

end ClipExchange
