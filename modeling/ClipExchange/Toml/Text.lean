import ClipExchange.Toml.Reader
import ClipExchange.Text.Hex

/-!
# TOML strings and keys

A basic string stands between double quotes and has escapes, a literal string stands between
single quotes and has none. Either may be on several lines when its quotes are tripled; then a
line end right behind the opening quotes is dropped, and one or two quotes may stand anywhere,
also right before the closing ones.

## Main definitions

* `Toml.Reader.text`: a string of any kind.
* `Toml.Reader.lineText`: a string on one line.
* `Toml.Reader.key`: a key, which is a path of simple keys.
-/

namespace ClipExchange

namespace Toml

/-- The quote of literal strings. -/
def singleQuote : Char := '\x27'

/-- A character that stands for itself in a string between the given quotes. -/
def isPlain (quote c : Char) : Bool :=
  isComment c && c ≠ quote && (c ≠ '\\' || quote = singleQuote)

/-- The character of a number, if there is one. -/
def charOf? (n : Nat) : Option Char :=
  if h : n.isValidChar then some (Char.ofNatAux n h) else none

/-- The number that hexadecimal digits stand for. -/
def hexValue (digits : List Char) : Nat :=
  digits.foldl (fun n c => 16 * n + (Hex.value? c).getD 0) 0

namespace Reader

/-- A character by the given count of hexadecimal digits. -/
def codePoint (count : Nat) : Reader Char := fun input =>
  let digits := input.take count
  if digits.length = count ∧ digits.all fun c => (Hex.value? c).isSome then
    (charOf? (hexValue digits)).map fun c => (c, input.drop count)
  else none

/-- The character of an escape behind its backslash. -/
def escapeBody : Reader Char := do
  let c ← satisfying fun _ => true
  if c = 'b' then pure '\x08'
  else if c = 't' then pure '\t'
  else if c = 'n' then pure '\n'
  else if c = 'f' then pure '\x0c'
  else if c = 'r' then pure '\r'
  else if c = '"' ∨ c = '\\' then pure c
  else if c = 'u' then codePoint 4
  else if c = 'U' then codePoint 8
  else fail

/-- Read a string on one line behind its opening quote; `done` came before, last character
first. Each round takes a character. -/
def lineTextFrom (quote : Char) : Nat → List Char → Reader (List Char)
  | 0, _ => fail
  | fuel + 1, done => do
    let c ← satisfying fun _ => true
    if c = quote then pure done.reverse
    else if isPlain quote c then lineTextFrom quote fuel (c :: done)
    else if c = '\\' then
      let c ← escapeBody
      lineTextFrom quote fuel (c :: done)
    else fail

/-- A string on one line. -/
def lineText (quote : Char) : Reader String := do
  char quote
  return String.ofList (← lineTextFrom quote (← budget) [])

/-- Pass over blanks and line ends; each round takes a character at least. -/
def foldFrom : Nat → Reader Unit
  | 0 => pure ()
  | fuel + 1 => do
    blanks
    let c ← front
    if c = some '\n' ∨ c = some '\r' then
      newline
      foldFrom fuel

/-- The line end behind a backslash, with all blanks and line ends after it. -/
def foldedLines : Reader Unit := do
  blanks
  newline
  foldFrom (← budget)

/-- The quotes at the front, if they may stand in a string on several lines, and whether they
close it. -/
def quoteRun (quote : Char) : Reader (List Char × Bool) := do
  let run ← many fun c => c = quote
  if run.length < 3 then pure (run, false)
  else if run.length ≤ 5 then pure (run.drop 3, true)
  else fail

/-- Read a string on several lines behind its opening quotes; `done` came before, last
character first. Each round takes a character. -/
def longTextFrom (quote : Char) : Nat → List Char → Reader (List Char)
  | 0, _ => fail
  | fuel + 1, done => do
    match ← front with
    | none => fail
    | some c =>
      if c = quote then
        let (quotes, closes) ← quoteRun quote
        if closes then pure (quotes ++ done).reverse
        else longTextFrom quote fuel (quotes ++ done)
      else if c = '\n' ∨ c = '\r' then
        newline
        longTextFrom quote fuel ('\n' :: done)
      else if isPlain quote c then
        skip
        longTextFrom quote fuel (c :: done)
      else if c = '\\' then
        skip
        match ← optional foldedLines with
        | some () => longTextFrom quote fuel done
        | none =>
          let c ← escapeBody
          longTextFrom quote fuel (c :: done)
      else fail

/-- A string on several lines. -/
def longText (quote : Char) : Reader String := do
  word (List.replicate 3 quote)
  let _ ← optional newline
  return String.ofList (← longTextFrom quote (← budget) [])

/-- A string between the given quotes, on one line or several. -/
def text (quote : Char) : Reader String := do
  if ← sees (List.replicate 3 quote) then longText quote else lineText quote

/-- A character of a key without quotes. -/
def isBare (c : Char) : Bool :=
  c.isAlphanum || c = '-' || c = '_'

/-- One part of a key. -/
def simpleKey : Reader String := do
  match ← front with
  | some '"' => lineText '"'
  | some c =>
    if c = singleQuote then lineText singleQuote
    else return String.ofList (← some₁ isBare)
  | none => fail

/-- Read the parts of a key, each with blanks around it; each takes a character at least. -/
def keyFrom : Nat → List String → Reader (List String)
  | 0, _ => fail
  | fuel + 1, done => do
    blanks
    let part ← simpleKey
    blanks
    if ← skip? ['.'] then keyFrom fuel (part :: done)
    else pure (part :: done).reverse

/-- The greatest number of parts in a key. -/
def maxKeyLength : Nat := 79

/-- A key: parts with points between them. -/
def key : Reader (List String) := do
  let parts ← keyFrom (← budget) []
  if parts.length ≤ maxKeyLength then pure parts else fail

end Reader

end Toml

end ClipExchange
