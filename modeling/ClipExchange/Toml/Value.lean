import ClipExchange.Toml.DateTime
import ClipExchange.Toml.Number
import ClipExchange.Toml.Table
import ClipExchange.Toml.Text

/-!
# TOML values

Lists may spread over lines and end in a comma; tables in braces may not. Either may be nested
to a certain depth.

## Main definitions

* `Toml.Reader.value`: a value of any kind.
* `Toml.Reader.keyValue`: a key with its value.
-/

namespace ClipExchange

namespace Toml

namespace Reader

/-- Read the items of a list, each with space around it; `done` came before, last one first.
Each round takes a character at least. -/
def itemsFrom (item : Reader Node) : Nat → List Node → Reader (List Node)
  | 0, _ => fail
  | fuel + 1, done => do
    space
    if ← skip? [']'] then pure done.reverse
    else
      let value ← item
      space
      if ← skip? [','] then itemsFrom item fuel (value :: done)
      else
        char ']'
        pure (value :: done).reverse

/-- A list behind its bracket. -/
def listBody (item : Reader Node) : Reader Node := do
  return .list (← itemsFrom item (← budget) [])

/-- A key that a value follows: the path and its last part. -/
def assignedKey : Reader (List String × String) := do
  let parts ← key
  char '='
  match parts.getLast? with
  | some last => pure (parts.dropLast, last)
  | none => fail

/-- Read the keys of a table in braces, each with its value; `done` came before, last one
first. Each round takes a character at least. -/
def pairsFrom (item : Reader Node) :
    Nat → List (List String × String × Node) → Reader (List (List String × String × Node))
  | 0, _ => fail
  | fuel + 1, done => do
    let (path, last) ← assignedKey
    blanks
    let value ← item
    blanks
    let done := (path, last, value) :: done
    if ← skip? [','] then pairsFrom item fuel done
    else
      char '\x7d'
      pure done.reverse

/-- A table behind its brace. -/
def tableBody (item : Reader Node) : Reader Node := do
  blanks
  let pairs ← if ← skip? ['\x7d'] then pure [] else pairsFrom item (← budget) []
  match insertAll pairs [] with
  | some entries => pure (.table .inline entries)
  | none => fail

/-- A number, a date or a time. -/
def numeral : Reader Node :=
  either ((fun () => .dateTime) <$> dateTime)
    (either ((fun () => .float) <$> float) (.integer <$> integer))

/-- A value; lists and tables are read with the given reader for their items, if they may be
there at all. -/
def valueWith (item : Option (Reader Node)) : Reader Node := do
  match ← front with
  | none => fail
  | some c =>
    if c = '"' ∨ c = singleQuote then .text <$> text c
    else if c = '[' then
      skip
      match item with
      | some item => listBody item
      | none => fail
    else if c = '\x7b' then
      skip
      match item with
      | some item => tableBody item
      | none => fail
    else if c = '+' ∨ c = '-' ∨ Decimal.isDigit c then numeral
    else if c = 't' then
      word "true".toList
      pure (.boolean true)
    else if c = 'f' then
      word "false".toList
      pure (.boolean false)
    else if c = 'i' ∨ c = 'n' then
      namedFloat
      pure .float
    else fail

/-- A value in which lists and tables are nested at most so deep. -/
def valueWithin : Nat → Reader Node
  | 0, input => valueWith none input
  | depth + 1, input => valueWith (some (valueWithin depth)) input

/-- The greatest depth to which lists and tables are nested. -/
def maxDepth : Nat := 79

/-- A value of any kind. -/
def value : Reader Node :=
  valueWithin maxDepth

/-- A key with its value, up to the end of the line. -/
def keyValue : Reader (List String × String × Node) := do
  let (path, last) ← assignedKey
  blanks
  let value ← value
  lineEnd
  pure (path, last, value)

end Reader

end Toml

end ClipExchange
