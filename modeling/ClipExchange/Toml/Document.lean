import ClipExchange.Toml.Value

/-!
# TOML documents

A document is a sequence of lines: keys with their values, and headers. A header opens a table,
or one more table of an array, and the keys after it belong to that table. The open table is
kept apart from the tree and put into its place when the next header comes.

## Main definitions

* `Toml.Builder`: the tree so far, and the open table.
* `Toml.Builder.openTable`, `Toml.Builder.openItem`: what headers do.
* `Toml.parse?`: the tables of a document.
-/

namespace ClipExchange

namespace Toml

/-- The tree so far, and the table that is open. -/
structure Builder where
  root : Entries
  current : Entries
  path : List String
  isItem : Bool

namespace Builder

/-- Nothing read; the root is the open table. -/
def start : Builder :=
  ⟨[], [], [], false⟩

/-- The path of the table that holds a table, and the key in it. -/
def splitPath (path : List String) : Option (List String × String) :=
  path.getLast?.map fun last => (path.dropLast, last)

/-- Put a table in the place of a key. -/
def placeTable (table : Entries) (key : String) (_ : TableKind) (entries : Entries) :
    Option Entries :=
  some (entries.set key (.table .named table))

/-- Add a table to the array of a key. -/
def placeItem (table : Entries) (key : String) (_ : TableKind) (entries : Entries) :
    Option Entries :=
  match entries.lookup key with
  | none => some ((key, .tables [table]) :: entries)
  | some (.tables items) => some (entries.set key (.tables (table :: items)))
  | some _ => none

/-- Put the open table into its place in the tree. -/
def close (b : Builder) : Option Entries :=
  match splitPath b.path with
  | none => some b.current
  | some (parents, key) =>
    let change := if b.isItem then placeItem b.current key else placeTable b.current key
    descend false change parents .named b.root

/-- Take out the table of a key that a header is about to name. It may be there only because
headers passed through it. -/
def takeTable (key : String) (_ : TableKind) (entries : Entries) : Option Entries :=
  match entries.lookup key with
  | none => some entries
  | some (.table .passed _) => some (entries.remove key)
  | some _ => none

/-- The entries of the table at a path, if there is one. -/
def entriesAt : List String → Entries → Entries
  | [], entries => entries
  | key :: path, entries =>
    match entries.lookup key with
    | some (.table _ inner) => entriesAt path inner
    | some (.tables (last :: _)) => entriesAt path last
    | _ => []

/-- Open the table that a header names. -/
def openTable (path : List String) (b : Builder) : Option Builder := do
  let root ← b.close
  let (parents, key) ← splitPath path
  let current := entriesAt path root
  let root ← descend false (takeTable key) parents .named root
  return ⟨root, current, path, false⟩

/-- Whether a key may stand for an array of tables. -/
def checkItems (key : String) (_ : TableKind) (entries : Entries) : Option Entries :=
  match entries.lookup key with
  | none | some (.tables _) => some entries
  | some _ => none

/-- Open one more table of the array that a header names. -/
def openItem (path : List String) (b : Builder) : Option Builder := do
  let root ← b.close
  let (parents, key) ← splitPath path
  let root ← descend false (checkItems key) parents .named root
  return ⟨root, [], path, true⟩

/-- Give a key of the open table its value. -/
def add (path : List String) (key : String) (value : Node) (b : Builder) : Option Builder := do
  let current ← insertValue path key value b.current
  return { b with current := current }

end Builder

namespace Reader

/-- Accept what is there, or refuse the text. -/
def accept {α : Type} (result : Option α) : Reader α := fun input =>
  result.map fun value => (value, input)

/-- A header and the rest of its line. -/
def header (b : Builder) : Reader Builder := do
  if ← skip? ['[', '['] then
    let path ← key
    word [']', ']']
    lineEnd
    accept (b.openItem path)
  else
    char '['
    let path ← key
    char ']'
    lineEnd
    accept (b.openTable path)

/-- One line of a document. -/
def line (b : Builder) : Reader Builder := do
  match ← front with
  | some '[' => header b
  | some '#' =>
    comment
    lineOrTextEnd
    pure b
  | some '\n' | some '\r' =>
    newline
    pure b
  | _ =>
    let (path, key, value) ← keyValue
    accept (b.add path key value)

/-- Read lines up to the end of the text; each takes a character at least. -/
def linesFrom : Nat → Builder → Reader Builder
  | 0, _ => fail
  | fuel + 1, b => do
    blanks
    match ← front with
    | none => pure b
    | some _ => linesFrom fuel (← line b)

end Reader

/-- The mark that may precede a text. -/
def byteOrderMark : Char := '\ufeff'

/-- The text without the mark before it. -/
def withoutMark : List Char → List Char
  | c :: cs => if c = byteOrderMark then cs else c :: cs
  | [] => []

/-- The tables of a document. -/
def parse? (s : String) : Option Entries := do
  let input := withoutMark s.toList
  let (b, _) ← (Reader.linesFrom (input.length + 1) Builder.start).run input
  b.close

end Toml

end ClipExchange
