/-!
# TOML tables

A document is a tree of tables. A table comes about in one of four ways, and how it came about
decides what may still be added to it: one that a header names, or that stands in braces, is
complete; one that a header only passes through may get a header of its own later; one that a
dotted key made may be extended by further dotted keys.

## Main definitions

* `Toml.Node`: values, tables and arrays of tables.
* `Toml.TableKind`: how a table came about.
* `Toml.descend`: change the table at the end of a path.
* `Toml.insertValue`: a key with its value.
-/

namespace ClipExchange

namespace Toml

/-- How a table came about. -/
inductive TableKind where
  /-- It stands in braces. -/
  | inline
  /-- A header names it. -/
  | named
  /-- A header passes through it. -/
  | passed
  /-- A dotted key made it. -/
  | dotted
deriving DecidableEq, Repr

/-- Whether dotted keys may go through a table. -/
def TableKind.isImplicit (kind : TableKind) : Bool :=
  kind = .passed || kind = .dotted

/-- A value, a table or an array of tables. Of a float and of a date only the kind is kept. -/
inductive Node where
  | text (s : String)
  | integer (n : Int)
  | boolean (b : Bool)
  | float
  | dateTime
  | list (items : List Node)
  | table (kind : TableKind) (entries : List (String × Node))
  | tables (items : List (List (String × Node)))

/-- The entries of a table, the latest first. -/
abbrev Entries := List (String × Node)

namespace Entries

/-- The entries without one of them. -/
def remove (key : String) (entries : Entries) : Entries :=
  entries.filter fun entry => entry.1 ≠ key

/-- The entries with the value of one of them set. -/
def set (key : String) (node : Node) (entries : Entries) : Entries :=
  (key, node) :: remove key entries

end Entries

/-- Change the table at the end of a path by `change`, which is also told of what kind it is.
Tables that are missing are made on the way, and the last one of an array stands for it. -/
def descend (dotted : Bool) (change : TableKind → Entries → Option Entries) :
    List String → TableKind → Entries → Option Entries
  | [], kind, entries => change kind entries
  | key :: path, _, entries => do
    match entries.lookup key with
    | none =>
      let kind : TableKind := if dotted then .dotted else .passed
      let inner ← descend dotted change path kind []
      return (key, .table kind inner) :: entries
    | some (.table kind inner) =>
      if kind = .inline ∨ (dotted ∧ !kind.isImplicit) then none
      else
        let inner ← descend dotted change path kind inner
        return entries.set key (.table kind inner)
    | some (.tables (last :: others)) =>
      let inner ← descend dotted change path .named last
      return entries.set key (.tables (inner :: others))
    | some _ => none

/-- Give a key its value, in a table that was reached by a path. A dotted key adds only to
tables that dotted keys made, and no key gets two values. -/
def insertValue (path : List String) (key : String) (value : Node) (entries : Entries) :
    Option Entries :=
  let change (kind : TableKind) (entries : Entries) : Option Entries :=
    if !path.isEmpty && kind ≠ .dotted then none
    else
      match entries.lookup key with
      | some _ => none
      | none => some ((key, value) :: entries)
  descend true change path .named entries

/-- Insert keys in order, each with the path before it. -/
def insertAll (values : List (List String × String × Node)) (entries : Entries) :
    Option Entries :=
  values.foldlM (fun entries (path, key, value) => insertValue path key value entries) entries

end Toml

end ClipExchange
