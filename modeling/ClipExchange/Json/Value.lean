import ClipExchange.Json.Skip

/-!
# JSON values of known types

A value is read as one of a type that is known beforehand, without a tree in between. A record
is an object with its fields in any order, each of them once, other fields aside; or a list of
its fields in order. A choice is the name of one of its cases, or an object whose only field is
that name with the payload as its value.

## Main definitions

* `Json.Reader.natural`, `Json.Reader.text`, `Json.Reader.list`: plain values.
* `Json.Field`, `Json.Reader.record`: records.
* `Json.Case`, `Json.Reader.choice`: choices.
-/

namespace ClipExchange

namespace Json

namespace Reader

/-- The first character of a value after blanks. -/
def begin : Reader Char := do
  match ← peek with
  | none => fail .incomplete
  | some c => pure c

/-- A natural number up to a greatest one. -/
def natural (max : Nat) : Reader Nat := do
  let c ← begin
  if c = '-' then
    skip
    let _ ← number
    fail .mismatch
  else if Decimal.isDigit c then
    match ← number with
    | some n => if n ≤ max then pure n else fail .mismatch
    | none => fail .mismatch
  else wrongType c

/-- A string. -/
def text : Reader String := do
  let c ← begin
  if c = '"' then
    skip
    textBody
  else wrongType c

/-- The value that stands for nothing. -/
def nothing : Reader Unit := do
  let c ← begin
  if c = 'n' then word "null".toList else wrongType c

/-- Whether another item of a list follows; the comma before it is dropped. -/
def hasItem (isFirst : Bool) : Reader Bool := do
  match ← peek with
  | none => fail .incomplete
  | some c =>
    if c = ']' then pure false
    else if isFirst then pure true
    else if c = ',' then
      skip
      match ← peek with
      | none => fail .incomplete
      | some d => if d = ']' then fail .malformed else pure true
    else fail .malformed

/-- Read the items of a list; `done` came before, last one first. Each takes a character at
least. -/
def itemsFrom {α : Type} (item : Reader α) : Nat → List α → Reader (List α)
  | 0, _ => fail .incomplete
  | fuel + 1, done => do
    if ← hasItem done.isEmpty then
      let value ← item
      itemsFrom item fuel (value :: done)
    else pure done.reverse

/-- Read the items of a list behind its bracket. -/
def items {α : Type} (item : Reader α) : Reader (List α) := fun input =>
  itemsFrom item (input.length + 1) [] input

/-- A list. -/
def list {α : Type} (item : Reader α) : Reader (List α) := do
  let c ← begin
  if c = '[' then
    skip
    let values ← items item
    mark ']'
    pure values
  else wrongType c

/-- Whether another field of an object follows. The comma before it and the quote of its name
are dropped. -/
def hasField (isFirst : Bool) : Reader Bool := do
  match ← peek with
  | none => fail .incomplete
  | some c =>
    if c = '\x7d' then pure false
    else if isFirst then
      mark '"'
      pure true
    else
      mark ','
      mark '"'
      pure true

end Reader

/-- A field of a record that is being read. -/
structure Field (σ : Type) where
  name : String
  isFilled : σ → Bool
  fill : σ → Reader σ

namespace Reader

/-- Read the field with the given name; one that no field has is passed over. -/
def oneField {σ : Type} (fields : List (Field σ)) (name : String) (record : σ) : Reader σ :=
  match fields.find? fun field => field.name == name with
  | none => do
    mark ':'
    skipValue
    pure record
  | some field =>
    if field.isFilled record then fail .mismatch
    else do
      mark ':'
      field.fill record

/-- Read the fields of an object; each takes a character at least. -/
def fieldsFrom {σ : Type} (fields : List (Field σ)) : Nat → Bool → σ → Reader σ
  | 0, _, _ => fail .incomplete
  | fuel + 1, isFirst, record => do
    if ← hasField isFirst then
      let name ← textBody
      let record ← oneField fields name record
      fieldsFrom fields fuel false record
    else pure record

/-- Read the fields of an object behind its bracket. -/
def objectFields {σ : Type} (fields : List (Field σ)) (blank : σ) : Reader σ := fun input =>
  fieldsFrom fields (input.length + 1) true blank input

/-- Read the fields of a record that is written as a list. -/
def listFields {σ : Type} : List (Field σ) → Bool → σ → Reader σ
  | [], _, record => pure record
  | field :: fields, isFirst, record => do
    if ← hasItem isFirst then
      let record ← field.fill record
      listFields fields false record
    else fail .mismatch

/-- The record, if every field is filled. -/
def complete {σ α : Type} (finish : σ → Option α) (record : σ) : Reader α :=
  match finish record with
  | some value => pure value
  | none => fail .mismatch

/-- A record in either form. -/
def record {σ α : Type} (fields : List (Field σ)) (blank : σ) (finish : σ → Option α) :
    Reader α := do
  let c ← begin
  if c = '[' then
    skip
    let value ← complete finish (← listFields fields true blank)
    match ← peek with
    | none => fail .incomplete
    | some c => if c = ']' then skip else fail .malformed
    pure value
  else if c = '\x7b' then
    skip
    let value ← complete finish (← objectFields fields blank)
    mark '\x7d'
    pure value
  else wrongType c

end Reader

/-- A case of a choice: a name alone, or a name with a payload. -/
inductive Case (α : Type) where
  | plain (value : α)
  | carrying (payload : Reader α)

namespace Reader

/-- The case with the name that stands next, which has to be a string. -/
def caseName {α : Type} (cases : List (String × Case α)) : Reader (Case α) := do
  mark '"'
  let name ← textBody
  match cases.lookup name with
  | some case => pure case
  | none => fail .mismatch

/-- The value of a case whose name stands alone. -/
def Case.alone {α : Type} : Case α → Reader α
  | .plain value => pure value
  | .carrying _ => fail .mismatch

/-- The value of a case in an object. -/
def Case.inObject {α : Type} : Case α → Reader α
  | .plain value => do
    nothing
    pure value
  | .carrying payload => payload

/-- A choice between named cases. -/
def choice {α : Type} (cases : List (String × Case α)) : Reader α := do
  let c ← begin
  if c = '"' then
    Case.alone (← caseName cases)
  else if c = '\x7b' then
    skip
    let case ← caseName cases
    mark ':'
    let value ← Case.inObject case
    mark '\x7d'
    pure value
  else fail .malformed

end Reader

/-- The value of a whole text, with nothing but blanks around it. -/
def readAll {α : Type} (reader : Reader α) (s : String) : Except Fault α := do
  let (value, rest) ← reader.run s.toList
  if (rest.dropWhile isBlank).isEmpty then return value else .error .malformed

end Json

end ClipExchange
