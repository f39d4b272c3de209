import ClipExchange.Json.Value
import ClipExchange.Message

/-!
# The JSON form of transactions and messages

Every type has a written form without blanks, and a reader that is more generous: fields may
come in any order, identifiers in any of their forms, formats under any of their names. A
format is written by its canonical name, so reading it back normalises it; the name inside a
representation of another format is kept as it is.

## Main definitions

* `Json.Codec`: a type with a JSON form.
* instances for `TransactionId`, `Format`, `Content`, `Version`, `Message`, `Closed`,
  `TransactionState` and `Transaction`.
* `Json.write`, `Json.read`: the text of a value and the value of a text.
-/

namespace ClipExchange

namespace Json

/-! ### Written forms -/

/-- A natural number. -/
def writeNatural (n : Nat) : List Char :=
  Decimal.digits n

/-- A list. -/
def writeList {α : Type} (item : α → List Char) : List α → List Char
  | [] => ['[', ']']
  | value :: values =>
    '[' :: (item value ++ (values.flatMap (fun value => ',' :: item value) ++ [']']))

/-- A field of an object. -/
def writeField (name : String) (value : List Char) : List Char :=
  writeText name ++ ':' :: value

/-- An object. -/
def writeObject : List (String × List Char) → List Char
  | [] => ['\x7b', '\x7d']
  | (name, value) :: fields =>
    '\x7b' :: (writeField name value ++
      (fields.flatMap (fun (name, value) => ',' :: writeField name value) ++ ['\x7d']))

/-- A case with its payload. -/
def writeCase (name : String) (payload : List Char) : List Char :=
  writeObject [(name, payload)]

/-! ### Records with few fields -/

/-- A record with one field. -/
def record₁ {α τ : Type} (first : String × Reader α) (make : α → τ) : Reader τ :=
  let field₁ : Field (Option α) :=
    ⟨first.1, Option.isSome, fun _ => some <$> first.2⟩
  Reader.record [field₁] none (Option.map make)

/-- A record with two fields. -/
def record₂ {α β τ : Type} (first : String × Reader α) (second : String × Reader β)
    (make : α → β → τ) : Reader τ :=
  let field₁ : Field (Option α × Option β) :=
    ⟨first.1, fun s => s.1.isSome, fun s => (fun a => (some a, s.2)) <$> first.2⟩
  let field₂ : Field (Option α × Option β) :=
    ⟨second.1, fun s => s.2.isSome, fun s => (fun b => (s.1, some b)) <$> second.2⟩
  Reader.record [field₁, field₂] (none, none) fun
    | (some a, some b) => some (make a b)
    | _ => none

/-- A record with three fields. -/
def record₃ {α β γ τ : Type} (first : String × Reader α) (second : String × Reader β)
    (third : String × Reader γ) (make : α → β → γ → τ) : Reader τ :=
  let field₁ : Field (Option α × Option β × Option γ) :=
    ⟨first.1, fun s => s.1.isSome, fun s => (fun a => (some a, s.2)) <$> first.2⟩
  let field₂ : Field (Option α × Option β × Option γ) :=
    ⟨second.1, fun s => s.2.1.isSome, fun s => (fun b => (s.1, some b, s.2.2)) <$> second.2⟩
  let field₃ : Field (Option α × Option β × Option γ) :=
    ⟨third.1, fun s => s.2.2.isSome, fun s => (fun c => (s.1, s.2.1, some c)) <$> third.2⟩
  Reader.record [field₁, field₂, field₃] (none, none, none) fun
    | (some a, some b, some c) => some (make a b c)
    | _ => none

/-! ### Types with a JSON form -/

/-- A type with a JSON form. -/
class Codec (α : Type) where
  /-- The written form of a value. -/
  write : α → List Char
  /-- Read a value. -/
  read : Reader α

/-- Octets are a list of numbers. -/
def writeOctets (data : Bytes) : List Char :=
  writeList (fun b => writeNatural b.toNat) data

/-- Octets are a list of numbers. -/
def readOctets : Reader Bytes :=
  Reader.list (UInt8.ofNat <$> Reader.natural 255)

/-- An identifier in any of its text forms. -/
def readIdentifier : Reader TransactionId := do
  match TransactionId.ofText? (← Reader.text) with
  | some id => pure id
  | none => Reader.fail .mismatch

instance : Codec TransactionId where
  write id := writeText id.text
  read := readIdentifier

/-- A format by its canonical name. -/
def writeFormat (format : Format) : List Char :=
  writeText format.name

/-- A format under any of its names. -/
def readFormat : Reader Format :=
  Format.ofText <$> Reader.text

instance : Codec Format where
  write := writeFormat
  read := readFormat

instance : Codec Version where
  write v := writeObject
    [("major", writeNatural v.major.toNat), ("minor", writeNatural v.minor.toNat)]
  read := record₂ ("major", UInt16.ofNat <$> Reader.natural 65535)
    ("minor", UInt16.ofNat <$> Reader.natural 65535) Version.mk

/-- A state by its name. -/
def readState : Reader TransactionState :=
  Reader.choice [("Accumulating", .plain .accumulating), ("Finalized", .plain .finalized)]

instance : Codec TransactionState where
  write state := writeText state.name
  read := readState

/-- The case of a representation's format, with the payload. -/
def writeContent : Content → List Char
  | .text s => writeCase "Text" (writeText s)
  | .html s => writeCase "Html" (writeText s)
  | .richText s => writeCase "RichText" (writeText s)
  | .png data => writeCase "Png" (writeOctets data)
  | .bitmap data => writeCase "Bitmap" (writeOctets data)
  | .fileList paths => writeCase "FileList" (writeList writeText paths)
  | .other name data =>
    writeCase "Other" (writeObject [("format", writeText name), ("data", writeOctets data)])

/-- The case of a representation's format, with the payload. -/
def readContent : Reader Content :=
  Reader.choice [
    ("Text", .carrying (Content.text <$> Reader.text)),
    ("Html", .carrying (Content.html <$> Reader.text)),
    ("RichText", .carrying (Content.richText <$> Reader.text)),
    ("Png", .carrying (Content.png <$> readOctets)),
    ("Bitmap", .carrying (Content.bitmap <$> readOctets)),
    ("FileList", .carrying (Content.fileList <$> Reader.list Reader.text)),
    ("Other", .carrying
      (record₂ ("format", Reader.text) ("data", readOctets) Content.other))]

instance : Codec Content where
  write := writeContent
  read := readContent

/-- The case of a message, with its transaction and what else it carries. -/
def writeMessage : Message → List Char
  | .offer id formats sizeHint =>
    writeCase "Offer" (writeObject [("transaction", writeText id.text),
      ("formats", writeList writeFormat formats), ("size_hint", writeNatural sizeHint.toNat)])
  | .request id formats =>
    writeCase "Request" (writeObject
      [("transaction", writeText id.text), ("formats", writeList writeFormat formats)])
  | .data id contents =>
    writeCase "Data" (writeObject
      [("transaction", writeText id.text), ("contents", writeList writeContent contents)])
  | .empty id => writeCase "Empty" (writeObject [("transaction", writeText id.text)])

/-- The case of a message, with its transaction and what else it carries. -/
def readMessage : Reader Message :=
  let id := ("transaction", readIdentifier)
  let formats := ("formats", Reader.list readFormat)
  Reader.choice [
    ("Offer", .carrying (record₃ id formats
      ("size_hint", UInt64.ofNat <$> Reader.natural maxWhole) Message.offer)),
    ("Request", .carrying (record₂ id formats Message.request)),
    ("Data", .carrying (record₂ id ("contents", Reader.list readContent) Message.data)),
    ("Empty", .carrying (record₁ id Message.empty))]

instance : Codec Message where
  write := writeMessage
  read := readMessage

instance : Codec Closed where
  write e := writeCase "Closed" (writeObject [("id", writeText e.id.text)])
  read := Reader.choice [("Closed", .carrying (record₁ ("id", readIdentifier) Closed.mk))]

instance : Codec Transaction where
  write tx := writeObject [("id", writeText tx.id.text),
    ("contents", writeList writeContent tx.contents), ("state", writeText tx.state.name)]
  read := record₃ ("id", readIdentifier) ("contents", Reader.list readContent)
    ("state", readState) Transaction.mk

/-- The text of a value. -/
def write {α : Type} [Codec α] (value : α) : String :=
  String.ofList (Codec.write value)

/-- The value of a text. -/
def read (α : Type) [Codec α] (s : String) : Except Fault α :=
  readAll Codec.read s

end Json

end ClipExchange
