import ClipExchange.Message
import ClipExchange.Wire.Integer

/-!
# The wire form of messages

Every type that crosses a session has one written form and a reader for it. Variants are
numbered in the order of their declaration, fields follow one another. Octets after a value
are left alone. The name of a format outside the six is taken as it is: it is neither trimmed
nor brought to lower case, and no alias is looked up.

## Main definitions

* `Wire.Codec`: a type with a written form and a reader.
* instances for `Version`, `TransactionId`, `Format`, `Content` and `Message`.
* `Wire.decode`: the value at the front of a payload.
-/

namespace ClipExchange

namespace Wire

/-- A type whose values cross a session. -/
class Codec (α : Type) where
  /-- The written form of a value. -/
  put : α → Bytes
  /-- Read a value off the front. -/
  get : Decoder α

/-- The number of a variant. -/
def getVariant : Decoder Nat :=
  getInteger .u32

/-- Sixteen octets after their number. -/
def getIdentifier : Decoder TransactionId := do
  let octets ← getOctets
  match TransactionId.ofOctets? octets with
  | some id => pure id
  | none => Decoder.fail (.identifierLength octets.length)

instance : Codec TransactionId where
  put id := putOctets id.octets
  get := getIdentifier

/-- Major and minor number. -/
def getVersion : Decoder Version := do
  let major ← getInteger .u16
  let minor ← getInteger .u16
  pure ⟨UInt16.ofNat major, UInt16.ofNat minor⟩

instance : Codec Version where
  put v := putInteger v.major.toNat ++ putInteger v.minor.toNat
  get := getVersion

/-- The number of a format, and the name of one outside the six. -/
def putFormat : Format → Bytes
  | .plainText => putInteger 0
  | .html => putInteger 1
  | .richText => putInteger 2
  | .png => putInteger 3
  | .bitmap => putInteger 4
  | .fileList => putInteger 5
  | .other name => putInteger 6 ++ putText name

/-- The number of a format, and the name of one outside the six. -/
def getFormat : Decoder Format := do
  match ← getVariant with
  | 0 => pure .plainText
  | 1 => pure .html
  | 2 => pure .richText
  | 3 => pure .png
  | 4 => pure .bitmap
  | 5 => pure .fileList
  | 6 => Format.other <$> getText
  | found => Decoder.fail (.unexpectedVariant "ClipboardFormat" 6 found)

instance : Codec Format where
  put := putFormat
  get := getFormat

/-- The number of a representation's format and the payload. -/
def putContent : Content → Bytes
  | .text s => putInteger 0 ++ putText s
  | .html s => putInteger 1 ++ putText s
  | .richText s => putInteger 2 ++ putText s
  | .png data => putInteger 3 ++ putOctets data
  | .bitmap data => putInteger 4 ++ putOctets data
  | .fileList paths => putInteger 5 ++ putList putText paths
  | .other name data => putInteger 6 ++ putText name ++ putOctets data

/-- The number of a representation's format and the payload. -/
def getContent : Decoder Content := do
  match ← getVariant with
  | 0 => Content.text <$> getText
  | 1 => Content.html <$> getText
  | 2 => Content.richText <$> getText
  | 3 => Content.png <$> getOctets
  | 4 => Content.bitmap <$> getOctets
  | 5 => Content.fileList <$> getList getText
  | 6 => do
    let name ← getText
    let data ← getOctets
    pure (.other name data)
  | found => Decoder.fail (.unexpectedVariant "ClipboardContent" 6 found)

instance : Codec Content where
  put := putContent
  get := getContent

/-- The number of a message's kind, the transaction, and what else the kind carries. -/
def putMessage : Message → Bytes
  | .offer id formats sizeHint =>
    putInteger 0 ++ (Codec.put id ++ (putList putFormat formats ++ putInteger sizeHint.toNat))
  | .request id formats => putInteger 1 ++ (Codec.put id ++ putList putFormat formats)
  | .data id contents => putInteger 2 ++ (Codec.put id ++ putList putContent contents)
  | .empty id => putInteger 3 ++ Codec.put id

/-- The number of a message's kind, the transaction, and what else the kind carries. -/
def getMessage : Decoder Message := do
  match ← getVariant with
  | 0 => do
    let id ← getIdentifier
    let formats ← getList getFormat
    let sizeHint ← getInteger .u64
    pure (.offer id formats (UInt64.ofNat sizeHint))
  | 1 => do
    let id ← getIdentifier
    let formats ← getList getFormat
    pure (.request id formats)
  | 2 => do
    let id ← getIdentifier
    let contents ← getList getContent
    pure (.data id contents)
  | 3 => Message.empty <$> getIdentifier
  | found => Decoder.fail (.unexpectedVariant "ClipboardMessage" 3 found)

instance : Codec Message where
  put := putMessage
  get := getMessage

/-- The value at the front of a payload; octets after it do not matter. -/
def decode {α : Type} [Codec α] (payload : Bytes) : Except DecodeError α :=
  ((Codec.get : Decoder α).run payload).map Prod.fst

end Wire

end ClipExchange
