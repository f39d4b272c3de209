import ClipExchange.Transaction

/-!
# Protocol messages

Transactions cross a session in messages. The owner of the content offers its formats, the
other side requests some of them, and the answer carries the matching representations or says
that there are none. Every message names its transaction.

## Main definitions

* `Version`: the protocol version, with `Version.current`.
* `Message`: offer, request, data and empty.
* `Transaction.offer`, `Transaction.respond`, `Transaction.data`: the messages about a
  transaction.
* `Message.toTransaction`: the transaction that a received answer carries.
-/

namespace ClipExchange

/-- A protocol version. -/
structure Version where
  major : UInt16
  minor : UInt16
deriving DecidableEq, Repr

namespace Version

/-- The version that this library speaks. -/
def current : Version :=
  ⟨0, 1⟩

/-- Major and minor number with a point between them. -/
def text (v : Version) : String :=
  toString v.major.toNat ++ "." ++ toString v.minor.toNat

end Version

/-- A message about one transaction. -/
inductive Message where
  /-- The formats of a transaction, most preferred first, and its size in octets. -/
  | offer (id : TransactionId) (formats : List Format) (sizeHint : UInt64)
  /-- Some formats of an offered transaction are wanted. -/
  | request (id : TransactionId) (formats : List Format)
  /-- Representations of a transaction in the producer's order. -/
  | data (id : TransactionId) (contents : List Content)
  /-- None of the wanted formats is available. -/
  | empty (id : TransactionId)
deriving DecidableEq

namespace Message

/-- The transaction that a message is about. -/
def id : Message → TransactionId
  | offer id _ _ | request id _ | data id _ | empty id => id

/-- The word for the kind of a message. -/
def kind : Message → String
  | offer .. => "offer"
  | request .. => "request"
  | data .. => "data"
  | empty .. => "empty"

end Message

/-- A message of a kind that carries no transaction. -/
structure UnexpectedMessage where
  kind : String
deriving DecidableEq, Repr

/-- What is said about a message that carries no transaction. -/
def UnexpectedMessage.message (e : UnexpectedMessage) : String :=
  "unexpected " ++ e.kind ++ " message"

namespace Transaction

/-- Offer every format of the transaction, which closes it. -/
def offer (tx : Transaction) : Message × Transaction :=
  (.offer tx.id tx.formats.1 (UInt64.ofNat tx.size), tx.formats.2)

/-- The whole content of the transaction as one message. -/
def data (tx : Transaction) : Message :=
  .data tx.id tx.contents

/-- Answer a request with the representations whose formats are wanted, in the transaction's
own order. This closes the transaction. -/
def respond (tx : Transaction) (requested : List Format) : Message × Transaction :=
  let (contents, tx) := tx.read
  match contents.filter fun content => requested.contains content.format with
  | [] => (.empty tx.id, tx)
  | matching => (.data tx.id matching, tx)

end Transaction

/-- The open transaction that a received answer carries. -/
def Message.toTransaction : Message → Except UnexpectedMessage Transaction
  | .data id contents => .ok (.ofContents id contents)
  | .empty id => .ok (.start id)
  | message => .error ⟨message.kind⟩

end ClipExchange
