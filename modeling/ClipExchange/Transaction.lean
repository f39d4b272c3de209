import ClipExchange.Content
import ClipExchange.TransactionId

/-!
# Clipboard transactions

A transaction groups every representation of one clipboard event, the producer's most
preferred one first. It accumulates representations until it is read for the first time;
reading closes it, and nothing can be added to a closed transaction. A consumer takes the
first representation, in the producer's order, whose format it knows.

## Main definitions

* `Transaction`: an identifier, the representations in order, and the state.
* `Transaction.add`: append a representation to a transaction that is still open.
* `Transaction.read`, `Transaction.formats`, `Transaction.select`: the readings, each of which
  closes the transaction.
-/

namespace ClipExchange

/-- The life of a transaction: open for additions, then closed for good. -/
inductive TransactionState where
  | accumulating
  | finalized
deriving DecidableEq, Repr

/-- The name of a state. -/
def TransactionState.name : TransactionState → String
  | accumulating => "Accumulating"
  | finalized => "Finalized"

instance : ToString TransactionState :=
  ⟨TransactionState.name⟩

/-- An addition to the transaction with this identifier came after it was closed. -/
structure Closed where
  id : TransactionId
deriving DecidableEq

/-- What is said about a late addition. -/
def Closed.message (e : Closed) : String :=
  "transaction " ++ e.id.text ++ " is closed: content has already been read"

/-- One clipboard event with all its representations. -/
structure Transaction where
  id : TransactionId
  contents : List Content
  state : TransactionState
deriving DecidableEq

namespace Transaction

/-- An open transaction without content. -/
def start (id : TransactionId) : Transaction :=
  ⟨id, [], .accumulating⟩

/-- Whether the transaction is closed. -/
def isFinalized (tx : Transaction) : Bool :=
  tx.state = .finalized

/-- Whether nothing was added. -/
def isEmpty (tx : Transaction) : Bool :=
  tx.contents.isEmpty

/-- The number of representations. -/
def length (tx : Transaction) : Nat :=
  tx.contents.length

/-- The octets of all payloads together. -/
def size (tx : Transaction) : Nat :=
  tx.contents.foldr (fun content rest => content.size + rest) 0

/-- Append a representation; earlier ones of the same format stay before it. -/
def add (tx : Transaction) (content : Content) : Except Closed Transaction :=
  match tx.state with
  | .finalized => .error ⟨tx.id⟩
  | .accumulating => .ok { tx with contents := tx.contents ++ [content] }

/-- Close the transaction without reading it. -/
def finalize (tx : Transaction) : Transaction :=
  { tx with state := .finalized }

/-- Every representation in order. -/
def read (tx : Transaction) : List Content × Transaction :=
  (tx.contents, tx.finalize)

/-- The tags of the representations in order. -/
def formats (tx : Transaction) : List Format × Transaction :=
  (tx.contents.map Content.format, tx.finalize)

/-- The first representation whose format is among the supported ones. -/
def select (tx : Transaction) (supported : List Format) : Option Content × Transaction :=
  (tx.contents.find? fun content => supported.contains content.format, tx.finalize)

/-- An open transaction that holds the given representations. -/
def ofContents (id : TransactionId) (contents : List Content) : Transaction :=
  ⟨id, contents, .accumulating⟩

/-- Adding representations one by one to a fresh transaction gives the one that holds them. -/
theorem foldlM_add_start (id : TransactionId) (contents : List Content) :
    contents.foldlM add (start id) = .ok (ofContents id contents) := by
  suffices h : ∀ before, contents.foldlM add (ofContents id before) =
      .ok (ofContents id (before ++ contents)) by
    simpa [start, ofContents] using h []
  induction contents with
  | nil => simp [pure, Except.pure]
  | cons content contents ih =>
    intro before
    simp only [List.foldlM_cons]
    have := ih (before ++ [content])
    simpa [add, ofContents, bind, Except.bind] using this

end Transaction

end ClipExchange
