import Mathlib
import ClipExchange.Clipboard.Error
import ClipExchange.Proofs.Transaction.Answers

/-!
# The life of a transaction

A transaction is used by operations in any order: additions, six operations that close it
(closing it as such, four readings and the answer to a request), and observations. What a history
of operations makes of a transaction is told by three facts: the identifier stays, the items whose
addition was accepted are behind those that were there, and the transaction is closed as soon as
one closing operation has come. From then on additions are refused, and every reading shows the
same items.

## Main definitions

* `Transaction.Operation`, `Transaction.perform`: one operation, with its answer.
* `Transaction.after`: a transaction after a history of operations.
* `Transaction.accepted`: the items whose addition a history saw accepted.
* `Transaction.Shows`: every reading shows some items.

## Main results

* `Transaction.perform_snd`, `Transaction.after_eq`: what one operation and a history make of a
  transaction.
* `Transaction.shows_contents`: the readings show what the transaction holds.
* `Transaction.lifecycle`: the life of a transaction from its start.
-/

namespace ClipExchange

namespace Transaction

/-- What can be done with a transaction. -/
inductive Operation where
  | add (content : Content)
  | finalize
  | read
  | formats
  | select (supported : List Format)
  | offer
  | respond (requested : List Format)
  | checkSize (max : Nat)
  | length
  | size
  | isEmpty
  | state
deriving DecidableEq

/-- What an operation answers. -/
inductive Answer where
  | added (outcome : Except Closed Unit)
  | closed
  | contents (contents : List Content)
  | formats (formats : List Format)
  | selected (content : Option Content)
  | message (message : Message)
  | sizeChecked (outcome : Except ClipboardError Unit)
  | number (n : Nat)
  | truth (b : Bool)
  | state (state : TransactionState)

/-- The answer to an operation, and the transaction after it. -/
def perform (tx : Transaction) : Operation → Answer × Transaction
  | .add content =>
    match tx.add content with
    | .ok tx => (.added (.ok ()), tx)
    | .error e => (.added (.error e), tx)
  | .finalize => (.closed, tx.finalize)
  | .read => (.contents tx.read.1, tx.read.2)
  | .formats => (.formats tx.formats.1, tx.formats.2)
  | .select supported => (.selected (tx.select supported).1, (tx.select supported).2)
  | .offer => (.message tx.offer.1, tx.offer.2)
  | .respond requested => (.message (tx.respond requested).1, (tx.respond requested).2)
  | .checkSize max => (.sizeChecked (tx.checkSize max), tx)
  | .length => (.number tx.length, tx)
  | .size => (.number tx.size, tx)
  | .isEmpty => (.truth tx.isEmpty, tx)
  | .state => (.state tx.state, tx)

namespace Operation

/-- The operations after which nothing can be added. -/
def closes : Operation → Bool
  | finalize | read | formats | select _ | offer | respond _ => true
  | add _ | checkSize _ | length | size | isEmpty | state => false

/-- The operations that only look. -/
def observes : Operation → Bool
  | checkSize _ | length | size | isEmpty | state => true
  | add _ | finalize | read | formats | select _ | offer | respond _ => false

end Operation

/-- The item that an operation adds, if its addition is accepted. -/
def acceptedItem (tx : Transaction) (op : Operation) : List Content :=
  match op, (tx.perform op).1 with
  | .add content, .added (.ok ()) => [content]
  | _, _ => []

/-- The transaction after a history of operations. -/
def after (tx : Transaction) (ops : List Operation) : Transaction :=
  ops.foldl (fun tx op => (tx.perform op).2) tx

/-- The items whose addition a history sees accepted, oldest first. -/
def accepted (tx : Transaction) : List Operation → List Content
  | [] => []
  | op :: ops => tx.acceptedItem op ++ (tx.perform op).2.accepted ops

/-- Every reading of a transaction shows the given items. -/
structure Shows (tx : Transaction) (contents : List Content) : Prop where
  read : (tx.perform .read).1 = .contents contents
  formats : (tx.perform .formats).1 = .formats (contents.map Content.format)
  select : ∀ supported, (tx.perform (.select supported)).1 =
    .selected (contents.find? fun content => supported.contains content.format)
  offer : (tx.perform .offer).1 = .message (.offer tx.id (contents.map Content.format)
    (UInt64.ofNat (contents.map Content.size).sum))
  respond : ∀ requested, (tx.perform (.respond requested)).1 =
    .message (if (contents.filter fun content => content.format ∈ requested) = [] then .empty tx.id
      else .data tx.id (contents.filter fun content => content.format ∈ requested))

variable {tx : Transaction} {op : Operation}

/-! ### One operation -/

theorem perform_add_of_finalized (h : tx.state = .finalized) (content : Content) :
    tx.perform (.add content) = (.added (.error ⟨tx.id⟩), tx) := by
  simp only [perform, add, h]

theorem perform_add_of_accumulating (h : tx.state = .accumulating) (content : Content) :
    tx.perform (.add content) =
      (.added (.ok ()), { tx with contents := tx.contents ++ [content] }) := by
  simp only [perform, add, h]

/-- An operation leaves the identifier, puts an item behind the others if its addition is
accepted, and closes the transaction if it is one of those that do. -/
theorem perform_snd (tx : Transaction) (op : Operation) :
    (tx.perform op).2 = ⟨tx.id, tx.contents ++ tx.acceptedItem op,
      if op.closes then .finalized else tx.state⟩ := by
  cases op with
  | add content =>
    cases h : tx.state with
    | accumulating =>
      simp [acceptedItem, perform_add_of_accumulating h, Operation.closes, h]
    | finalized =>
      simp [acceptedItem, perform_add_of_finalized h, Operation.closes, ← h]
  | finalize | read | formats | select | offer =>
    simp [acceptedItem, Operation.closes, perform, finalize, read, formats, select, offer]
  | respond requested =>
    simp [acceptedItem, Operation.closes, perform, respond_eq, finalize]
  | checkSize | length | size | isEmpty | state =>
    simp [acceptedItem, Operation.closes, perform]

/-- An operation that only looks changes nothing. -/
theorem perform_snd_of_observes (h : op.observes = true) : (tx.perform op).2 = tx := by
  cases op with
  | checkSize | length | size | isEmpty | state => rfl
  | add | finalize | read | formats | select | offer | respond => cases h

/-- The readings show what the transaction holds. -/
theorem shows_contents (tx : Transaction) : tx.Shows tx.contents where
  read := rfl
  formats := rfl
  select := fun _ => rfl
  offer := by
    simp only [perform, offer, size_eq_sum]
    rfl
  respond := fun requested => by
    simp only [perform, respond_eq, wanted]
    exact congrArg Answer.message (if_congr Iff.rfl rfl rfl)

/-! ### A history of operations -/

theorem after_append (tx : Transaction) (ops more : List Operation) :
    tx.after (ops ++ more) = (tx.after ops).after more :=
  List.foldl_append

/-- **What a history makes of a transaction.** -/
theorem after_eq (tx : Transaction) (ops : List Operation) :
    tx.after ops = ⟨tx.id, tx.contents ++ tx.accepted ops,
      if ops.any Operation.closes then .finalized else tx.state⟩ := by
  induction ops generalizing tx with
  | nil => simp [after, accepted]
  | cons op ops ih =>
    change (tx.perform op).2.after ops = _
    rw [ih, accepted, perform_snd, List.any_cons, List.append_assoc]
    cases op.closes <;> simp

/-- Nothing is added to a closed transaction. -/
theorem accepted_of_finalized (h : tx.state = .finalized) (ops : List Operation) :
    tx.accepted ops = [] := by
  induction ops generalizing tx with
  | nil => rfl
  | cons op ops ih =>
    have hitem : tx.acceptedItem op = [] := by
      cases op with
      | add content => simp [acceptedItem, perform_add_of_finalized h]
      | _ => rfl
    have hstate : (tx.perform op).2.state = .finalized := by
      rw [perform_snd, h]
      exact ite_self _
    rw [accepted, hitem, ih hstate, List.append_nil]

/-- A history of a closed transaction leaves it as it is. -/
theorem after_of_finalized (h : tx.state = .finalized) (ops : List Operation) :
    tx.after ops = tx := by
  rw [after_eq, accepted_of_finalized h, List.append_nil, h, ite_self, ← h]

/-- **The life of a transaction.** After any history of a transaction from its start: the identifier
is the one it was started with, the transaction holds exactly the items whose addition was accepted,
in order and with repetitions, and it is closed if and only if a closing operation has come. An
addition is accepted if none has come, and otherwise refused under the identifier of the
transaction, which stays as it is. An operation that only looks changes nothing. Every reading shows
the items accepted so far, and after a closing operation every later reading shows the same ones,
whatever is done in between. -/
theorem lifecycle (id : TransactionId) (ops : List Operation) :
    ((start id).after ops).id = id ∧
    ((start id).after ops).contents = (start id).accepted ops ∧
    ((start id).after ops).state =
      (if ∃ op ∈ ops, op.closes then .finalized else .accumulating) ∧
    (∀ content, if ∃ op ∈ ops, op.closes then
        ((start id).after ops).perform (.add content) =
          (.added (.error ⟨id⟩), (start id).after ops)
      else (((start id).after ops).perform (.add content)).1 = .added (.ok ())) ∧
    (∀ op : Operation, op.observes →
      (((start id).after ops).perform op).2 = (start id).after ops) ∧
    ((start id).after ops).Shows ((start id).accepted ops) ∧
    ((∃ op ∈ ops, op.closes) → ∀ more, (start id).after (ops ++ more) = (start id).after ops ∧
      ((start id).after (ops ++ more)).Shows ((start id).accepted ops)) := by
  have hafter := after_eq (start id) ops
  have hid : ((start id).after ops).id = id := by rw [hafter]; rfl
  have hcontents : ((start id).after ops).contents = (start id).accepted ops := by
    rw [hafter]
    exact List.nil_append _
  have hstate : ((start id).after ops).state =
      if ∃ op ∈ ops, op.closes then .finalized else .accumulating := by
    rw [hafter]
    exact if_congr List.any_eq_true rfl rfl
  have hshows := shows_contents ((start id).after ops)
  rw [hcontents] at hshows
  refine ⟨hid, hcontents, hstate, fun content => ?_, fun op => perform_snd_of_observes, hshows,
    fun hclosed more => ?_⟩
  · split_ifs with hclosed
    · rw [if_pos hclosed] at hstate
      rw [perform_add_of_finalized hstate, hid]
    · rw [if_neg hclosed] at hstate
      rw [perform_add_of_accumulating hstate]
  · rw [if_pos hclosed] at hstate
    rw [after_append, after_of_finalized hstate]
    exact ⟨rfl, hshows⟩

/-- A text is added, its size is looked at, the formats are read, and another text comes late. -/
def lateAddition : List Operation :=
  [.add (.text "draft"), .size, .formats, .add (.text "late")]

/-- The late text is refused, and every later reading shows the first one alone. -/
theorem lifecycle_lateAddition :
    (∃ op ∈ lateAddition, op.closes) ∧
    ((start (.ofNat 7)).after lateAddition).contents = [.text "draft"] ∧
    ((start (.ofNat 7)).after lateAddition).perform (.add (.text "later")) =
      (.added (.error ⟨.ofNat 7⟩), (start (.ofNat 7)).after lateAddition) ∧
    (((start (.ofNat 7)).after lateAddition).perform .isEmpty).2 =
      (start (.ofNat 7)).after lateAddition ∧
    ∀ more, ((start (.ofNat 7)).after (lateAddition ++ more)).Shows [.text "draft"] := by
  have hclosed : ∃ op ∈ lateAddition, op.closes := ⟨.formats, by decide, rfl⟩
  obtain ⟨-, hcontents, -, hadd, hobserve, -, hlater⟩ := lifecycle (.ofNat 7) lateAddition
  refine ⟨hclosed, hcontents, ?_, hobserve .isEmpty rfl, fun more => (hlater hclosed more).2⟩
  have hrefused := hadd (.text "later")
  rwa [if_pos hclosed] at hrefused

end Transaction

end ClipExchange
