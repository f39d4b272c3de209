import Mathlib
import ClipExchange.Proofs.Transaction.Answers

/-!
# Laws of offers, answers and rebuilt transactions

An offer, the answer to a request, a selection and the transaction that is rebuilt from an answer
all speak of the same items in the same order: those of the transaction, or those of them whose
formats are requested. A rebuilt transaction can be asked again, and asking in two steps is asking
once for the formats that both requests name.

## Main definitions

* `Message.items`: the items that a message carries.
* `Transaction.Offers`: what an offer says of a transaction.
* `Transaction.Answers`: what an answer holds.

## Main results

* `Transaction.offers_offer`, `Transaction.answers_respond`: what is offered and answered.
* `Transaction.respond_congr`, `Transaction.respond_of_covers`: what a request makes a difference
  to.
* `Transaction.respond_wanted`: asking in two steps.
* `Transaction.exchange_laws`: all laws of one transaction and one request.
-/

namespace ClipExchange

namespace Message

/-- The items that a message carries. -/
def items : Message → List Content
  | data _ contents => contents
  | offer .. | request .. | empty _ => []

/-- No transaction can be rebuilt from an offer or a request, and the refusal names which. -/
theorem toTransaction_eq_error_iff {message : Message} {e : UnexpectedMessage} :
    message.toTransaction = .error e ↔
      (∃ id formats sizeHint, message = .offer id formats sizeHint ∧ e = ⟨"offer"⟩) ∨
        ∃ id formats, message = .request id formats ∧ e = ⟨"request"⟩ := by
  cases message with
  | offer | request => simp [toTransaction, kind, eq_comm]
  | data | empty => simp [toTransaction]

/-- A rebuilt transaction is what comes of adding the items of the message, one by one in order, to
a fresh transaction under its identifier. -/
theorem toTransaction_eq_ok {message : Message} {rebuilt : Transaction}
    (h : message.toTransaction = .ok rebuilt) :
    rebuilt = ⟨message.id, message.items, .accumulating⟩ ∧
      message.items.foldlM Transaction.add (.start message.id) = .ok rebuilt := by
  have hadd := Transaction.foldlM_add_start message.id message.items
  cases message with
  | offer | request => cases h
  | data | empty =>
    obtain rfl := Except.ok.inj h
    exact ⟨rfl, hadd⟩

end Message

namespace Transaction

variable {tx : Transaction} {requested same : List Format}

/-! ### Offering -/

/-- What an offer says of a transaction: the tag of every item, at the place of the item, and the
size of all items together as a number of sixty-four bits. -/
structure Offers (tx : Transaction) (formats : List Format) (sizeHint : UInt64) : Prop where
  length : formats.length = tx.length
  tag : ∀ (i : Nat) (item : Content), tx.contents[i]? = some item → formats[i]? = some item.format
  size : sizeHint = UInt64.ofNat tx.size

theorem offers_offer (tx : Transaction) :
    tx.Offers (tx.contents.map Content.format) (UInt64.ofNat tx.size) where
  length := List.length_map _
  tag i item hitem := by rw [List.getElem?_map, hitem, Option.map_some]
  size := rfl

/-- A size that is a number of sixty-four bits is offered as it is. -/
theorem Offers.toNat_sizeHint {formats : List Format} {sizeHint : UInt64}
    (h : tx.Offers formats sizeHint) (hsize : tx.size < 2 ^ 64) : sizeHint.toNat = tx.size := by
  rw [h.size, UInt64.toNat_ofNat_of_lt' hsize]

/-! ### Answering -/

/-- What an answer holds: exactly the items with a requested format, in the order of the
transaction and as often as they are there. Where there are none it is empty, and otherwise it
carries them under the identifier of the transaction. -/
structure Answers (tx : Transaction) (requested : List Format) (answer : Message) : Prop where
  items : answer.items = tx.contents.filter fun item => item.format ∈ requested
  empty : answer = .empty tx.id ↔ ∀ item ∈ tx.contents, item.format ∉ requested
  data : answer ≠ .empty tx.id → answer = .data tx.id answer.items

theorem items_respond (tx : Transaction) (requested : List Format) :
    (tx.respond requested).1.items = tx.wanted requested := by
  rw [respond_eq]
  split_ifs with h
  · exact h.symm
  · rfl

theorem respond_eq_empty_iff :
    (tx.respond requested).1 = .empty tx.id ↔ ∀ item ∈ tx.contents, item.format ∉ requested := by
  rw [respond_eq, ← wanted_eq_nil_iff]
  split_ifs with h <;> simp [h]

theorem answers_respond (tx : Transaction) (requested : List Format) :
    tx.Answers requested (tx.respond requested).1 where
  items := items_respond tx requested
  empty := respond_eq_empty_iff
  data h := by
    rw [items_respond, respond_eq_data_iff]
    exact ⟨rfl, fun hnil => h (respond_eq_empty_iff.2 (wanted_eq_nil_iff.1 hnil))⟩

/-- Lists that name the same formats ask for the same items. -/
theorem wanted_congr (h : ∀ format, format ∈ same ↔ format ∈ requested) :
    tx.wanted same = tx.wanted requested :=
  List.filter_congr fun item _ => decide_eq_decide.2 (h item.format)

theorem respond_congr (h : ∀ format, format ∈ same ↔ format ∈ requested) :
    tx.respond same = tx.respond requested := by
  rw [respond_eq, respond_eq, wanted_congr h]

/-- A request for every format of a transaction that is not empty is answered by all of it. -/
theorem respond_of_covers (hcontents : tx.contents ≠ [])
    (hcovers : tx.contents.map Content.format ⊆ requested) :
    (tx.respond requested).1 = tx.data := by
  have hwanted : tx.wanted requested = tx.contents :=
    List.filter_eq_self.2 fun item hitem =>
      decide_eq_true (hcovers (List.mem_map_of_mem hitem))
  exact respond_eq_data_iff.2 ⟨hwanted.symm, hcontents⟩

/-- What is wanted is no larger than what there is. -/
theorem sum_size_wanted_le (tx : Transaction) (requested : List Format) :
    ((tx.wanted requested).map Content.size).sum ≤ tx.size := by
  rw [size_eq_sum]
  exact (List.filter_sublist.map Content.size).sum_le_sum fun _ _ => Nat.zero_le _

theorem select_eq_head?_wanted (tx : Transaction) (requested : List Format) :
    (tx.select requested).1 = (tx.wanted requested).head? := by
  rw [wanted, List.head?_filter]
  simp [select]

/-! ### Asking again -/

/-- Of the wanted items, those whose formats are wanted again are those whose formats both requests
name. -/
theorem wanted_wanted (tx : Transaction) (requested more : List Format) :
    (ofContents tx.id (tx.wanted requested)).wanted more =
      tx.wanted (requested.filter fun format => format ∈ more) := by
  simp only [wanted, ofContents, List.filter_filter]
  refine List.filter_congr fun item _ => ?_
  simp [Bool.and_comm]

/-- **Asking in two steps is asking once.** -/
theorem respond_wanted (tx : Transaction) (requested more : List Format) :
    ((ofContents tx.id (tx.wanted requested)).respond more).1 =
      (tx.respond (requested.filter fun format => format ∈ more)).1 := by
  rw [respond_eq, respond_eq, wanted_wanted]
  rfl

/-- **The laws of an exchange.** The offer lists the tag of every item at its place and gives the
size of all items together. The answer to a request holds exactly the items with a requested format;
it depends on the set of these formats only, its items are together no larger than was offered, and
it is the whole content if there is one and every offered format is requested. Selecting by the same
formats gives its first item, and none exactly if the answer is empty. A transaction can be rebuilt
from every message but an offer and a request, and it is the open one that holds the items of the
message under its identifier. Answering from the transaction that is rebuilt from an answer is
answering a request for the formats that both requests name. -/
theorem exchange_laws (tx : Transaction) (requested : List Format) :
    (∃ formats sizeHint, tx.offer.1 = .offer tx.id formats sizeHint ∧
      tx.Offers formats sizeHint ∧
      (tx.size < 2 ^ 64 → sizeHint.toNat = tx.size ∧
        ((tx.respond requested).1.items.map Content.size).sum ≤ sizeHint.toNat) ∧
      (tx.contents ≠ [] → formats ⊆ requested → (tx.respond requested).1 = tx.data)) ∧
    tx.Answers requested (tx.respond requested).1 ∧
    (∀ same, (∀ format, format ∈ same ↔ format ∈ requested) →
      tx.respond same = tx.respond requested) ∧
    (tx.select requested).1 = (tx.respond requested).1.items.head? ∧
    ((tx.select requested).1 = none ↔ (tx.respond requested).1 = .empty tx.id) ∧
    (∀ (message : Message) (e : UnexpectedMessage), message.toTransaction = .error e ↔
      (∃ id formats sizeHint, message = .offer id formats sizeHint ∧ e = ⟨"offer"⟩) ∨
        ∃ id formats, message = .request id formats ∧ e = ⟨"request"⟩) ∧
    (∀ (message : Message) (rebuilt : Transaction), message.toTransaction = .ok rebuilt →
      rebuilt = ⟨message.id, message.items, .accumulating⟩ ∧
        message.items.foldlM add (start message.id) = .ok rebuilt) ∧
    ∀ more, ∃ rebuilt, (tx.respond requested).1.toTransaction = .ok rebuilt ∧
      (rebuilt.respond more).1 =
        (tx.respond (requested.filter fun format => format ∈ more)).1 := by
  have hoffers := tx.offers_offer
  refine ⟨⟨_, _, rfl, hoffers, fun hsize => ?_, respond_of_covers⟩, tx.answers_respond requested,
    fun same => respond_congr, ?_, ?_, fun _ _ => Message.toTransaction_eq_error_iff,
    fun _ _ => Message.toTransaction_eq_ok, fun more => ?_⟩
  · rw [hoffers.toNat_sizeHint hsize, items_respond]
    exact ⟨rfl, tx.sum_size_wanted_le requested⟩
  · rw [items_respond, select_eq_head?_wanted]
  · rw [select_eq_none_iff, respond_eq_empty_iff]
  · exact ⟨_, tx.toTransaction_respond requested, tx.respond_wanted requested more⟩

/-- An image, a note as text and as a page, and the text once more. -/
def sketch : Transaction :=
  ⟨.ofNat 7, [.png [1, 2], .text "note", .html "<p>note</p>", .text "note"], .accumulating⟩

/-- All of it is requested, in whatever order, and then plain text of what was answered. -/
theorem exchange_laws_sketch :
    sketch.size < 2 ^ 64 ∧ sketch.contents ≠ [] ∧
    (sketch.respond [.html, .plainText, .png]).1 = sketch.data ∧
    sketch.respond [.png, .html, .plainText] = sketch.respond [.html, .plainText, .png] ∧
    ∃ rebuilt, (sketch.respond [.html, .plainText, .png]).1.toTransaction = .ok rebuilt ∧
      rebuilt = ⟨.ofNat 7, sketch.contents, .accumulating⟩ ∧
      (rebuilt.respond [.bitmap, .plainText]).1 =
        .data (.ofNat 7) [.text "note", .text "note"] := by
  have hcontents : sketch.contents ≠ [] := List.cons_ne_nil _ _
  have hsame : ∀ format : Format, format ∈ [Format.png, .html, .plainText] ↔
      format ∈ [Format.html, .plainText, .png] := by
    intro format
    simp only [List.mem_cons, List.not_mem_nil, or_false]
    tauto
  obtain ⟨⟨formats, _, hoffer, -, -, hwhole⟩, -, hcongr, -, -, -, hrebuilt, hagain⟩ :=
    exchange_laws sketch [.html, .plainText, .png]
  obtain ⟨rfl, -⟩ := (Message.offer.inj hoffer).2
  have hdata := hwhole hcontents (by decide)
  obtain ⟨rebuilt, hok, hanswer⟩ := hagain [.bitmap, .plainText]
  obtain ⟨heq, -⟩ := hrebuilt _ rebuilt hok
  rw [hdata] at heq
  exact ⟨by decide, hcontents, hdata, hcongr _ hsame, rebuilt, hok, heq, hanswer⟩

end Transaction

end ClipExchange
