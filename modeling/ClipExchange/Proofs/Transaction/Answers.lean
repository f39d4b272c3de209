import Mathlib
import ClipExchange.Message

/-!
# Answers to a request

The answer to a request holds the wanted representations in the transaction's own order, and the
transaction rebuilt from it holds nothing else. Selecting from the rebuilt transaction is
therefore selecting from the whole one with both lists of formats at once.

## Main definitions

* `Transaction.Prefers`: the representation that is selected.
* `Transaction.wanted`: the representations whose formats are requested.

## Main results

* `Transaction.toTransaction_respond`: the transaction rebuilt from an answer.
* `Transaction.select_wanted_of_append`: the representation selected from an answer.
-/

namespace ClipExchange

namespace Transaction

variable {tx : Transaction} {requested supported : List Format} {item : Content}

/-- The total size is the sum of the sizes. -/
theorem size_eq_sum (tx : Transaction) : tx.size = (tx.contents.map Content.size).sum := by
  rw [size, List.sum_eq_foldr, List.foldr_map]

theorem size_ofContents (id : TransactionId) (contents : List Content) :
    (ofContents id contents).size = (contents.map Content.size).sum :=
  size_eq_sum _

/-! ### Selecting -/

theorem select_eq_some_of_append {before after : List Content}
    (hcontents : tx.contents = before ++ item :: after) (hitem : item.format ∈ supported)
    (hbefore : ∀ other ∈ before, other.format ∉ supported) :
    (tx.select supported).1 = some item := by
  refine List.find?_eq_some_iff_append.2 ⟨by simpa using hitem, before, after, hcontents, ?_⟩
  intro other hother
  simpa using hbefore other hother

theorem select_eq_none (h : ∀ item ∈ tx.contents, item.format ∉ supported) :
    (tx.select supported).1 = none := by
  refine List.find?_eq_none.2 fun item hitem => ?_
  simpa using h item hitem

/-- An item is the first one of a transaction whose format is supported. -/
def Prefers (tx : Transaction) (supported : List Format) (item : Content) : Prop :=
  ∃ before after, tx.contents = before ++ item :: after ∧ item.format ∈ supported ∧
    ∀ other ∈ before, other.format ∉ supported

theorem select_eq_some_iff : (tx.select supported).1 = some item ↔ tx.Prefers supported item := by
  constructor
  · intro h
    obtain ⟨hitem, before, after, hcontents, hbefore⟩ := List.find?_eq_some_iff_append.1 h
    refine ⟨before, after, hcontents, by simpa using hitem, fun other hother => ?_⟩
    simpa using hbefore other hother
  · rintro ⟨before, after, hcontents, hitem, hbefore⟩
    exact select_eq_some_of_append hcontents hitem hbefore

theorem select_eq_none_iff :
    (tx.select supported).1 = none ↔ ∀ item ∈ tx.contents, item.format ∉ supported := by
  refine ⟨fun h item hitem => ?_, select_eq_none⟩
  simpa using List.find?_eq_none.1 h item hitem

/-! ### Answering -/

/-- The representations whose formats are requested, in the transaction's own order. -/
def wanted (tx : Transaction) (requested : List Format) : List Content :=
  tx.contents.filter fun item => item.format ∈ requested

theorem mem_wanted : item ∈ tx.wanted requested ↔
    item ∈ tx.contents ∧ item.format ∈ requested := by
  simp [wanted]

theorem wanted_eq_nil_iff : tx.wanted requested = [] ↔
    ∀ item ∈ tx.contents, item.format ∉ requested := by
  simp [wanted]

theorem respond_eq (tx : Transaction) (requested : List Format) :
    tx.respond requested =
      (if tx.wanted requested = [] then .empty tx.id else .data tx.id (tx.wanted requested),
        tx.finalize) := by
  have hwanted : (tx.contents.filter fun item => requested.contains item.format) =
      tx.wanted requested := by
    simp [wanted]
  simp only [respond, read, hwanted]
  cases tx.wanted requested <;> rfl

theorem respond_eq_data_iff {items : List Content} : (tx.respond requested).1 = .data tx.id items ↔
    items = tx.wanted requested ∧ items ≠ [] := by
  rw [respond_eq]
  split_ifs with hwanted
  · simp [hwanted]
  · rw [Message.data.injEq]
    constructor
    · rintro ⟨-, rfl⟩
      exact ⟨rfl, hwanted⟩
    · rintro ⟨rfl, -⟩
      exact ⟨rfl, rfl⟩

/-- Where nothing has a requested format nothing is found. -/
theorem nothing_found (h : ∀ item ∈ tx.contents, item.format ∉ requested) :
    (tx.select requested).1 = none ∧ (tx.respond requested).1 = .empty tx.id := by
  refine ⟨select_eq_none h, ?_⟩
  rw [respond_eq, if_pos (wanted_eq_nil_iff.2 h)]

/-- The transaction rebuilt from an answer is open and holds the wanted representations. -/
theorem toTransaction_respond (tx : Transaction) (requested : List Format) :
    (tx.respond requested).1.toTransaction = .ok (ofContents tx.id (tx.wanted requested)) := by
  rw [respond_eq]
  split_ifs with h
  · rw [h]
    rfl
  · rfl

/-! ### Selecting from an answer -/

/-- The first representation in both lists of formats is selected from the answer. -/
theorem select_wanted_of_append {before after : List Content}
    (hcontents : tx.contents = before ++ item :: after) (hrequested : item.format ∈ requested)
    (hsupported : item.format ∈ supported)
    (hbefore : ∀ other ∈ before, other.format ∈ requested → other.format ∉ supported) :
    ((ofContents tx.id (tx.wanted requested)).select supported).1 = some item := by
  have hwanted : tx.wanted requested =
      (before.filter fun other => other.format ∈ requested) ++
        item :: after.filter fun other => other.format ∈ requested := by
    rw [wanted, hcontents, List.filter_append, List.filter_cons_of_pos (by simpa using hrequested)]
  refine select_eq_some_of_append hwanted hsupported fun other hother => ?_
  obtain ⟨hmem, hother⟩ := List.mem_filter.1 hother
  exact hbefore other hmem (by simpa using hother)

end Transaction

end ClipExchange
