import Mathlib
import ClipExchange.Clipboard.Memory
import ClipExchange.Proofs.Transaction.Answers

/-!
# Writes to a clipboard in memory

A write ends in one of four ways, which are looked for in this order: there is nothing to write,
there is too much, nothing is supported, or the first supported representation is applied. Only
the last one changes the clipboard. The representation that a write scans for is the one that a
consumer of the same formats selects.

## Main results

* `Transaction.checkSize_ofContents_of_lt`, `Transaction.checkSize_ofContents_of_le`: the limit on
  what a transaction is made of.
* `MemoryClipboard.firstSupported_eq_select`: scanning for a representation and selecting one.
* `MemoryClipboard.write_of_nil`, `MemoryClipboard.write_of_lt`,
  `MemoryClipboard.write_of_select_eq_none`, `MemoryClipboard.write_of_select_eq_some`.
-/

namespace ClipExchange

variable {tx : Transaction}

namespace Transaction

theorem not_isEmpty_iff : ¬ tx.isEmpty ↔ tx.contents ≠ [] := by
  rw [isEmpty, List.isEmpty_iff]

theorem checkSize_of_lt {max : Nat} (h : max < tx.size) :
    tx.checkSize max = .error (.tooLarge tx.size max) :=
  if_pos h

theorem checkSize_of_le {max : Nat} (h : tx.size ≤ max) : tx.checkSize max = .ok () :=
  if_neg (not_lt.2 h)

theorem checkSize_ofContents_of_lt (id : TransactionId) {contents : List Content} {max : Nat}
    (h : max < (contents.map Content.size).sum) :
    (ofContents id contents).checkSize max =
      .error (.tooLarge (contents.map Content.size).sum max) := by
  rw [← size_ofContents id] at h ⊢
  exact checkSize_of_lt h

theorem checkSize_ofContents_of_le (id : TransactionId) {contents : List Content} {max : Nat}
    (h : (contents.map Content.size).sum ≤ max) : (ofContents id contents).checkSize max = .ok () :=
  checkSize_of_le ((size_ofContents id contents).trans_le h)

end Transaction

namespace MemoryClipboard

open Transaction

variable {clipboard : MemoryClipboard}

/-- Scanning the representations of a transaction finds what is selected from it. -/
theorem firstSupported_eq_select (supported : List Format) (tx : Transaction) :
    firstSupported supported tx.contents = (tx.select supported).1 := by
  suffices h : ∀ contents : List Content, firstSupported supported contents =
      contents.find? fun content => supported.contains content.format from h tx.contents
  intro contents
  induction contents with
  | nil => rfl
  | cons content contents ih =>
    rw [firstSupported, ih, List.find?_cons]
    cases supported.contains content.format <;> rfl

/-- There is nothing to write. -/
theorem write_of_nil (h : tx.contents = []) : clipboard.write tx = (.ok (), clipboard) := by
  rw [write, if_pos (by rw [isEmpty, h]; rfl)]

/-- There is more than the clipboard takes. -/
theorem write_of_lt (hcontents : tx.contents ≠ []) (hsize : clipboard.maxSize < tx.size) :
    clipboard.write tx = (.error (.tooLarge tx.size clipboard.maxSize), clipboard) := by
  simp only [write, if_neg (not_isEmpty_iff.2 hcontents), checkSize_of_lt hsize]

/-- Nothing is supported. -/
theorem write_of_select_eq_none (hcontents : tx.contents ≠ []) (hsize : tx.size ≤ clipboard.maxSize)
    (hselect : (tx.select clipboard.supported).1 = none) :
    clipboard.write tx = (.error .formatUnavailable, clipboard) := by
  simp only [write, if_neg (not_isEmpty_iff.2 hcontents), checkSize_of_le hsize,
    firstSupported_eq_select, hselect]

/-- The first supported representation is applied under the identifier of the transaction. -/
theorem write_of_select_eq_some {content : Content} (hsize : tx.size ≤ clipboard.maxSize)
    (hselect : (tx.select clipboard.supported).1 = some content) :
    clipboard.write tx = (.ok (), { clipboard with
      current := [content], applied := clipboard.applied ++ [⟨tx.id, content⟩] }) := by
  have hcontents : tx.contents ≠ [] :=
    List.ne_nil_of_mem (List.mem_of_find?_eq_some hselect)
  simp only [write, if_neg (not_isEmpty_iff.2 hcontents), checkSize_of_le hsize,
    firstSupported_eq_select, hselect]

end MemoryClipboard

end ClipExchange
