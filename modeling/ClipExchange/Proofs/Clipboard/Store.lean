import Mathlib
import ClipExchange.Proofs.Clipboard.Sessions

/-!
# What a clipboard in memory stores

A clipboard is used by copies, writes, reads and observations in any order, and is watched at the
same time. What it holds is told by the history: the writes that were applied are recorded in
order, each under the identifier of its transaction and with the first item that is supported, and
the content is what the latest copy or applied write has put there. A write that is refused, or
that has nothing to write, leaves no trace. A read hands out the content in a fresh transaction.

Copies may hold more than a read hands out. What a write applied is never too large, since one item
is not larger than the transaction that it comes from.

## Main definitions

* `ClipboardSession.appliedWrite`, `ClipboardSession.placing`: the writes that are applied, and the
  operations that put something on the clipboard.
* `ClipboardSession.Leaves`: what such an operation leaves there.

## Main results

* `MemoryClipboard.write_cases`: the four ways in which a write ends.
* `ClipboardSession.applied_after`, `ClipboardSession.leaves_after`: the records and the content
  after a history.
* `ClipboardSession.store_history`: everything that is stored and read in a history.
-/

namespace ClipExchange

open Transaction

namespace MemoryClipboard

/-- **A write ends in one of four ways.** -/
theorem write_cases (clipboard : MemoryClipboard) (tx : Transaction) :
    (tx.contents = [] ∧ clipboard.write tx = (.ok (), clipboard)) ∨
    (tx.contents ≠ [] ∧ clipboard.maxSize < tx.size ∧
      clipboard.write tx = (.error (.tooLarge tx.size clipboard.maxSize), clipboard)) ∨
    (tx.contents ≠ [] ∧ tx.size ≤ clipboard.maxSize ∧
      (∀ item ∈ tx.contents, item.format ∉ clipboard.supported) ∧
      clipboard.write tx = (.error .formatUnavailable, clipboard)) ∨
    (tx.contents ≠ [] ∧ tx.size ≤ clipboard.maxSize ∧
      ∃ item, tx.Prefers clipboard.supported item ∧
        clipboard.write tx = (.ok (), { clipboard with
          current := [item], applied := clipboard.applied ++ [⟨tx.id, item⟩] })) := by
  by_cases hcontents : tx.contents = []
  · exact .inl ⟨hcontents, write_of_nil hcontents⟩
  by_cases hsize : clipboard.maxSize < tx.size
  · exact .inr (.inl ⟨hcontents, hsize, write_of_lt hcontents hsize⟩)
  have hsize := not_lt.1 hsize
  cases hselect : (tx.select clipboard.supported).1 with
  | none =>
    exact .inr (.inr (.inl ⟨hcontents, hsize, select_eq_none_iff.1 hselect,
      write_of_select_eq_none hcontents hsize hselect⟩))
  | some item =>
    exact .inr (.inr (.inr ⟨hcontents, hsize, item, select_eq_some_iff.1 hselect,
      write_of_select_eq_some hsize hselect⟩))

end MemoryClipboard

namespace ClipboardSession

open MemoryClipboard

/-- The transaction of a write that is applied: it has content, and the write succeeds. -/
def appliedWrite (s : ClipboardSession) (op : Operation) : List Transaction :=
  match op, (s.perform op).1 with
  | .write tx, .written (.ok ()) => if tx.isEmpty then [] else [tx]
  | _, _ => []

/-- An operation that puts something on the clipboard: a copy, or a write that is applied. -/
def placing (s : ClipboardSession) (op : Operation) : List Operation :=
  match op with
  | .copy contents => [.copy contents]
  | op => (s.appliedWrite op).map .write

/-- The operations that may change what is stored. -/
def Operation.stores : Operation → Bool
  | copy _ | write _ => true
  | read | formats | current | applied | watch | poll _ | unwatch _ | close => false

/-- What the latest operation that put something on a clipboard leaves there. -/
def Leaves (supported : List Format) : Option Operation → List Content → Prop
  | none, current => current = []
  | some (.copy contents), current => current = contents
  | some (.write tx), current => ∃ item, tx.Prefers supported item ∧ current = [item]
  | some _, _ => False

/-- A record tells the identifier of a transaction and its first item that is supported. -/
def Records (supported : List Format) (tx : Transaction) (record : AppliedItem) : Prop :=
  record.id = tx.id ∧ tx.Prefers supported record.content

variable {s : ClipboardSession} {supported : List Format}

/-! ### One operation -/

/-- No operation changes what is supported, or how much. -/
theorem settings_perform (s : ClipboardSession) (op : Operation) :
    (s.perform op).2.clipboard.supported = s.clipboard.supported ∧
      (s.perform op).2.clipboard.maxSize = s.clipboard.maxSize := by
  cases op with
  | write tx =>
    rcases s.clipboard.write_cases tx with ⟨-, h⟩ | ⟨-, -, h⟩ | ⟨-, -, -, h⟩ | ⟨-, -, _, -, h⟩ <;>
      simp [perform, h]
  | poll key =>
    simp only [perform, poll]
    split <;> exact ⟨rfl, rfl⟩
  | copy | read | formats | current | applied | watch | unwatch | close => exact ⟨rfl, rfl⟩

/-- A write that is applied puts its item on the clipboard and behind the records. -/
theorem appliedWrite_write (s : ClipboardSession) (tx : Transaction) :
    (s.appliedWrite (.write tx) = [] ∧ (s.perform (.write tx)).2 = s) ∨
    (s.appliedWrite (.write tx) = [tx] ∧ ∃ item, tx.Prefers s.clipboard.supported item ∧
      (s.perform (.write tx)).2 = { s with clipboard := { s.clipboard with
        current := [item], applied := s.clipboard.applied ++ [⟨tx.id, item⟩] } }) := by
  rcases s.clipboard.write_cases tx with
    ⟨hcontents, h⟩ | ⟨-, -, h⟩ | ⟨-, -, -, h⟩ | ⟨hcontents, -, item, hitem, h⟩
  · left
    simp [appliedWrite, perform, h, isEmpty, hcontents]
  · left
    simp [appliedWrite, perform, h]
  · left
    simp [appliedWrite, perform, h]
  · right
    refine ⟨?_, item, hitem, by simp only [perform, h]⟩
    simp [appliedWrite, perform, h, isEmpty, hcontents]

/-- Apart from copies and writes, no operation touches what is stored. -/
theorem stored_perform {op : Operation} (h : op.stores = false) :
    (s.appliedWrite op = [] ∧ s.placing op = []) ∧
      (s.perform op).2.clipboard.applied = s.clipboard.applied ∧
      (s.perform op).2.clipboard.current = s.clipboard.current := by
  cases op with
  | copy | write => cases h
  | poll key =>
    refine ⟨⟨rfl, rfl⟩, ?_⟩
    simp only [perform, poll]
    split <;> exact ⟨rfl, rfl⟩
  | read | formats | current | applied | watch | unwatch | close =>
    exact ⟨⟨rfl, rfl⟩, rfl, rfl⟩

/-- An operation puts records behind the others, one for each write that is applied. -/
theorem applied_perform (s : ClipboardSession) (op : Operation) :
    ∃ records, (s.perform op).2.clipboard.applied = s.clipboard.applied ++ records ∧
      List.Forall₂ (Records s.clipboard.supported) (s.appliedWrite op) records := by
  have hother (h : op.stores = false) : ∃ records,
      (s.perform op).2.clipboard.applied = s.clipboard.applied ++ records ∧
        List.Forall₂ (Records s.clipboard.supported) (s.appliedWrite op) records := by
    obtain ⟨⟨hnone, -⟩, happlied, -⟩ := stored_perform (s := s) h
    exact ⟨[], by rw [happlied, List.append_nil], by rw [hnone]; exact .nil⟩
  cases op with
  | copy contents => exact ⟨[], (List.append_nil _).symm, .nil⟩
  | write tx =>
    rcases s.appliedWrite_write tx with ⟨happlied, hs⟩ | ⟨happlied, item, hitem, hs⟩
    · exact ⟨[], by rw [hs, List.append_nil], by rw [happlied]; exact .nil⟩
    · exact ⟨[⟨tx.id, item⟩], by rw [hs], by rw [happlied]; exact .cons ⟨rfl, hitem⟩ .nil⟩
  | read | formats | current | applied | watch | poll | unwatch | close => exact hother rfl

/-- An operation puts its own content on the clipboard, or leaves what is there. -/
theorem leaves_perform {latest : Option Operation}
    (h : Leaves s.clipboard.supported latest s.clipboard.current) (op : Operation) :
    Leaves s.clipboard.supported ((s.placing op).getLast?.or latest)
      (s.perform op).2.clipboard.current := by
  have hother (hop : op.stores = false) : Leaves s.clipboard.supported
      ((s.placing op).getLast?.or latest) (s.perform op).2.clipboard.current := by
    obtain ⟨⟨-, hnone⟩, -, hcurrent⟩ := stored_perform (s := s) hop
    rwa [hnone, hcurrent]
  cases op with
  | copy contents => rfl
  | write tx =>
    have hplacing : s.placing (.write tx) = (s.appliedWrite (.write tx)).map .write := rfl
    rcases s.appliedWrite_write tx with ⟨happlied, hs⟩ | ⟨happlied, item, hitem, hs⟩
    · rw [hplacing, happlied, hs]
      exact h
    · rw [hplacing, happlied, hs]
      exact ⟨item, hitem, rfl⟩
  | read | formats | current | applied | watch | poll | unwatch | close => exact hother rfl

/-! ### A history of operations -/

theorem settings_after (s : ClipboardSession) (ops : List Operation) :
    (s.after ops).clipboard.supported = s.clipboard.supported ∧
      (s.after ops).clipboard.maxSize = s.clipboard.maxSize := by
  induction ops generalizing s with
  | nil => exact ⟨rfl, rfl⟩
  | cons op ops ih =>
    obtain ⟨hsupported, hmax⟩ := settings_perform s op
    rw [← hsupported, ← hmax]
    exact ih _

/-- **The records are those of the writes that were applied, in order.** -/
theorem applied_after (s : ClipboardSession) (ops : List Operation) :
    ∃ records, (s.after ops).clipboard.applied = s.clipboard.applied ++ records ∧
      List.Forall₂ (Records s.clipboard.supported) (s.trace appliedWrite ops) records := by
  induction ops generalizing s with
  | nil => exact ⟨[], (List.append_nil _).symm, .nil⟩
  | cons op ops ih =>
    obtain ⟨first, hfirst, hrecords⟩ := applied_perform s op
    obtain ⟨later, hlater, hothers⟩ := ih (s.perform op).2
    rw [(settings_perform s op).1] at hothers
    refine ⟨first ++ later, ?_, List.rel_append hrecords hothers⟩
    rw [← List.append_assoc, ← hfirst]
    exact hlater

/-- **The content is what the latest copy or applied write has put there.** -/
theorem leaves_after {latest : Option Operation}
    (h : Leaves s.clipboard.supported latest s.clipboard.current) (ops : List Operation) :
    Leaves s.clipboard.supported ((s.trace placing ops).getLast?.or latest)
      (s.after ops).clipboard.current := by
  induction ops generalizing s latest with
  | nil => exact h
  | cons op ops ih =>
    have hlater := leaves_perform h op
    rw [← (settings_perform s op).1] at hlater
    have hops := ih hlater
    rw [(settings_perform s op).1, ← Option.or_assoc, ← List.getLast?_append] at hops
    exact hops

/-! ### Reading -/

/-- A read hands out the content if it is not too large, and leaves the clipboard as it is. -/
theorem perform_read (s : ClipboardSession) :
    s.perform .read =
      (.read (if (s.clipboard.current.map Content.size).sum ≤ s.clipboard.maxSize then
          .ok (.ofContents (s.ids.nth s.ids.drawn) s.clipboard.current)
        else .error (.tooLarge (s.clipboard.current.map Content.size).sum s.clipboard.maxSize)),
        { s with ids := s.ids.skip 1 }) := by
  by_cases hsize : (s.clipboard.current.map Content.size).sum ≤ s.clipboard.maxSize
  · simp only [perform, read_of_le s.ids hsize, if_pos hsize]
  · simp only [perform, read_of_lt s.ids (not_le.1 hsize), if_neg hsize]

/-- The item that a transaction prefers is not larger than all of its items. -/
theorem size_le_of_prefers {tx : Transaction} {item : Content} (h : tx.Prefers supported item) :
    item.size ≤ tx.size := by
  obtain ⟨before, after, hcontents, -⟩ := h
  rw [size_eq_sum, hcontents]
  exact List.le_sum_of_mem (List.mem_map_of_mem (by simp))

/-- A read directly after a write that was applied is not too large. -/
theorem exists_read_of_appliedWrite {tx : Transaction} {item : Content}
    (hsize : tx.size ≤ s.clipboard.maxSize) (hitem : tx.Prefers supported item)
    (hs : (s.perform (.write tx)).2.clipboard.current = [item]) :
    ∃ read, ((s.perform (.write tx)).2.perform .read).1 = .read (.ok read) := by
  have hle : item.size ≤ s.clipboard.maxSize := (size_le_of_prefers hitem).trans hsize
  rw [perform_read, hs, (settings_perform s _).2, List.map_singleton, List.sum_singleton,
    if_pos hle]
  exact ⟨_, rfl⟩

/-- The identifier of a transaction that is read differs from those of all transactions made
before, unless the supply repeats itself. -/
theorem id_ne_of_issued (h : s.clipboard.Keyed) {ops : List Operation} {tx : Transaction}
    (hread : ((s.after ops).perform .read).1 = .read (.ok tx))
    (hids : (s.ids.drawnUntil ((s.after ops).perform .read).2.ids).Nodup) :
    ∀ earlier ∈ s.trace issued ops, earlier.id ≠ tx.id := by
  have hissued : (s.after ops).issued .read = [tx] := by
    rw [issued, hread, arrivals_eq_nil (keyed_after h ops) (by simp)]
    rfl
  have hsublist := issued_sublist h (ops ++ [.read])
  rw [after_append, trace_append, List.map_append] at hsublist
  have hnodup := hids.sublist hsublist
  intro earlier hearlier
  refine (List.nodup_append.1 hnodup).2.2 _ (List.mem_map_of_mem hearlier) _ ?_
  simp [trace, hissued]

/-- **What is stored and read in a history.** After any history of an unused clipboard: the records
are those of the writes that were applied, oldest first, each with the identifier of its transaction
and its first item that is supported. The content is that of the latest copy, or the item of the
latest write that was applied, whichever came later. A write without content succeeds, one that is
too large is refused for its size, and one without a supported item is refused for its formats, and
all of these leave everything as it is; any other write is applied, and a read after it succeeds. A
read hands out exactly the content, in an open transaction with an identifier that no transaction
made before has, if the content is not too large, and is refused for its size otherwise. It changes
nothing, and the formats of what it hands out are those on the clipboard. -/
theorem store_history (supported : List Format) (maxSize : Nat) (ids : IdSource)
    (ops : List Operation) :
    let first := start supported maxSize ids
    let s := first.after ops
    ∃ current applied, s.perform .current = (.current current, s) ∧
      s.perform .applied = (.applied applied, s) ∧
      List.Forall₂ (Records supported) (first.trace appliedWrite ops) applied ∧
      Leaves supported (first.trace placing ops).getLast? current ∧
      (∀ tx : Transaction,
        if tx.contents = [] then s.perform (.write tx) = (.written (.ok ()), s)
        else if maxSize < tx.size then
          s.perform (.write tx) = (.written (.error (.tooLarge tx.size maxSize)), s)
        else if ∀ item ∈ tx.contents, item.format ∉ supported then
          s.perform (.write tx) = (.written (.error .formatUnavailable), s)
        else (s.perform (.write tx)).1 = .written (.ok ()) ∧
          ∃ read, ((s.perform (.write tx)).2.perform .read).1 = .read (.ok read)) ∧
      (if (current.map Content.size).sum ≤ maxSize then
        ∃ tx : Transaction, (s.perform .read).1 = .read (.ok tx) ∧ tx.contents = current ∧
          tx.state = .accumulating ∧ s.perform .formats = (.formats tx.formats.1, s) ∧
          ((ids.drawnUntil (s.perform .read).2.ids).Nodup →
            ∀ earlier ∈ first.trace issued ops, earlier.id ≠ tx.id)
      else (s.perform .read).1 =
        .read (.error (.tooLarge (current.map Content.size).sum maxSize))) ∧
      (s.perform .read).2.clipboard = s.clipboard := by
  intro first s
  have hkeyed : first.clipboard.Keyed := keyed_make supported maxSize
  obtain ⟨hsupported, hmax⟩ : s.clipboard.supported = supported ∧ s.clipboard.maxSize = maxSize :=
    settings_after first ops
  obtain ⟨records, hrecords, happlied⟩ := applied_after first ops
  have hread := perform_read s
  rw [hmax] at hread
  refine ⟨s.clipboard.current, s.clipboard.applied, rfl, rfl, ?_, ?_, fun tx => ?_, ?_, ?_⟩
  · rw [hrecords]
    exact happlied
  · have hunused : Leaves first.clipboard.supported none first.clipboard.current := rfl
    have hleaves := leaves_after hunused ops
    rwa [Option.or_none] at hleaves
  · rw [← hsupported, ← hmax]
    rcases s.clipboard.write_cases tx with
      ⟨hnil, h⟩ | ⟨hsome, hlt, h⟩ | ⟨hsome, hle, hnone, h⟩ | ⟨hsome, hle, item, hitem, h⟩
    · rw [if_pos hnil]
      simp only [perform, h]
    · rw [if_neg hsome, if_pos hlt]
      simp only [perform, h]
    · rw [if_neg hsome, if_neg (not_lt.2 hle), if_pos hnone]
      simp only [perform, h]
    · have hitems : ¬ ∀ item ∈ tx.contents, item.format ∉ s.clipboard.supported := by
        obtain ⟨before, after, hcontents, hformat, -⟩ := hitem
        exact fun hall => hall item (by simp [hcontents]) hformat
      rw [if_neg hsome, if_neg (not_lt.2 hle), if_neg hitems]
      refine ⟨by simp only [perform, h], exists_read_of_appliedWrite hle hitem ?_⟩
      simp only [perform, h]
  · split_ifs with hsize
    · rw [if_pos hsize] at hread
      have hanswer := congrArg Prod.fst hread
      exact ⟨_, hanswer, rfl, rfl, rfl, id_ne_of_issued hkeyed hanswer⟩
    · rw [hread, if_neg hsize]
  · rw [hread]

/-- A picture and a note are copied while somebody watches, a write applies its note, and the
content is read. -/
def noteUses : List Operation :=
  [.watch, .copy [.png [1, 2, 3], .text "note"],
    .write ⟨.ofNat 7, [.png [0], .text "seen"], .finalized⟩, .read]

/-- The next read hands out the note that was written, under an identifier of its own. -/
theorem store_history_note :
    let first := start [.html, .plainText] 8 (.counting 40)
    let s := first.after noteUses
    (first.ids.drawnUntil (s.perform .read).2.ids).Nodup ∧
      (first.trace issued noteUses).map Transaction.id = [.ofNat 40, .ofNat 41] ∧
      ∃ tx : Transaction, (s.perform .read).1 = .read (.ok tx) ∧ tx.contents = [.text "seen"] ∧
        ∀ earlier ∈ first.trace issued noteUses, earlier.id ≠ tx.id := by
  intro first s
  have hids : (first.ids.drawnUntil (s.perform .read).2.ids).Nodup := by decide
  obtain ⟨current, applied, hcurrent, -, -, -, -, hread, -⟩ :=
    store_history [.html, .plainText] 8 (.counting 40) noteUses
  have hnote : current = [.text "seen"] := (Answer.current.inj (congrArg Prod.fst hcurrent)).symm
  subst hnote
  rw [if_pos (by decide)] at hread
  obtain ⟨tx, htx, hcontents, -, -, hfresh⟩ := hread
  exact ⟨hids, by decide, tx, htx, hcontents, hfresh hids⟩

end ClipboardSession

end ClipExchange
