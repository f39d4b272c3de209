import Mathlib
import ClipExchange.Proofs.Clipboard.Writes
import ClipExchange.Proofs.Transaction.Answers

/-!
# Using a clipboard in memory

A clipboard is used by operations in any order: local copies, writes and reads, observations, and
what watchers do. Every operation is answered. A history of operations is followed by collecting
what each of them contributes: its answer, the transactions that come to wait for watchers, or the
transactions that the clipboard makes.

The watchers keep different keys throughout. Every transaction that the clipboard makes takes the
next identifier of the supply, so these differ as long as the supply does not repeat itself.

## Main definitions

* `ClipboardSession`, `ClipboardSession.Operation`, `ClipboardSession.perform`: a clipboard in use.
* `ClipboardSession.after`, `ClipboardSession.trace`: what a history leaves, and what it
  contributes.
* `ClipboardSession.arrivals`, `ClipboardSession.issued`: the transactions that an operation
  delivers to watchers, and those that it makes.
* `MemoryClipboard.Keyed`: the watchers have keys of their own.

## Main results

* `ClipboardSession.keyed_after`: the watchers always have keys of their own.
* `ClipboardSession.issued_sublist`: the transactions made in a history have identifiers drawn
  one after another.
-/

namespace ClipExchange

/-- The identifiers that were drawn from a supply until it came to a later state. -/
def IdSource.drawnUntil (ids later : IdSource) : List TransactionId :=
  (List.range' ids.drawn (later.drawn - ids.drawn)).map ids.nth

/-- The supply after some identifiers were drawn. -/
def IdSource.skip (ids : IdSource) (count : Nat) : IdSource :=
  { ids with drawn := ids.drawn + count }

/-- The transactions of a watcher that stand behind those that waited before, with its key. -/
def Watcher.arrived (before : Nat → List Transaction) (watcher : Watcher) :
    List (Nat × Transaction) :=
  (watcher.waiting.drop (before watcher.key).length).map (watcher.key, ·)

/-- A clipboard in use, with the identifiers for the transactions that it makes. -/
structure ClipboardSession where
  clipboard : MemoryClipboard
  ids : IdSource

namespace ClipboardSession

/-- An unused clipboard. -/
def start (supported : List Format) (maxSize : Nat) (ids : IdSource) : ClipboardSession :=
  ⟨.make supported maxSize, ids⟩

/-- What can be done with a clipboard and by its watchers. -/
inductive Operation where
  | copy (contents : List Content)
  | write (tx : Transaction)
  | read
  | formats
  | current
  | applied
  | watch
  | poll (key : Nat)
  | unwatch (key : Nat)
  | close
deriving DecidableEq

/-- What an operation answers. -/
inductive Answer where
  | done
  | written (outcome : Except ClipboardError Unit)
  | read (outcome : Except ClipboardError Transaction)
  | formats (formats : List Format)
  | current (contents : List Content)
  | applied (items : List AppliedItem)
  | watching (key : Nat)
  | found (change : Change)

/-- The answer to an operation, and the session after it. -/
def perform (s : ClipboardSession) : Operation → Answer × ClipboardSession
  | .copy contents =>
    (.done, ⟨(s.clipboard.copy contents s.ids).1, (s.clipboard.copy contents s.ids).2⟩)
  | .write tx =>
    (.written (s.clipboard.write tx).1, { s with clipboard := (s.clipboard.write tx).2 })
  | .read => (.read (s.clipboard.read s.ids).1, { s with ids := (s.clipboard.read s.ids).2 })
  | .formats => (.formats s.clipboard.formats, s)
  | .current => (.current s.clipboard.current, s)
  | .applied => (.applied s.clipboard.applied, s)
  | .watch => (.watching s.clipboard.watch.1, { s with clipboard := s.clipboard.watch.2 })
  | .poll key => (.found (s.clipboard.poll key).1, { s with clipboard := (s.clipboard.poll key).2 })
  | .unwatch key => (.done, { s with clipboard := s.clipboard.unwatch key })
  | .close => (.done, { s with clipboard := s.clipboard.close })

/-- The session after a history of operations. -/
def after (s : ClipboardSession) (ops : List Operation) : ClipboardSession :=
  ops.foldl (fun s op => (s.perform op).2) s

/-- What the operations of a history contribute, oldest first, where a contribution is told from
the session that an operation finds. -/
def trace {α : Type} (contribution : ClipboardSession → Operation → List α) (s : ClipboardSession) :
    List Operation → List α
  | [] => []
  | op :: ops => contribution s op ++ (s.perform op).2.trace contribution ops

/-- The transactions that come to wait for watchers by an operation, each with the key of its
watcher. -/
def arrivals (s : ClipboardSession) (op : Operation) : List (Nat × Transaction) :=
  (s.perform op).2.clipboard.watchers.flatMap (Watcher.arrived s.clipboard.waiting)

/-- The transactions that the clipboard makes in an operation and that somebody gets to see: the
answer to a read, and what comes to wait for watchers. -/
def issued (s : ClipboardSession) (op : Operation) : List Transaction :=
  (match (s.perform op).1 with
    | .read (.ok tx) => [tx]
    | _ => []) ++ (s.arrivals op).map Prod.snd

end ClipboardSession

namespace MemoryClipboard

variable {clipboard : MemoryClipboard} {watcher : Watcher}

/-! ### Reading -/

/-- What is on the clipboard is read in an open transaction with the next identifier. -/
theorem read_of_le (ids : IdSource)
    (h : (clipboard.current.map Content.size).sum ≤ clipboard.maxSize) :
    clipboard.read ids = (.ok (.ofContents (ids.nth ids.drawn) clipboard.current), ids.skip 1) := by
  simp only [read, IdSource.draw, Transaction.checkSize_ofContents_of_le _ h]
  rfl

/-- There is more on the clipboard than may be read. -/
theorem read_of_lt (ids : IdSource)
    (h : clipboard.maxSize < (clipboard.current.map Content.size).sum) :
    clipboard.read ids =
      (.error (.tooLarge (clipboard.current.map Content.size).sum clipboard.maxSize),
        ids.skip 1) := by
  simp only [read, IdSource.draw, Transaction.checkSize_ofContents_of_lt _ h]
  rfl

/-! ### Keys of watchers -/

/-- Every watcher has a key of its own, and later ones will have others. -/
structure Keyed (clipboard : MemoryClipboard) : Prop where
  nodup : (clipboard.watchers.map Watcher.key).Nodup
  lt : ∀ watcher ∈ clipboard.watchers, watcher.key < clipboard.nextKey

theorem keyed_make (supported : List Format) (maxSize : Nat) : (make supported maxSize).Keyed where
  nodup := List.nodup_nil
  lt := fun _ h => absurd h List.not_mem_nil

/-- The waiting transactions of a key are those of the watcher with that key. -/
theorem Keyed.waiting_key (h : clipboard.Keyed) (hwatcher : watcher ∈ clipboard.watchers) :
    clipboard.waiting watcher.key = watcher.waiting := by
  cases hfound : clipboard.watchers.find? fun other => other.key = watcher.key with
  | none => exact absurd (List.find?_eq_none.1 hfound watcher hwatcher) (by simp)
  | some other =>
    have hkey : other.key = watcher.key := by simpa using List.find?_some hfound
    have hother : other = watcher :=
      List.inj_on_of_nodup_map h.nodup (List.mem_of_find?_eq_some hfound) hwatcher hkey
    rw [waiting, hfound, hother]

/-- Changing a watcher keeps the keys if the change keeps its key. -/
theorem Keyed.alterWatcher (h : clipboard.Keyed) (key : Nat) {change : Watcher → Watcher}
    (hchange : ∀ watcher, (change watcher).key = watcher.key) :
    (clipboard.alterWatcher key change).Keyed := by
  have hkey (watcher : Watcher) :
      (if watcher.key = key then change watcher else watcher).key = watcher.key := by
    split_ifs
    · exact hchange watcher
    · rfl
  constructor
  case nodup =>
    simpa only [MemoryClipboard.alterWatcher, List.map_map, Function.comp_def, hkey] using h.nodup
  case lt =>
    intro watcher hwatcher
    obtain ⟨watcher, hmem, rfl⟩ := List.mem_map.1 hwatcher
    rw [hkey]
    exact h.lt watcher hmem

theorem Keyed.watch (h : clipboard.Keyed) : clipboard.watch.2.Keyed := by
  constructor
  case nodup =>
    simp only [MemoryClipboard.watch, List.map_append, List.map_cons, List.map_nil]
    refine List.nodup_append.2 ⟨h.nodup, List.nodup_singleton _, ?_⟩
    intro key hkey other hother
    obtain ⟨watcher, hwatcher, rfl⟩ := List.mem_map.1 hkey
    rw [List.mem_singleton.1 hother]
    exact (h.lt watcher hwatcher).ne
  case lt =>
    intro watcher hwatcher
    rcases List.mem_append.1 hwatcher with hold | hnew
    · exact (h.lt watcher hold).trans (Nat.lt_succ_self _)
    · rw [List.mem_singleton.1 hnew]
      exact Nat.lt_succ_self _

/-- A delivery puts the transaction behind the waiting ones unless there are too many. -/
theorem eq_of_deliver? {told : Watcher} {tx : Transaction} (h : watcher.deliver? tx = some told) :
    told = if watcher.waiting.length < Watcher.capacity then
      { watcher with waiting := watcher.waiting ++ [tx] } else watcher := by
  simp only [Watcher.deliver?] at h
  split_ifs at h with hgone hroom
  · rw [if_pos hroom]
    exact (Option.some.inj h).symm
  · rw [if_neg hroom]
    exact (Option.some.inj h).symm

theorem key_of_deliver? {told : Watcher} {tx : Transaction} (h : watcher.deliver? tx = some told) :
    told.key = watcher.key := by
  rw [eq_of_deliver? h]
  split_ifs <;> rfl

/-- Who is told of a copy keeps the order, and some may be forgotten. -/
theorem map_key_deliverAll (contents : List Content) (watchers : List Watcher) (ids : IdSource) :
    ((deliverAll contents watchers ids).1.map Watcher.key).Sublist (watchers.map Watcher.key) := by
  induction watchers generalizing ids with
  | nil => exact List.Sublist.slnil
  | cons watcher rest ih =>
    simp only [deliverAll]
    split
    · rename_i told htold
      rw [List.map_cons, List.map_cons, key_of_deliver? htold]
      exact (ih _).cons_cons _
    · exact (ih _).cons _

theorem Keyed.copy (h : clipboard.Keyed) (contents : List Content) (ids : IdSource) :
    (clipboard.copy contents ids).1.Keyed := by
  have hsublist := map_key_deliverAll contents clipboard.watchers ids
  constructor
  case nodup => exact h.nodup.sublist hsublist
  case lt =>
    intro told htold
    obtain ⟨watcher, hwatcher, hkey⟩ :=
      List.mem_map.1 (hsublist.subset (List.mem_map_of_mem htold))
    rw [← hkey]
    exact h.lt watcher hwatcher

theorem Keyed.poll (h : clipboard.Keyed) (key : Nat) : (clipboard.poll key).2.Keyed := by
  simp only [MemoryClipboard.poll]
  split
  · exact h.alterWatcher key fun _ => rfl
  · exact h

/-- A write concerns no watcher. -/
theorem write_watchers (clipboard : MemoryClipboard) (tx : Transaction) :
    (clipboard.write tx).2.watchers = clipboard.watchers ∧
      (clipboard.write tx).2.nextKey = clipboard.nextKey ∧
      (clipboard.write tx).2.isOpen = clipboard.isOpen := by
  simp only [write]
  split_ifs
  · exact ⟨rfl, rfl, rfl⟩
  · split
    · exact ⟨rfl, rfl, rfl⟩
    · split <;> exact ⟨rfl, rfl, rfl⟩

theorem Keyed.write (h : clipboard.Keyed) (tx : Transaction) : (clipboard.write tx).2.Keyed := by
  obtain ⟨hwatchers, hnext, -⟩ := write_watchers clipboard tx
  constructor
  case nodup => rw [hwatchers]; exact h.nodup
  case lt => rw [hwatchers, hnext]; exact h.lt

end MemoryClipboard

namespace ClipboardSession

open MemoryClipboard

variable {s : ClipboardSession}

theorem keyed_perform (h : s.clipboard.Keyed) (op : Operation) :
    (s.perform op).2.clipboard.Keyed := by
  cases op with
  | copy contents => exact h.copy contents s.ids
  | write tx => exact h.write tx
  | watch => exact h.watch
  | poll key => exact h.poll key
  | unwatch key => exact h.alterWatcher key fun _ => rfl
  | read | formats | current | applied => exact h
  | close => exact ⟨h.nodup, h.lt⟩

theorem keyed_after (h : s.clipboard.Keyed) (ops : List Operation) :
    (s.after ops).clipboard.Keyed := by
  induction ops generalizing s with
  | nil => exact h
  | cons op ops ih => exact ih (keyed_perform h op)

/-! ### Following a history -/

theorem after_append (s : ClipboardSession) (ops more : List Operation) :
    s.after (ops ++ more) = (s.after ops).after more :=
  List.foldl_append

theorem trace_append {α : Type} (contribution : ClipboardSession → Operation → List α)
    (s : ClipboardSession) (ops more : List Operation) :
    s.trace contribution (ops ++ more) =
      s.trace contribution ops ++ (s.after ops).trace contribution more := by
  induction ops generalizing s with
  | nil => rfl
  | cons op ops ih =>
    rw [List.cons_append, trace, trace, ih, List.append_assoc]
    rfl

/-! ### What an operation delivers -/

/-- What arrives by a delivery is the transaction, if there is room for it. -/
theorem arrived_of_deliver? {before : Nat → List Transaction} {watcher told : Watcher}
    {tx : Transaction} (hbefore : before watcher.key = watcher.waiting)
    (h : watcher.deliver? tx = some told) :
    told.arrived before =
      if watcher.waiting.length < Watcher.capacity then [(watcher.key, tx)] else [] := by
  rw [Watcher.arrived, key_of_deliver? h, hbefore, eq_of_deliver? h]
  by_cases hroom : watcher.waiting.length < Watcher.capacity
  · rw [if_pos hroom, if_pos hroom, List.drop_left]
    rfl
  · rw [if_neg hroom, if_neg hroom, List.drop_length]
    rfl

theorem deliverAll_snd (contents : List Content) (watchers : List Watcher) (ids : IdSource) :
    (deliverAll contents watchers ids).2 = ids.skip watchers.length := by
  induction watchers generalizing ids with
  | nil => rfl
  | cons watcher rest ih =>
    have hskip : (deliverAll contents (watcher :: rest) ids).2 =
        (deliverAll contents rest ids.draw.2).2 := by
      simp only [deliverAll]
      split <;> rfl
    rw [hskip, ih, List.length_cons, Nat.add_comm]
    simp only [IdSource.skip, IdSource.draw, Nat.add_assoc]

/-- What arrives by a copy has the next identifiers. -/
theorem arrived_deliverAll (contents : List Content) {before : Nat → List Transaction}
    {watchers : List Watcher} (hbefore : ∀ watcher ∈ watchers, before watcher.key = watcher.waiting)
    (ids : IdSource) :
    (((deliverAll contents watchers ids).1.flatMap (Watcher.arrived before)).map
        fun arrival => arrival.2.id).Sublist
      ((List.range' ids.drawn watchers.length).map ids.nth) := by
  induction watchers generalizing ids with
  | nil => exact List.Sublist.slnil
  | cons watcher rest ih =>
    have hrest := ih (fun other h => hbefore other (List.mem_cons_of_mem _ h)) ids.draw.2
    rw [List.length_cons, List.range'_succ, List.map_cons]
    simp only [deliverAll]
    split
    · rename_i told htold
      rw [List.flatMap_cons, List.map_append,
        arrived_of_deliver? (hbefore watcher List.mem_cons_self) htold]
      split_ifs
      · exact hrest.cons_cons _
      · exact hrest.cons _
    · exact hrest.cons _

/-- Nothing arrives where no more wait than before. -/
theorem arrived_eq_nil {clipboard : MemoryClipboard} (h : clipboard.Keyed) {watcher later : Watcher}
    (hwatcher : watcher ∈ clipboard.watchers) (hkey : later.key = watcher.key)
    (hlength : later.waiting.length ≤ watcher.waiting.length) :
    later.arrived clipboard.waiting = [] := by
  rw [Watcher.arrived, hkey, h.waiting_key hwatcher, List.drop_eq_nil_of_le hlength, List.map_nil]

/-- Nothing arrives by a change after which no more wait. -/
theorem arrived_alterWatcher {clipboard : MemoryClipboard} (h : clipboard.Keyed) {key : Nat}
    (change : Watcher → Watcher) (hkey : ∀ watcher, (change watcher).key = watcher.key)
    (hlength : ∀ watcher, (change watcher).waiting.length ≤ watcher.waiting.length)
    {later : Watcher} (hlater : later ∈ (clipboard.alterWatcher key change).watchers) :
    later.arrived clipboard.waiting = [] := by
  obtain ⟨watcher, hwatcher, rfl⟩ := List.mem_map.1 hlater
  split_ifs
  · exact arrived_eq_nil h hwatcher (hkey watcher) (hlength watcher)
  · exact arrived_eq_nil h hwatcher rfl le_rfl

/-- Only a copy delivers something. -/
theorem arrivals_eq_nil (h : s.clipboard.Keyed) {op : Operation}
    (hop : ∀ contents, op ≠ .copy contents) : s.arrivals op = [] := by
  refine List.flatMap_eq_nil_iff.2 fun later hlater => ?_
  cases op with
  | copy contents => exact absurd rfl (hop contents)
  | write tx =>
    simp only [perform, write_watchers] at hlater
    exact arrived_eq_nil h hlater rfl le_rfl
  | read | formats | current | applied | close => exact arrived_eq_nil h hlater rfl le_rfl
  | watch =>
    rcases List.mem_append.1 hlater with hold | hnew
    · exact arrived_eq_nil h hold rfl le_rfl
    · rw [List.mem_singleton.1 hnew]
      exact List.map_eq_nil_iff.2 List.drop_nil
  | poll key =>
    simp only [perform, poll] at hlater
    split at hlater
    · refine arrived_alterWatcher h Watcher.advance (fun _ => rfl) (fun watcher => ?_) hlater
      exact (List.drop_sublist 1 watcher.waiting).length_le
    · exact arrived_eq_nil h hlater rfl le_rfl
  | unwatch key =>
    exact arrived_alterWatcher h Watcher.leave (fun _ => rfl) (fun _ => Nat.zero_le _) hlater

/-! ### Identifiers -/

/-- An operation draws identifiers, and the transactions made in it have some of these in order. -/
theorem issued_perform (h : s.clipboard.Keyed) (op : Operation) :
    ∃ count, (s.perform op).2.ids = s.ids.skip count ∧
      ((s.issued op).map Transaction.id).Sublist
        ((List.range' s.ids.drawn count).map s.ids.nth) := by
  have hnone (hop : ∀ contents, op ≠ .copy contents) (hread : op ≠ .read) :
      s.issued op = [] := by
    rw [issued, arrivals_eq_nil h hop]
    cases op with
    | read => exact absurd rfl hread
    | _ => rfl
  cases op with
  | copy contents =>
    refine ⟨s.clipboard.watchers.length, deliverAll_snd contents s.clipboard.watchers s.ids, ?_⟩
    have harrived := arrived_deliverAll contents (fun _ => h.waiting_key) s.ids
    simpa [issued, perform, arrivals, copy, Function.comp_def] using harrived
  | read =>
    refine ⟨1, rfl, ?_⟩
    rw [issued, arrivals_eq_nil h (by simp)]
    by_cases hsize : (s.clipboard.current.map Content.size).sum ≤ s.clipboard.maxSize
    · simp only [perform, read_of_le s.ids hsize]
      exact List.Sublist.refl _
    · simp only [perform, read_of_lt s.ids (not_le.1 hsize)]
      exact List.nil_sublist _
  | write | formats | current | applied | watch | poll | unwatch | close =>
    refine ⟨0, rfl, ?_⟩
    rw [hnone (by simp) (by simp)]
    exact List.Sublist.slnil

/-- **The transactions made in a history have identifiers drawn one after another.** -/
theorem issued_sublist (h : s.clipboard.Keyed) (ops : List Operation) :
    ((s.trace issued ops).map Transaction.id).Sublist (s.ids.drawnUntil (s.after ops).ids) := by
  suffices hcount : ∃ count, (s.after ops).ids = s.ids.skip count ∧
      ((s.trace issued ops).map Transaction.id).Sublist
        ((List.range' s.ids.drawn count).map s.ids.nth) by
    obtain ⟨count, hids, hsublist⟩ := hcount
    rwa [IdSource.drawnUntil, hids, IdSource.skip, Nat.add_sub_cancel_left]
  induction ops generalizing s with
  | nil => exact ⟨0, rfl, List.Sublist.slnil⟩
  | cons op ops ih =>
    obtain ⟨first, hfirst, hissued⟩ := issued_perform h op
    obtain ⟨later, hlater, hsublist⟩ := ih (keyed_perform h op)
    rw [hfirst] at hlater hsublist
    refine ⟨first + later, ?_, ?_⟩
    · change ((s.perform op).2.after ops).ids = _
      rw [hlater]
      simp only [IdSource.skip, Nat.add_assoc]
    · rw [trace, List.map_append, ← List.range'_append_1, List.map_append]
      exact hissued.append hsublist

end ClipboardSession

end ClipExchange
