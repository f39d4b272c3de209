import Mathlib
import ClipExchange.Proofs.Clipboard.Sessions

/-!
# Following the copies on a clipboard

Any number of watchers follow the copies on one clipboard. A copy is delivered to all of them in
one pass, which also forgets those that have gone. As long as a watcher listens, what was delivered
to it is what it has received, in order, and then what waits for it; and this is one open
transaction for each copy since it began to watch, except the copies that found sixteen
transactions waiting.

The other watchers make no difference to it. Its own polls, the copies and giving the clipboard up
are all that happens to it, and it finds what the owner of a mailbox finds to whom only these
happen. Transactions are compared without their identifiers here, since every delivery to anyone
takes another one from the supply.

## Main definitions

* `MemoryClipboard.Follows`: a watcher listens, and some transactions wait for it.
* `ClipboardSession.received`, `ClipboardSession.found`, `ClipboardSession.accepted`: what a watcher
  receives and finds, and the copies that find room for it.
* `ClipboardSession.Mailbox`, `ClipboardSession.Operation.event?`: a mailbox for one watcher, and
  what happens to it in an operation.
* `ClipboardSession.Shows`: what a watcher sees of a session is a mailbox.

## Main results

* `MemoryClipboard.Follows.copy`, `MemoryClipboard.Follows.poll`: what a copy and a poll make of
  the waiting transactions.
* `ClipboardSession.follows_after`: what was delivered has been received or waits.
* `ClipboardSession.Shows.trace_found`: a watcher finds what the owner of a mailbox finds.
* `ClipboardSession.trace_found_eq_of_events_eq`: other watchers make no difference.
* `ClipboardSession.watcher_deliveries`: what a watcher gets to see in a history.
-/

namespace ClipExchange

/-- A transaction without its identifier. -/
def Transaction.anonymous (tx : Transaction) : Transaction :=
  { tx with id := default }

/-- A change without the identifier of its transaction. -/
def Change.anonymous : Change → Change
  | received tx => received tx.anonymous
  | change => change

/-- The transaction that a change brings. -/
def Change.transaction? : Change → Option Transaction
  | received tx => some tx
  | empty | disconnected => none

namespace MemoryClipboard

/-- The watcher with the given key listens, and the given transactions wait for it. -/
def Follows (clipboard : MemoryClipboard) (key : Nat) (waiting : List Transaction) : Prop :=
  ⟨key, waiting, true⟩ ∈ clipboard.watchers

variable {clipboard : MemoryClipboard} {key : Nat} {waiting : List Transaction}

theorem Follows.waiting_eq (h : clipboard.Follows key waiting) (hkeyed : clipboard.Keyed) :
    clipboard.waiting key = waiting :=
  hkeyed.waiting_key h

/-- A listening watcher is told of a copy, and gets a transaction if there is room. -/
theorem exists_mem_deliverAll (contents : List Content) {watcher : Watcher}
    {watchers : List Watcher} (hmem : watcher ∈ watchers) (hlistening : watcher.isListening)
    (ids : IdSource) :
    ∃ id, (if watcher.waiting.length < Watcher.capacity then
        { watcher with waiting := watcher.waiting ++ [.ofContents id contents] } else watcher) ∈
      (deliverAll contents watchers ids).1 := by
  induction watchers generalizing ids with
  | nil => exact absurd hmem List.not_mem_nil
  | cons other rest ih =>
    rcases List.mem_cons.1 hmem with rfl | hrest
    · have hdeliver : watcher.deliver? (.ofContents ids.draw.1 contents) =
          some (if watcher.waiting.length < Watcher.capacity then
            { watcher with waiting := watcher.waiting ++ [.ofContents ids.draw.1 contents] }
          else watcher) := by
        simp only [Watcher.deliver?, hlistening, Bool.not_true, Bool.false_eq_true, if_false]
        split_ifs <;> rfl
      refine ⟨ids.draw.1, ?_⟩
      simp only [deliverAll, hdeliver]
      exact List.mem_cons_self
    · obtain ⟨id, hid⟩ := ih hrest ids.draw.2
      refine ⟨id, ?_⟩
      simp only [deliverAll]
      split
      · exact List.mem_cons_of_mem _ hid
      · exact hid

/-- A copy puts an open transaction behind the waiting ones if there is room. -/
theorem Follows.copy (h : clipboard.Follows key waiting) (contents : List Content)
    (ids : IdSource) : ∃ id, (clipboard.copy contents ids).1.Follows key
      (if waiting.length < Watcher.capacity then waiting ++ [.ofContents id contents]
        else waiting) := by
  obtain ⟨id, hid⟩ := exists_mem_deliverAll contents h rfl ids
  refine ⟨id, ?_⟩
  rw [Follows]
  split_ifs with hroom
  · rwa [if_pos hroom] at hid
  · rwa [if_neg hroom] at hid

theorem Follows.alterWatcher_self (h : clipboard.Follows key waiting)
    (change : Watcher → Watcher) :
    change ⟨key, waiting, true⟩ ∈ (clipboard.alterWatcher key change).watchers :=
  List.mem_map.2 ⟨_, h, if_pos rfl⟩

/-- Changing another watcher makes no difference. -/
theorem Follows.alterWatcher_of_ne (h : clipboard.Follows key waiting) {other : Nat}
    (hother : other ≠ key) (change : Watcher → Watcher) :
    (clipboard.alterWatcher other change).Follows key waiting :=
  List.mem_map.2 ⟨_, h, if_neg hother.symm⟩

/-- A poll takes the oldest waiting transaction, or tells whether there may be others. -/
theorem Follows.poll (h : clipboard.Follows key waiting) (hkeyed : clipboard.Keyed) :
    (clipboard.poll key).1 =
      waiting.head?.elim (if clipboard.isOpen then .empty else .disconnected) .received ∧
    (clipboard.poll key).2.Follows key waiting.tail := by
  simp only [MemoryClipboard.poll, h.waiting_eq hkeyed]
  cases waiting with
  | nil => exact ⟨rfl, h⟩
  | cons tx rest => exact ⟨rfl, h.alterWatcher_self Watcher.advance⟩

/-- A poll by another watcher makes no difference. -/
theorem Follows.poll_of_ne (h : clipboard.Follows key waiting) {other : Nat}
    (hother : other ≠ key) : (clipboard.poll other).2.Follows key waiting := by
  simp only [MemoryClipboard.poll]
  split
  · exact h.alterWatcher_of_ne hother _
  · exact h

end MemoryClipboard

namespace ClipboardSession

open MemoryClipboard

/-- What a watcher finds in its own polls, identifiers aside. -/
def found (key : Nat) (s : ClipboardSession) (op : Operation) : List Change :=
  match op with
  | .poll other => if other = key then [(s.clipboard.poll other).1.anonymous] else []
  | _ => []

/-- The transactions that a watcher receives in its own polls. -/
def received (key : Nat) (s : ClipboardSession) (op : Operation) : List Transaction :=
  match op with
  | .poll other => if other = key then (s.clipboard.poll other).1.transaction?.toList else []
  | _ => []

/-- The contents of a copy for which there is room among what waits for a watcher. -/
def accepted (key : Nat) (s : ClipboardSession) (op : Operation) : List (List Content) :=
  match op with
  | .copy contents =>
    if (s.clipboard.waiting key).length < Watcher.capacity then [contents] else []
  | _ => []

/-- The transactions among some arrivals that are for the given watcher. -/
def forKey (key : Nat) (arrivals : List (Nat × Transaction)) : List Transaction :=
  (arrivals.filter fun arrival => arrival.1 = key).map Prod.snd

/-- A mailbox for one watcher alone: what waits, and whether more may come. -/
structure Mailbox where
  waiting : List Transaction
  isOpen : Bool

/-- What happens to a mailbox. -/
inductive Mailbox.Event where
  | copied (contents : List Content)
  | polled
  | closed

/-- What the owner of a mailbox finds when something happens, and the mailbox after it. -/
def Mailbox.step (box : Mailbox) : Event → List Change × Mailbox
  | .copied contents =>
    ([], if box.waiting.length < Watcher.capacity then
      { box with waiting := box.waiting ++ [.ofContents default contents] } else box)
  | .polled =>
    match box.waiting with
    | tx :: rest => ([.received tx], { box with waiting := rest })
    | [] => ([if box.isOpen then .empty else .disconnected], box)
  | .closed => ([], { box with isOpen := false })

/-- What the owner of a mailbox finds, oldest first. -/
def Mailbox.run (box : Mailbox) : List Event → List Change
  | [] => []
  | event :: events => (box.step event).1 ++ (box.step event).2.run events

/-- What an operation is to the watcher with the given key, as long as it listens. -/
def Operation.event? (key : Nat) : Operation → Option Mailbox.Event
  | copy contents => some (.copied contents)
  | poll other => if other = key then some .polled else none
  | close => some .closed
  | write _ | read | formats | current | applied | watch | unwatch _ => none

/-- The operation by which something happens to the mailbox of the given watcher. -/
def Mailbox.Event.operation (key : Nat) : Event → Operation
  | copied contents => .copy contents
  | polled => .poll key
  | closed => .close

/-- What a listening watcher sees of a session is a mailbox of its own. -/
structure Shows (s : ClipboardSession) (key : Nat) (box : Mailbox) : Prop where
  keyed : s.clipboard.Keyed
  follows : ∃ waiting, s.clipboard.Follows key waiting ∧
    box.waiting = waiting.map Transaction.anonymous
  isOpen : box.isOpen = s.clipboard.isOpen

variable {s : ClipboardSession} {key : Nat} {waiting : List Transaction} {op : Operation}

/-! ### What arrives for a watcher -/

@[simp]
theorem forKey_append (key : Nat) (arrivals more : List (Nat × Transaction)) :
    forKey key (arrivals ++ more) = forKey key arrivals ++ forKey key more := by
  simp [forKey]

theorem key_of_mem_arrived {before : Nat → List Transaction} {watcher : Watcher}
    {arrival : Nat × Transaction} (h : arrival ∈ watcher.arrived before) :
    arrival.1 = watcher.key := by
  obtain ⟨tx, -, rfl⟩ := List.mem_map.1 h
  rfl

/-- What arrives for other watchers is not for this one. -/
theorem forKey_eq_nil {before : Nat → List Transaction} {watchers : List Watcher}
    (h : ∀ watcher ∈ watchers, watcher.key ≠ key) :
    forKey key (watchers.flatMap (Watcher.arrived before)) = [] := by
  refine List.map_eq_nil_iff.2 (List.filter_eq_nil_iff.2 fun arrival harrival => ?_)
  obtain ⟨watcher, hwatcher, harrived⟩ := List.mem_flatMap.1 harrival
  rw [key_of_mem_arrived harrived, decide_eq_true_eq]
  exact h watcher hwatcher

theorem forKey_arrived_self (before : Nat → List Transaction) (watcher : Watcher) :
    forKey watcher.key (watcher.arrived before) =
      watcher.waiting.drop (before watcher.key).length := by
  rw [forKey, List.filter_eq_self.2 fun arrival h => by simp [key_of_mem_arrived h],
    Watcher.arrived, List.map_map]
  exact List.map_id _

/-- Among what arrives for several watchers is exactly what arrives for each of them. -/
theorem forKey_flatMap_arrived (before : Nat → List Transaction) {watcher : Watcher}
    {watchers : List Watcher} (hnodup : (watchers.map Watcher.key).Nodup)
    (hmem : watcher ∈ watchers) :
    forKey watcher.key (watchers.flatMap (Watcher.arrived before)) =
      watcher.waiting.drop (before watcher.key).length := by
  obtain ⟨front, back, rfl⟩ := List.append_of_mem hmem
  rw [List.map_append, List.map_cons, List.nodup_middle, List.nodup_cons,
    ← List.map_append] at hnodup
  have hother : ∀ other ∈ front ++ back, other.key ≠ watcher.key := fun other h hkey =>
    hnodup.1 (hkey ▸ List.mem_map_of_mem h)
  rw [List.flatMap_append, List.flatMap_cons, forKey_append, forKey_append, forKey_arrived_self,
    forKey_eq_nil fun other h => hother other (List.mem_append_left _ h),
    forKey_eq_nil fun other h => hother other (List.mem_append_right _ h),
    List.nil_append, List.append_nil]

/-- Where nothing is copied, nothing arrives and no room is asked for. -/
theorem forKey_arrivals_eq_nil (key : Nat) (hkeyed : s.clipboard.Keyed) {op : Operation}
    (hop : ∀ contents, op ≠ .copy contents) :
    forKey key (s.arrivals op) = [] ∧ accepted key s op = [] := by
  refine ⟨by rw [arrivals_eq_nil hkeyed hop]; rfl, ?_⟩
  cases op with
  | copy contents => exact absurd rfl (hop contents)
  | _ => rfl

/-! ### One operation -/

theorem event?_eq_some_iff {event : Mailbox.Event} :
    op.event? key = some event ↔ op = event.operation key := by
  constructor
  · intro h
    cases op with
    | copy | close =>
      obtain rfl := Option.some.inj h
      rfl
    | poll other =>
      rw [Operation.event?] at h
      split_ifs at h with hother
      obtain rfl := Option.some.inj h
      rw [hother]
      rfl
    | write | read | formats | current | applied | watch | unwatch => cases h
  · rintro rfl
    cases event with
    | polled => exact if_pos rfl
    | copied | closed => rfl

/-- What is nothing to a listening watcher leaves what waits for it, and it finds nothing by it. -/
theorem follows_perform_of_none (h : s.clipboard.Follows key waiting)
    (hop : op.event? key = none) (hleave : op ≠ .unwatch key) :
    (s.perform op).2.clipboard.Follows key waiting ∧ received key s op = [] ∧
      found key s op = [] := by
  cases op with
  | copy | close => cases hop
  | poll other =>
    have hother : other ≠ key := by
      rintro rfl
      rw [Operation.event?, if_pos rfl] at hop
      cases hop
    exact ⟨h.poll_of_ne hother, if_neg hother, if_neg hother⟩
  | unwatch other =>
    exact ⟨h.alterWatcher_of_ne (fun hother => hleave (by rw [hother])) _, rfl, rfl⟩
  | watch => exact ⟨List.mem_append_left _ h, rfl, rfl⟩
  | write tx =>
    refine ⟨?_, rfl, rfl⟩
    rw [Follows, perform]
    simp only [write_watchers]
    exact h
  | read | formats | current | applied => exact ⟨h, rfl, rfl⟩

/-- What a copy delivers to a listening watcher is one open transaction, if there is room. -/
theorem follows_perform_copy (hkeyed : s.clipboard.Keyed) (h : s.clipboard.Follows key waiting)
    (contents : List Content) :
    ∃ arrived, (s.perform (.copy contents)).2.clipboard.Follows key (waiting ++ arrived) ∧
      forKey key (s.arrivals (.copy contents)) = arrived ∧
      arrived.map (fun tx => (tx.contents, tx.state)) =
        (accepted key s (.copy contents)).map fun contents => (contents, .accumulating) := by
  obtain ⟨id, hid⟩ := h.copy contents s.ids
  let arrived : List Transaction :=
    if waiting.length < Watcher.capacity then [.ofContents id contents] else []
  have hfollows : (s.perform (.copy contents)).2.clipboard.Follows key (waiting ++ arrived) := by
    simp only [arrived]
    split_ifs with hroom
    · rwa [if_pos hroom] at hid
    · rwa [if_neg hroom, ← List.append_nil waiting] at hid
  refine ⟨arrived, hfollows, ?_, ?_⟩
  · have harrived := forKey_flatMap_arrived s.clipboard.waiting
      (keyed_perform hkeyed (.copy contents)).nodup hfollows
    rwa [h.waiting_eq hkeyed, List.drop_left] at harrived
  · simp only [accepted, h.waiting_eq hkeyed, arrived]
    split_ifs <;> rfl

/-- A poll by a listening watcher takes what it receives from the front of what waits. -/
theorem received_poll (hkeyed : s.clipboard.Keyed) (h : s.clipboard.Follows key waiting) :
    received key s (.poll key) = waiting.take 1 := by
  rw [received, if_pos rfl, (h.poll hkeyed).1]
  cases waiting with
  | nil => cases s.clipboard.isOpen <;> rfl
  | cons tx rest => rfl

/-- Where nothing is copied, what waited for a listening watcher has been received or waits. -/
theorem follows_perform_of_ne_copy (hkeyed : s.clipboard.Keyed)
    (h : s.clipboard.Follows key waiting) (hleave : op ≠ .unwatch key)
    (hcopy : ∀ contents, op ≠ .copy contents) :
    ∃ later, (s.perform op).2.clipboard.Follows key later ∧
      received key s op ++ later = waiting := by
  cases hop : op.event? key with
  | none =>
    obtain ⟨hfollows, hreceived, -⟩ := follows_perform_of_none h hop hleave
    exact ⟨waiting, hfollows, by rw [hreceived, List.nil_append]⟩
  | some event =>
    obtain rfl := event?_eq_some_iff.1 hop
    cases event with
    | copied contents => exact absurd rfl (hcopy contents)
    | polled =>
      refine ⟨waiting.tail, (h.poll hkeyed).2, ?_⟩
      rw [Mailbox.Event.operation, received_poll hkeyed h, ← List.drop_one,
        List.take_append_drop]
    | closed => exact ⟨waiting, h, rfl⟩

/-- What an operation makes of a listening watcher: what waited and what arrives has been received
or waits, and there is an open transaction for each copy that finds room. -/
theorem follows_perform (hkeyed : s.clipboard.Keyed) (h : s.clipboard.Follows key waiting)
    (hleave : op ≠ .unwatch key) :
    ∃ later, (s.perform op).2.clipboard.Follows key later ∧
      received key s op ++ later = waiting ++ forKey key (s.arrivals op) ∧
      (forKey key (s.arrivals op)).map (fun tx => (tx.contents, tx.state)) =
        (accepted key s op).map fun contents => (contents, .accumulating) := by
  by_cases hcopy : ∃ contents, op = .copy contents
  · obtain ⟨contents, rfl⟩ := hcopy
    obtain ⟨arrived, hfollows, harrived, hshown⟩ := follows_perform_copy hkeyed h contents
    rw [harrived]
    exact ⟨waiting ++ arrived, hfollows, rfl, hshown⟩
  · rw [not_exists] at hcopy
    obtain ⟨later, hfollows, hkept⟩ := follows_perform_of_ne_copy hkeyed h hleave hcopy
    obtain ⟨harrived, haccepted⟩ := forKey_arrivals_eq_nil key hkeyed hcopy
    rw [harrived, haccepted, List.append_nil]
    exact ⟨later, hfollows, hkept, rfl⟩

/-! ### A history of operations -/

/-- **What was delivered to a listening watcher has been received or waits,** and it is an open
transaction for each copy that found room. -/
theorem follows_after (hkeyed : s.clipboard.Keyed) (h : s.clipboard.Follows key waiting)
    {ops : List Operation} (hleave : .unwatch key ∉ ops) :
    ∃ later, (s.after ops).clipboard.Follows key later ∧
      s.trace (received key) ops ++ later = waiting ++ forKey key (s.trace arrivals ops) ∧
      (forKey key (s.trace arrivals ops)).map (fun tx => (tx.contents, tx.state)) =
        (s.trace (accepted key) ops).map fun contents => (contents, .accumulating) := by
  induction ops generalizing s waiting with
  | nil => exact ⟨waiting, h, (List.append_nil _).symm, rfl⟩
  | cons op ops ih =>
    rw [List.mem_cons, not_or] at hleave
    obtain ⟨next, hnext, hkept, hshown⟩ := follows_perform hkeyed h (Ne.symm hleave.1)
    obtain ⟨later, hlater, hkept', hshown'⟩ := ih (keyed_perform hkeyed op) hnext hleave.2
    refine ⟨later, hlater, ?_, ?_⟩
    · rw [trace, trace, forKey_append, List.append_assoc, hkept', ← List.append_assoc, hkept,
        List.append_assoc]
    · rw [trace, trace, forKey_append, List.map_append, List.map_append, hshown, hshown']

/-! ### One watcher alone -/

/-- Only giving a clipboard up closes it. -/
theorem isOpen_perform (s : ClipboardSession) (op : Operation) :
    (s.perform op).2.clipboard.isOpen = (s.clipboard.isOpen && op ≠ .close) := by
  cases op with
  | write tx => simp [perform, write_watchers]
  | poll other =>
    simp only [perform, poll]
    split <;> simp [alterWatcher]
  | copy | read | formats | current | applied | watch | unwatch | close =>
    simp [perform, copy, watch, unwatch, alterWatcher, close]

theorem isOpen_perform_of_ne (s : ClipboardSession) (hop : op ≠ .close) :
    (s.perform op).2.clipboard.isOpen = s.clipboard.isOpen := by
  rw [isOpen_perform, decide_eq_true hop, Bool.and_true]

/-- A clipboard is open until it is given up. -/
theorem isOpen_after (s : ClipboardSession) (ops : List Operation) :
    (s.after ops).clipboard.isOpen = (s.clipboard.isOpen && .close ∉ ops) := by
  induction ops generalizing s with
  | nil => simp [after]
  | cons op ops ih =>
    rw [after, List.foldl_cons, ← after, ih, isOpen_perform]
    by_cases hop : op = .close
    · simp [hop]
    · simp [hop, Ne.symm hop]

theorem isOpen_after_eq_false_iff (hopen : s.clipboard.isOpen = true) {ops : List Operation} :
    (s.after ops).clipboard.isOpen = false ↔ .close ∈ ops := by
  rw [isOpen_after, hopen, Bool.true_and, decide_eq_false_iff_not, not_not]

/-- Where nothing happens to a watcher it finds nothing, and its mailbox stays as it is. -/
theorem Shows.perform_of_none {box : Mailbox} (h : s.Shows key box)
    (hop : op.event? key = none) (hleave : op ≠ .unwatch key) :
    found key s op = [] ∧ (s.perform op).2.Shows key box := by
  obtain ⟨waiting, hfollows, hwaiting⟩ := h.follows
  obtain ⟨hnext, -, hfound⟩ := follows_perform_of_none hfollows hop hleave
  have hclose : op ≠ .close := by
    rintro rfl
    cases hop
  exact ⟨hfound, keyed_perform h.keyed op, ⟨waiting, hnext, hwaiting⟩,
    h.isOpen.trans (isOpen_perform_of_ne s hclose).symm⟩

/-- A copy comes into the mailbox of a listening watcher if there is room. -/
theorem Shows.perform_copy {box : Mailbox} (h : s.Shows key box) (contents : List Content) :
    (s.perform (.copy contents)).2.Shows key (box.step (.copied contents)).2 := by
  obtain ⟨waiting, hfollows, hwaiting⟩ := h.follows
  obtain ⟨id, hcopy⟩ := hfollows.copy contents s.ids
  have hkeyed := keyed_perform h.keyed (.copy contents)
  have hclose : Operation.copy contents ≠ .close := by simp
  have hopen := h.isOpen.trans (isOpen_perform_of_ne s hclose).symm
  by_cases hroom : waiting.length < Watcher.capacity
  · have hbox : box.step (.copied contents) =
        ([], { box with waiting := box.waiting ++ [.ofContents default contents] }) := by
      simp only [Mailbox.step, hwaiting, List.length_map, if_pos hroom]
    rw [hbox]
    rw [if_pos hroom] at hcopy
    refine ⟨hkeyed, ⟨_, hcopy, ?_⟩, hopen⟩
    rw [hwaiting, List.map_append]
    rfl
  · have hbox : box.step (.copied contents) = ([], box) := by
      simp only [Mailbox.step, hwaiting, List.length_map, if_neg hroom]
    rw [hbox]
    rw [if_neg hroom] at hcopy
    exact ⟨hkeyed, ⟨waiting, hcopy, hwaiting⟩, hopen⟩

/-- A listening watcher finds in a poll what is in its mailbox. -/
theorem Shows.perform_poll {box : Mailbox} (h : s.Shows key box) :
    found key s (.poll key) = (box.step .polled).1 ∧
      (s.perform (.poll key)).2.Shows key (box.step .polled).2 := by
  obtain ⟨waiting, hfollows, hwaiting⟩ := h.follows
  obtain ⟨hchange, hpoll⟩ := hfollows.poll h.keyed
  have hkeyed := keyed_perform h.keyed (.poll key)
  have hclose : Operation.poll key ≠ .close := by simp
  have hopen := h.isOpen.trans (isOpen_perform_of_ne s hclose).symm
  rw [found, if_pos rfl, hchange]
  cases waiting with
  | nil =>
    have hbox : box.step .polled = ([if box.isOpen then .empty else .disconnected], box) := by
      simp only [Mailbox.step, hwaiting, List.map_nil]
    rw [hbox, h.isOpen]
    refine ⟨?_, hkeyed, ⟨[], hpoll, hwaiting⟩, hopen⟩
    cases s.clipboard.isOpen <;> rfl
  | cons tx rest =>
    have hbox : box.step .polled =
        ([.received tx.anonymous], { box with waiting := rest.map Transaction.anonymous }) := by
      simp only [Mailbox.step, hwaiting, List.map_cons]
    rw [hbox]
    exact ⟨rfl, hkeyed, ⟨rest, hpoll, rfl⟩, hopen⟩

/-- What happens to a listening watcher is what happens to its mailbox. -/
theorem Shows.perform_operation {box : Mailbox} (h : s.Shows key box) (event : Mailbox.Event) :
    found key s (event.operation key) = (box.step event).1 ∧
      (s.perform (event.operation key)).2.Shows key (box.step event).2 := by
  cases event with
  | copied contents => exact ⟨rfl, h.perform_copy contents⟩
  | polled => exact h.perform_poll
  | closed => exact ⟨rfl, keyed_perform h.keyed .close, h.follows, rfl⟩

/-- **A listening watcher finds what the owner of a mailbox finds.** -/
theorem Shows.trace_found {box : Mailbox} (h : s.Shows key box) {ops : List Operation}
    (hleave : .unwatch key ∉ ops) :
    s.trace (found key) ops = box.run (ops.filterMap (Operation.event? key)) := by
  induction ops generalizing s box with
  | nil => rfl
  | cons op ops ih =>
    rw [List.mem_cons, not_or] at hleave
    cases hop : op.event? key with
    | none =>
      obtain ⟨hfound, hnext⟩ := h.perform_of_none hop (Ne.symm hleave.1)
      rw [List.filterMap_cons_none hop, trace, hfound, List.nil_append, ih hnext hleave.2]
    | some event =>
      obtain rfl := event?_eq_some_iff.1 hop
      obtain ⟨hfound, hnext⟩ := h.perform_operation event
      rw [List.filterMap_cons_some hop, trace, Mailbox.run, hfound, ih hnext hleave.2]

/-- **Other watchers make no difference to what a listening watcher finds,** nor does anything else
but the copies, its own polls and giving the clipboard up. -/
theorem trace_found_eq_of_events_eq {box : Mailbox} {other : ClipboardSession} {key' : Nat}
    (h : s.Shows key box) (hother : other.Shows key' box) {ops others : List Operation}
    (hleave : .unwatch key ∉ ops) (hleave' : .unwatch key' ∉ others)
    (hsame : others.filterMap (Operation.event? key') = ops.filterMap (Operation.event? key)) :
    other.trace (found key') others = s.trace (found key) ops := by
  rw [h.trace_found hleave, hother.trace_found hleave', hsame]

/-! ### From an unused clipboard -/

theorem nextKey_le_perform (s : ClipboardSession) (op : Operation) :
    s.clipboard.nextKey ≤ (s.perform op).2.clipboard.nextKey := by
  cases op with
  | write tx => exact (write_watchers s.clipboard tx).2.1.ge
  | poll other =>
    simp only [perform, poll]
    split <;> exact le_rfl
  | watch => exact Nat.le_succ _
  | copy | read | formats | current | applied | unwatch | close => exact le_rfl

theorem nextKey_le_after (s : ClipboardSession) (ops : List Operation) :
    s.clipboard.nextKey ≤ (s.after ops).clipboard.nextKey := by
  induction ops generalizing s with
  | nil => exact le_rfl
  | cons op ops ih => exact (nextKey_le_perform s op).trans (ih _)

/-- Nothing arrives for a watcher that does not watch yet. -/
theorem forKey_trace_of_nextKey_le (hkeyed : s.clipboard.Keyed) {ops : List Operation}
    (h : (s.after ops).clipboard.nextKey ≤ key) : forKey key (s.trace arrivals ops) = [] := by
  induction ops generalizing s with
  | nil => rfl
  | cons op ops ih =>
    have hnext := keyed_perform hkeyed op
    have hle : (s.perform op).2.clipboard.nextKey ≤ key := (nextKey_le_after _ ops).trans h
    rw [trace, forKey_append, ih hnext h, List.append_nil]
    exact forKey_eq_nil fun watcher hwatcher => ((hnext.lt watcher hwatcher).trans_le hle).ne

/-- Who begins to watch finds an empty mailbox. -/
theorem shows_watch (hkeyed : s.clipboard.Keyed) :
    (s.perform .watch).2.Shows s.clipboard.nextKey ⟨[], s.clipboard.isOpen⟩ where
  keyed := keyed_perform hkeyed .watch
  follows := ⟨[], List.mem_append_right _ (List.mem_singleton_self _), rfl⟩
  isOpen := rfl

/-- The transactions that come to wait for watchers are among those that the clipboard makes. -/
theorem arrivals_sublist_issued (s : ClipboardSession) (ops : List Operation) :
    ((s.trace arrivals ops).map Prod.snd).Sublist (s.trace issued ops) := by
  induction ops generalizing s with
  | nil => exact List.Sublist.slnil
  | cons op ops ih =>
    rw [trace, trace, List.map_append]
    exact (List.sublist_append_right _ _).append (ih _)

/-- The identifiers of what comes to wait for watchers differ if the supply does not repeat
itself. -/
theorem nodup_arrivals (hkeyed : s.clipboard.Keyed) {ops : List Operation}
    (hids : (s.ids.drawnUntil (s.after ops).ids).Nodup) :
    ((s.trace arrivals ops).map fun arrival => arrival.2.id).Nodup := by
  have hsublist := (arrivals_sublist_issued s ops).map Transaction.id
  rw [List.map_map] at hsublist
  exact hids.sublist (hsublist.trans (issued_sublist hkeyed ops))

/-- A watcher learns that a clipboard was given up once nothing waits any more. -/
theorem poll_eq_disconnected_iff (clipboard : MemoryClipboard) (key : Nat) :
    (clipboard.poll key).1 = .disconnected ↔
      clipboard.isOpen = false ∧ clipboard.waiting key = [] := by
  rw [MemoryClipboard.poll]
  cases clipboard.waiting key with
  | nil => cases clipboard.isOpen <;> simp
  | cons tx rest => simp

/-- **What a watcher gets to see.** Someone begins to watch a clipboard that was used before, and
listens for as long as we look. What was delivered to it is what it received, in order, and then
what waits for it: one open transaction for each copy that found room, with exactly its contents.
It finds what the owner of a mailbox finds to whom only the copies, its own polls and giving the
clipboard up happen, and it is told that the clipboard was given up once nothing waits. Nothing but
a copy ever delivers something, and all deliveries to anyone have different identifiers unless the
supply repeats itself. -/
theorem watcher_deliveries (supported : List Format) (maxSize : Nat) (ids : IdSource)
    (earlier later : List Operation) :
    let first := start supported maxSize ids
    let key := (first.after earlier).clipboard.nextKey
    let watching := first.after (earlier ++ [.watch])
    let last := watching.after later
    let waiting := last.clipboard.waiting key
    let arrived := first.trace arrivals (earlier ++ .watch :: later)
    ((first.after earlier).perform .watch).1 = .watching key ∧
    (.unwatch key ∉ later →
      watching.trace (received key) later ++ waiting = forKey key arrived ∧
      (forKey key arrived).map (fun tx => (tx.contents, tx.state)) =
        (watching.trace (accepted key) later).map (fun contents => (contents, .accumulating)) ∧
      watching.trace (found key) later =
        Mailbox.run ⟨[], .close ∉ earlier⟩ (later.filterMap (Operation.event? key)) ∧
      ((last.perform (.poll key)).1 = .found .disconnected ↔
        .close ∈ earlier ++ later ∧ waiting = [])) ∧
    (∀ op, (∀ contents, op ≠ .copy contents) → last.arrivals op = []) ∧
    ((ids.drawnUntil last.ids).Nodup → (arrived.map fun arrival => arrival.2.id).Nodup) := by
  intro first key watching last waiting arrived
  have hkeyed : first.clipboard.Keyed := keyed_make supported maxSize
  have hbefore : (first.after earlier).clipboard.Keyed := keyed_after hkeyed earlier
  have hwatching : watching = ((first.after earlier).perform .watch).2 :=
    after_append first earlier [.watch]
  have hlast : last = first.after (earlier ++ .watch :: later) := by
    simp only [last, watching, ← after_append, List.append_assoc, List.singleton_append]
  have hshows : watching.Shows key ⟨[], (first.after earlier).clipboard.isOpen⟩ :=
    hwatching ▸ shows_watch hbefore
  have harrived : forKey key arrived = forKey key (watching.trace arrivals later) := by
    simp only [arrived]
    rw [trace_append, forKey_append, forKey_trace_of_nextKey_le hkeyed le_rfl, trace,
      arrivals_eq_nil hbefore (by simp), ← hwatching]
    rfl
  refine ⟨rfl, fun hleave => ?_, fun op hop => arrivals_eq_nil (keyed_after hshows.keyed later) hop,
    fun hids => ?_⟩
  · have hopen : (first.after earlier).clipboard.isOpen = decide (.close ∉ earlier) :=
      (isOpen_after first earlier).trans (Bool.true_and _)
    obtain ⟨before, hfollows, hnone⟩ := hshows.follows
    obtain rfl : before = [] := List.map_eq_nil_iff.1 hnone.symm
    obtain ⟨left, hlater, hkept, hcopies⟩ := follows_after hshows.keyed hfollows hleave
    have hwaiting : waiting = left := hlater.waiting_eq (keyed_after hshows.keyed later)
    rw [harrived, hwaiting]
    refine ⟨hkept, hcopies, ?_, ?_⟩
    · rw [hshows.trace_found hleave, hopen]
    · have hclosed : last.clipboard.isOpen = false ↔ .close ∈ earlier ++ later := by
        rw [hlast, isOpen_after_eq_false_iff rfl, List.mem_append, List.mem_append, List.mem_cons]
        simp only [reduceCtorEq, false_or]
      rw [perform, Answer.found.injEq, poll_eq_disconnected_iff, hclosed, ← hwaiting]
  · rw [hlast] at hids
    exact nodup_arrivals hkeyed hids

/-- A note and a picture are copied while another watcher lags and leaves, the note is taken, and
the clipboard is given up. -/
def followedUses : List Operation :=
  [.copy [.text "note"], .unwatch 0, .copy [.png [1, 2, 3], .text "seen"], .poll 1, .read, .close]

/-- The second watcher got the note, the picture waits for it, and it is not told yet that nothing
more will come. -/
theorem watcher_deliveries_second :
    let first := start [.plainText] 8 (.counting 40)
    let watching := first.after ([.watch, .copy [.html "<p>"]] ++ [.watch])
    let last := watching.after followedUses
    .unwatch 1 ∉ followedUses ∧ (first.ids.drawnUntil last.ids).Nodup ∧
      (watching.trace (received 1) followedUses ++ last.clipboard.waiting 1).map
          (fun tx => (tx.contents, tx.state)) =
        [([.text "note"], .accumulating), ([.png [1, 2, 3], .text "seen"], .accumulating)] ∧
      watching.trace (found 1) followedUses =
        [.received (.ofContents default [.text "note"])] ∧
      (last.perform (.poll 1)).1 ≠ .found .disconnected ∧
      ((first.trace arrivals ([.watch, .copy [.html "<p>"]] ++ .watch :: followedUses)).map
        fun arrival => arrival.2.id).Nodup := by
  intro first watching last
  have hleave : .unwatch 1 ∉ followedUses := by decide
  have hids : (first.ids.drawnUntil last.ids).Nodup := by decide
  obtain ⟨-, hlistening, -, hdistinct⟩ :=
    watcher_deliveries [.plainText] 8 (.counting 40) [.watch, .copy [.html "<p>"]] followedUses
  obtain ⟨hkept, hcopies, hfound, hclosed⟩ := hlistening hleave
  refine ⟨hleave, hids, ?_, hfound, fun hpoll => ?_, hdistinct hids⟩
  · exact (congrArg _ hkept).trans hcopies
  · exact absurd (hclosed.1 hpoll).2 (by decide)

end ClipboardSession

end ClipExchange
