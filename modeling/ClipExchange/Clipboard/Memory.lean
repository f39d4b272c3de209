import ClipExchange.Clipboard.Error

/-!
# A clipboard in memory

This clipboard is like that of a platform that holds a single written representation: writing
a transaction applies the first item whose format it supports. Whoever copies locally puts any
list of representations on it, and every watcher is told of that copy by a transaction of its
own. A watcher that has sixteen transactions waiting misses further copies until it takes one.

## Main definitions

* `MemoryClipboard`: the content, the writes applied so far, and the watchers.
* `MemoryClipboard.copy`, `MemoryClipboard.read`, `MemoryClipboard.write`: its uses.
* `MemoryClipboard.watch`, `MemoryClipboard.poll`: following the local copies.
-/

namespace ClipExchange

/-- A representation that a write put on the clipboard, and the transaction it came from. -/
structure AppliedItem where
  id : TransactionId
  content : Content
deriving DecidableEq

/-- Someone who follows the copies made on a clipboard, with the transactions not yet taken. -/
structure Watcher where
  key : Nat
  waiting : List Transaction
  isListening : Bool
deriving DecidableEq

/-- What a watcher finds when it looks for the next change. -/
inductive Change where
  | received (tx : Transaction)
  | empty
  | disconnected
deriving DecidableEq

/-- The most transactions that wait for one watcher. -/
def Watcher.capacity : Nat := 16

/-- Put a transaction behind the waiting ones, unless there are too many. Nothing can be delivered
to someone who has gone. -/
def Watcher.deliver? (watcher : Watcher) (tx : Transaction) : Option Watcher :=
  if !watcher.isListening then none
  else if watcher.waiting.length < capacity then
    some { watcher with waiting := watcher.waiting ++ [tx] }
  else some watcher

/-- Take the oldest waiting transaction. -/
def Watcher.advance (watcher : Watcher) : Watcher :=
  { watcher with waiting := watcher.waiting.drop 1 }

/-- Go away, and drop what waits. -/
def Watcher.leave (watcher : Watcher) : Watcher :=
  { watcher with waiting := [], isListening := false }

/-- A clipboard in memory. -/
structure MemoryClipboard where
  supported : List Format
  maxSize : Nat
  current : List Content
  applied : List AppliedItem
  watchers : List Watcher
  nextKey : Nat
  isOpen : Bool
deriving DecidableEq

namespace MemoryClipboard

/-- An empty clipboard that takes the given formats. -/
def make (supported : List Format) (maxSize : Nat) : MemoryClipboard :=
  ⟨supported, maxSize, [], [], [], 0, true⟩

/-- Tell every watcher of some contents, each by a transaction of its own. Those who turn out to
have gone are forgotten. -/
def deliverAll (contents : List Content) : List Watcher → IdSource → List Watcher × IdSource
  | [], ids => ([], ids)
  | watcher :: rest, ids =>
    let (id, ids) := ids.draw
    let (rest, ids) := deliverAll contents rest ids
    match watcher.deliver? (.ofContents id contents) with
    | some watcher => (watcher :: rest, ids)
    | none => (rest, ids)

/-- Copy locally, most preferred representation first. -/
def copy (clipboard : MemoryClipboard) (contents : List Content) (ids : IdSource) :
    MemoryClipboard × IdSource :=
  let (watchers, ids) := deliverAll contents clipboard.watchers ids
  ({ clipboard with current := contents, watchers := watchers }, ids)

/-- Everything on the clipboard in a fresh transaction, if it is not too large. -/
def read (clipboard : MemoryClipboard) (ids : IdSource) :
    Except ClipboardError Transaction × IdSource :=
  let (id, ids) := ids.draw
  let tx := Transaction.ofContents id clipboard.current
  ((tx.checkSize clipboard.maxSize).map fun () => tx, ids)

/-- The first of some representations whose format is supported. The others are passed over. -/
def firstSupported (supported : List Format) : List Content → Option Content
  | [] => none
  | content :: rest =>
    if supported.contains content.format then some content else firstSupported supported rest

/-- Apply the first representation whose format is supported. A transaction without content
changes nothing. -/
def write (clipboard : MemoryClipboard) (tx : Transaction) :
    Except ClipboardError Unit × MemoryClipboard :=
  if tx.isEmpty then (.ok (), clipboard)
  else
    match tx.checkSize clipboard.maxSize with
    | .error e => (.error e, clipboard)
    | .ok () =>
      match firstSupported clipboard.supported tx.contents with
      | none => (.error .formatUnavailable, clipboard)
      | some content =>
        (.ok (), { clipboard with
          current := [content], applied := clipboard.applied ++ [⟨tx.id, content⟩] })

/-- The formats on the clipboard, in order. -/
def formats (clipboard : MemoryClipboard) : List Format :=
  clipboard.current.map Content.format

/-- Follow the copies from now on. -/
def watch (clipboard : MemoryClipboard) : Nat × MemoryClipboard :=
  (clipboard.nextKey, { clipboard with
    watchers := clipboard.watchers ++ [⟨clipboard.nextKey, [], true⟩]
    nextKey := clipboard.nextKey + 1 })

/-- Change the watcher with the given key. -/
def alterWatcher (clipboard : MemoryClipboard) (key : Nat) (change : Watcher → Watcher) :
    MemoryClipboard :=
  { clipboard with
    watchers := clipboard.watchers.map fun watcher =>
      if watcher.key = key then change watcher else watcher }

/-- Follow the copies no more. The clipboard finds out at the next copy. -/
def unwatch (clipboard : MemoryClipboard) (key : Nat) : MemoryClipboard :=
  clipboard.alterWatcher key Watcher.leave

/-- The waiting transactions of a watcher, oldest first. -/
def waiting (clipboard : MemoryClipboard) (key : Nat) : List Transaction :=
  match clipboard.watchers.find? fun watcher => watcher.key = key with
  | some watcher => watcher.waiting
  | none => []

/-- Take the oldest waiting transaction of a watcher. A clipboard that is gone still hands out
what waits. -/
def poll (clipboard : MemoryClipboard) (key : Nat) : Change × MemoryClipboard :=
  match clipboard.waiting key with
  | tx :: _ => (.received tx, clipboard.alterWatcher key Watcher.advance)
  | [] => (if clipboard.isOpen then .empty else .disconnected, clipboard)

/-- Give the clipboard up; only what waits for its watchers is left. -/
def close (clipboard : MemoryClipboard) : MemoryClipboard :=
  { clipboard with isOpen := false }

end MemoryClipboard

end ClipExchange
