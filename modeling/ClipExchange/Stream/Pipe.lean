import ClipExchange.Wire.Frame

/-!
# Framed messages over a pipe

A pipe is a queue of octets with a writer at one end and a reader at the other. One transfer
moves a bounded number of octets, so a message takes several of them. At each end a failure
may be pending: no transfer runs past its position, and the transfer that would start there
fails instead, once.

Sending writes the header and then the payload; a payload over the limit is refused before
anything is written. Receiving reads the header, checks the length, reads the payload and
decodes it. A stream that ends before the first octet of a header has ended cleanly; one that
ends later was closed inside a frame.

## Main definitions

* `Pipe`: the queue and its two ends.
* `Pipe.writeAll`, `Pipe.gather`: all transfers of one buffer.
* `Pipe.send`, `Pipe.receive`: one message.
-/

namespace ClipExchange

/-- A failure that awaits the transfer which would start at a position. -/
structure PendingFailure where
  position : Nat
  failure : StreamFailure
deriving DecidableEq, Repr

/-- One end of a pipe: the number of octets that have passed it, and what awaits it. -/
structure PipeEnd where
  passed : Nat
  pending : Option PendingFailure
deriving DecidableEq, Repr

namespace PipeEnd

/-- The failure that the next transfer meets. -/
def due? (side : PipeEnd) : Option StreamFailure :=
  match side.pending with
  | some fault => if fault.position ≤ side.passed then some fault.failure else none
  | none => none

/-- The most octets that the next transfer may move without running past a failure. -/
def room (side : PipeEnd) (want : Nat) : Nat :=
  match side.pending with
  | some fault => min want (fault.position - side.passed)
  | none => want

/-- The end after some octets have passed it. -/
def advance (side : PipeEnd) (count : Nat) : PipeEnd :=
  { side with passed := side.passed + count }

/-- The end after its failure was met. -/
def recover (side : PipeEnd) : PipeEnd :=
  { side with pending := none }

/-- A transfer that meets no failure may move something. -/
theorem room_pos {side : PipeEnd} {want : Nat} (hwant : 0 < want) (hdue : side.due? = none) :
    0 < side.room want := by
  unfold room
  unfold due? at hdue
  split
  · rename_i fault hfault
    rw [hfault] at hdue
    have : ¬ fault.position ≤ side.passed := by
      intro h
      simp [h] at hdue
    omega
  · exact hwant

theorem room_le (side : PipeEnd) (want : Nat) : side.room want ≤ want := by
  unfold room
  split <;> omega

end PipeEnd

/-- The most octets that one transfer moves; no limit if absent. -/
abbrev ChunkLimit := Option { n : Nat // 0 < n }

namespace ChunkLimit

/-- A number of octets cut down to the limit. -/
def cut (limit : ChunkLimit) (want : Nat) : Nat :=
  match limit with
  | some n => min n.val want
  | none => want

theorem cut_pos (limit : ChunkLimit) {want : Nat} (h : 0 < want) : 0 < limit.cut want := by
  unfold cut
  split
  · rename_i n
    have := n.property
    omega
  · exact h

theorem cut_le (limit : ChunkLimit) (want : Nat) : limit.cut want ≤ want := by
  unfold cut
  split <;> omega

end ChunkLimit

/-- A queue of octets between a writer and a reader. -/
structure Pipe where
  queue : Bytes
  limit : ChunkLimit
  reader : PipeEnd
  writer : PipeEnd
  isShut : Bool
deriving DecidableEq

/-- How an attempt to read a number of octets ended, with the octets that were read. -/
inductive Gathered where
  /-- All of them were read. -/
  | all (data : Bytes)
  /-- The stream ended before. -/
  | ended (data : Bytes)
  /-- A transfer failed before. -/
  | failed (data : Bytes) (failure : StreamFailure)
deriving DecidableEq

namespace Pipe

/-- An empty pipe. -/
def make (limit : ChunkLimit) (readFault writeFault : Option PendingFailure) : Pipe where
  queue := []
  limit := limit
  reader := ⟨0, readFault⟩
  writer := ⟨0, writeFault⟩
  isShut := false

/-- A pipe from which the given octets can be read. -/
def ofBytes (data : Bytes) : Pipe :=
  { make none none none with queue := data, writer := ⟨data.length, none⟩ }

/-- A pipe whose first read fails. -/
def failing (failure : StreamFailure) : Pipe :=
  make none (some ⟨0, failure⟩) none

/-- The octets that one transfer moves when it meets no failure. -/
def transfer (limit : ChunkLimit) (side : PipeEnd) (want : Nat) : Nat :=
  limit.cut (side.room want)

theorem transfer_pos (limit : ChunkLimit) {side : PipeEnd} {want : Nat} (hwant : 0 < want)
    (hdue : side.due? = none) : 0 < transfer limit side want :=
  limit.cut_pos (PipeEnd.room_pos hwant hdue)

theorem transfer_le (limit : ChunkLimit) (side : PipeEnd) (want : Nat) :
    transfer limit side want ≤ want :=
  Nat.le_trans (limit.cut_le _) (side.room_le want)

/-- Write what is left of a buffer, transfer by transfer; `done` was accepted before, last
octet first. The result is all that was accepted, and the failure that cut it short. -/
def writeFrom (limit : ChunkLimit) (side : PipeEnd) (done left : Bytes) :
    Bytes × PipeEnd × Option StreamFailure :=
  if hleft : left = [] then (done.reverse, side, none)
  else
    match hdue : side.due? with
    | some failure => (done.reverse, side.recover, some failure)
    | none =>
      let count := transfer limit side left.length
      have : (left.drop count).length < left.length := by
        have hlength : 0 < left.length := List.length_pos_iff.2 hleft
        have : 0 < count := transfer_pos limit hlength hdue
        simp only [List.length_drop]
        omega
      writeFrom limit (side.advance count) ((left.take count).reverse ++ done) (left.drop count)
termination_by left.length
decreasing_by assumption

/-- Write a whole buffer, or what is accepted of it before a failure. -/
def writeAll (data : Bytes) (pipe : Pipe) : Option StreamFailure × Pipe :=
  let (accepted, side, failure) := writeFrom pipe.limit pipe.writer [] data
  (failure, { pipe with queue := pipe.queue ++ accepted, writer := side })

/-- Read until `want` more octets have come, transfer by transfer; `done` came before, last
octet first. -/
def gatherFrom (limit : ChunkLimit) (side : PipeEnd) (queue done : Bytes) (want : Nat) :
    Gathered × Bytes × PipeEnd :=
  if hwant : want = 0 then (.all done.reverse, queue, side)
  else
    match hdue : side.due? with
    | some failure => (.failed done.reverse failure, queue, side.recover)
    | none =>
      let front := queue.take (transfer limit side want)
      let count := front.length
      if hcount : count = 0 then (.ended done.reverse, queue, side)
      else
        have : want - count < want := by omega
        gatherFrom limit (side.advance count) (queue.drop count) (front.reverse ++ done)
          (want - count)
termination_by want
decreasing_by assumption

/-- Read a number of octets, or what there is of them before the end or a failure. -/
def gather (want : Nat) (pipe : Pipe) : Gathered × Pipe :=
  let (result, queue, side) := gatherFrom pipe.limit pipe.reader pipe.queue [] want
  (result, { pipe with queue := queue, reader := side })

/-- Put octets into the queue that no writer sent. -/
def inject (data : Bytes) (pipe : Pipe) : Pipe :=
  { pipe with queue := pipe.queue ++ data }

/-- Shut the writing end. -/
def shut (pipe : Pipe) : Pipe :=
  { pipe with isShut := true }

/-- Send one message. -/
def send {α : Type} [Wire.Codec α] (value : α) (pipe : Pipe) : Except TransferError Unit × Pipe :=
  match Wire.payload value with
  | .error e => (.error e, pipe)
  | .ok payload =>
    match pipe.writeAll (Wire.header payload.length) with
    | (some failure, pipe) => (.error (.stream failure), pipe)
    | (none, pipe) =>
      match pipe.writeAll payload with
      | (some failure, pipe) => (.error (.stream failure), pipe)
      | (none, pipe) => (.ok (), pipe)

/-- The value of a payload that has come whole. -/
def decoded (α : Type) [Wire.Codec α] (payload : Bytes) : Except TransferError (Option α) :=
  match Wire.decode payload with
  | .ok value => .ok (some value)
  | .error cause => .error (.decoding cause)

/-- Receive the payload of a frame of the given length. A stream that fails by ending early
counts as closed. -/
def receivePayload (α : Type) [Wire.Codec α] (length : Nat) (pipe : Pipe) :
    Except TransferError (Option α) × Pipe :=
  match pipe.gather length with
  | (.all payload, pipe) => (decoded α payload, pipe)
  | (.ended _, pipe) => (.error .streamClosed, pipe)
  | (.failed _ failure, pipe) =>
    if failure.kind = .unexpectedEnd then (.error .streamClosed, pipe)
    else (.error (.stream failure), pipe)

/-- Receive one message; none if the stream ended before its first octet. -/
def receive (α : Type) [Wire.Codec α] (pipe : Pipe) : Except TransferError (Option α) × Pipe :=
  match pipe.gather Wire.headerLength with
  | (.failed _ failure, pipe) => (.error (.stream failure), pipe)
  | (.ended [], pipe) => (.ok none, pipe)
  | (.ended _, pipe) => (.error .streamClosed, pipe)
  | (.all header, pipe) =>
    let length := Bytes.ofBigEndian header
    if Wire.maxPayload < length then (.error (.frameTooLarge length Wire.maxPayload), pipe)
    else pipe.receivePayload α length

end Pipe

end ClipExchange
