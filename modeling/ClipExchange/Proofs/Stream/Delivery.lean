import Mathlib
import ClipExchange.Proofs.Stream.Framing
import ClipExchange.Proofs.Wire.Lengths

/-!
# Delivery in order

Two parties use the ends of one pipe without failures: one sends values of several types, the
other asks each time for a value of the type that is next. In whatever order they take their
turns, and however the pipe cuts its transfers, the values that were sent and not yet received
are the ones whose frames wait in the queue, in the order in which they were sent. A value over
the limit takes no place among them.

## Main definitions

* `Parcel`: a value with its type.
* `Session`: a pipe with the values that were sent and received over it.
* `Session.Reachable`: the sessions that two such parties can bring about.
* `Session.InTransit`: the invariant, some parcels wait in the queue.

## Main results

* `Session.InTransit.send`, `Session.InTransit.receive`: what one step does to the queue.
* `Session.Reachable.inTransit`: the invariant holds throughout.
* `Session.delivery_in_order`: what is received is what was sent, in order.
-/

namespace ClipExchange

open Wire

/-- A value with the type as which it crosses a session. -/
structure Parcel where
  kind : Kind
  value : kind.Value

/-- The written form of the value. -/
def Parcel.payload (parcel : Parcel) : Bytes :=
  Codec.put parcel.value

/-- A pipe with the values that were sent and received over it, oldest first. -/
structure Session where
  pipe : Pipe
  sent : List Parcel
  received : List Parcel

namespace Session

/-- A fresh pipe without failures. -/
def start (limit : ChunkLimit) : Session :=
  ⟨.make limit none none, [], []⟩

/-- Send a parcel, which counts as sent unless it is refused. -/
def send (s : Session) (parcel : Parcel) : Session :=
  match s.pipe.send parcel.value with
  | (.ok (), pipe) => { s with pipe := pipe, sent := s.sent ++ [parcel] }
  | (.error _, pipe) => { s with pipe := pipe }

/-- Ask for a value of some type; one that comes counts as received. -/
def receive (s : Session) (kind : Kind) : Session :=
  match s.pipe.receive kind.Value with
  | (.ok (some value), pipe) => { s with pipe := pipe, received := s.received ++ [⟨kind, value⟩] }
  | (_, pipe) => { s with pipe := pipe }

/-- The oldest parcel that was sent and not received. -/
def next? (s : Session) : Option Parcel :=
  s.sent[s.received.length]?

/-- The sessions that come about by sending any parcels and asking for the next one, or for a
value of any type where there is none, in any order. -/
inductive Reachable (limit : ChunkLimit) : Session → Prop
  | start : Reachable limit (start limit)
  | send {s : Session} (hs : Reachable limit s) (parcel : Parcel) : Reachable limit (s.send parcel)
  | receive {s : Session} (hs : Reachable limit s) (kind : Kind)
      (hkind : ∀ parcel ∈ s.next?, parcel.kind = kind) : Reachable limit (s.receive kind)

/-- The given parcels were sent and not received, and the queue holds their frames. -/
structure InTransit (s : Session) (waiting : List Parcel) : Prop where
  reader : s.pipe.reader.pending = none
  writer : s.pipe.writer.pending = none
  sizes : ∀ parcel ∈ waiting, parcel.payload.length ≤ maxPayload
  sent : s.sent = s.received ++ waiting
  queue : s.pipe.queue = waiting.flatMap fun parcel => framed parcel.payload

variable {limit : ChunkLimit} {s : Session} {parcel : Parcel} {waiting : List Parcel}

/-! ### One step -/

/-- A parcel over the limit leaves the session as it was. -/
theorem send_of_lt (h : maxPayload < parcel.payload.length) : s.send parcel = s := by
  rw [send, Pipe.send_of_lt h]

theorem InTransit.send_eq (hs : s.InTransit waiting) (h : parcel.payload.length ≤ maxPayload) :
    s.send parcel = { s with
      pipe := { s.pipe with
        queue := s.pipe.queue ++ framed parcel.payload
        writer := s.pipe.writer.advance (headerLength + parcel.payload.length) }
      sent := s.sent ++ [parcel] } := by
  rw [send, Pipe.send_of_le hs.writer h]
  rfl

/-- A parcel within the limit goes behind those that wait. -/
theorem InTransit.send (hs : s.InTransit waiting) (h : parcel.payload.length ≤ maxPayload) :
    (s.send parcel).InTransit (waiting ++ [parcel]) := by
  rw [hs.send_eq h]
  constructor
  case reader => exact hs.reader
  case writer => exact hs.writer
  case sizes =>
    intro p hp
    rcases List.mem_append.1 hp with hp | hp
    · exact hs.sizes p hp
    · rwa [List.mem_singleton.1 hp]
  case sent => simp only [hs.sent, List.append_assoc]
  case queue => simp [hs.queue]

theorem InTransit.pipe_receive (hs : s.InTransit (parcel :: waiting)) (kind : Kind) :
    s.pipe.receive kind.Value =
      (((decode parcel.payload).map some).mapError .decoding, { s.pipe with
        queue := waiting.flatMap fun parcel => framed parcel.payload
        reader := s.pipe.reader.advance (headerLength + parcel.payload.length) }) :=
  Pipe.receive_framed hs.reader (hs.sizes parcel List.mem_cons_self) hs.queue

theorem InTransit.pipe_receive_kind (hs : s.InTransit (parcel :: waiting)) :
    (s.pipe.receive parcel.kind.Value).1 = .ok (some parcel.value) := by
  have hdecode : decode parcel.payload = .ok parcel.value :=
    decode_put (hs.sizes parcel List.mem_cons_self)
  rw [hs.pipe_receive, hdecode]
  rfl

theorem InTransit.receive_eq (hs : s.InTransit (parcel :: waiting)) :
    s.receive parcel.kind = { s with
      pipe := (s.pipe.receive parcel.kind.Value).2
      received := s.received ++ [parcel] } := by
  have hreceive : s.pipe.receive parcel.kind.Value =
      (.ok (some parcel.value), (s.pipe.receive parcel.kind.Value).2) :=
    Prod.ext hs.pipe_receive_kind rfl
  rw [Session.receive, hreceive]

/-- Asking for the oldest parcel takes it and leaves the others. -/
theorem InTransit.receive (hs : s.InTransit (parcel :: waiting)) :
    (s.receive parcel.kind).InTransit waiting := by
  rw [hs.receive_eq, hs.pipe_receive]
  constructor
  case reader => exact hs.reader
  case writer => exact hs.writer
  case sizes => exact fun p hp => hs.sizes p (List.mem_cons_of_mem _ hp)
  case sent => simp [hs.sent]
  case queue => rfl

/-- Where no parcel waits, asking for one changes nothing. -/
theorem InTransit.receive_nil (hs : s.InTransit []) (kind : Kind) : s.receive kind = s := by
  rw [Session.receive, Pipe.receive_nil hs.reader hs.queue]

theorem InTransit.next? (hs : s.InTransit waiting) : s.next? = waiting.head? := by
  rw [Session.next?, hs.sent, List.getElem?_append_right le_rfl, Nat.sub_self,
    List.head?_eq_getElem?]

/-! ### A whole run -/

theorem inTransit_start (limit : ChunkLimit) : (start limit).InTransit [] where
  reader := rfl
  writer := rfl
  sizes := fun _ h => absurd h List.not_mem_nil
  sent := rfl
  queue := rfl

/-- **The queue holds what is in transit.** -/
theorem Reachable.inTransit (hs : Reachable limit s) : ∃ waiting, s.InTransit waiting := by
  induction hs with
  | start => exact ⟨[], inTransit_start limit⟩
  | send hs parcel ih =>
    obtain ⟨waiting, h⟩ := ih
    -- Only a parcel within the limit joins those that wait.
    by_cases hsize : maxPayload < parcel.payload.length
    · rw [send_of_lt hsize]
      exact ⟨waiting, h⟩
    · exact ⟨waiting ++ [parcel], h.send (not_lt.1 hsize)⟩
  | receive hs kind hkind ih =>
    obtain ⟨waiting, h⟩ := ih
    cases waiting with
    | nil =>
      rw [h.receive_nil]
      exact ⟨[], h⟩
    | cons parcel waiting =>
      obtain rfl := hkind parcel (by rw [h.next?]; rfl)
      exact ⟨waiting, h.receive⟩

/-! ### A parcel of the largest length -/

/-- An answer that carries one image. -/
def imageParcel (id : TransactionId) (data : Bytes) : Parcel :=
  ⟨.message, .data id [.png data]⟩

theorem length_payload_imageParcel (id : TransactionId) {data : Bytes} (h : 65536 ≤ data.length)
    (h' : data.length < 4294967296) :
    (imageParcel id data).payload.length = data.length + 25 := by
  change (Codec.put (Transaction.ofContents id [.png data]).data).length = _
  have hwidth : width data.length = 5 := by
    rw [width, if_neg (by omega), if_neg (by omega), if_pos h']
  have hone : width 1 = 1 := rfl
  rw [length_put_data, Transaction.size_ofContents]
  simp [Transaction.overhead, Transaction.length, Transaction.ofContents, Content.size,
    Content.overhead, hwidth, hone]

/-! ### Delivery -/

/-- Only the end of the stream is reported as the end. -/
theorem InTransit.pipe_receive_eq_none_iff (hs : s.InTransit waiting) (kind : Kind) :
    (s.pipe.receive kind.Value).1 = .ok none ↔ waiting = [] := by
  cases waiting with
  | nil =>
    rw [Pipe.receive_nil hs.reader hs.queue]
    simp
  | cons parcel waiting =>
    rw [hs.pipe_receive]
    cases (decode parcel.payload : Except DecodeError kind.Value) <;>
      simp [Except.map, Except.mapError]

theorem InTransit.received_eq_sent_iff (hs : s.InTransit waiting) :
    s.received = s.sent ↔ waiting = [] := by
  rw [hs.sent, List.self_eq_append_right]

/-- **What is received is what was sent, in order.** In every session that sending and asking for
the next parcel bring about: the parcels received are the first of those sent, and the queue
holds the frames of the others. A parcel over the limit is refused and nothing changes; any other
is accepted and its frame is put behind the queue. The end is reported exactly where everything
sent was received, and otherwise the next parcel is received. A payload of exactly the limit is
accepted by both ends. -/
theorem delivery_in_order (hs : Reachable limit s) :
    (s.received <+: s.sent ∧
      s.pipe.queue = (s.sent.drop s.received.length).flatMap fun parcel =>
        framed parcel.payload) ∧
    (∀ parcel : Parcel,
      if maxPayload < parcel.payload.length then
        s.pipe.send parcel.value =
          (.error (.frameTooLarge parcel.payload.length maxPayload), s.pipe) ∧
        s.send parcel = s
      else
        ∃ octets, frame parcel.value = .ok octets ∧ (s.pipe.send parcel.value).1 = .ok () ∧
          (s.send parcel).pipe.queue = s.pipe.queue ++ octets ∧
          (s.send parcel).sent = s.sent ++ [parcel] ∧ (s.send parcel).received = s.received) ∧
    (∀ kind : Kind, (s.pipe.receive kind.Value).1 = .ok none ↔ s.received = s.sent) ∧
    (∀ parcel ∈ s.next?, (s.pipe.receive parcel.kind.Value).1 = .ok (some parcel.value) ∧
      (s.receive parcel.kind).received = s.received ++ [parcel] ∧
      (s.receive parcel.kind).sent = s.sent) ∧
    ∀ parcel : Parcel, parcel.payload.length = maxPayload →
      (s.pipe.send parcel.value).1 = .ok () ∧
      (s.received = s.sent →
        ((s.send parcel).pipe.receive parcel.kind.Value).1 = .ok (some parcel.value)) := by
  obtain ⟨waiting, h⟩ := hs.inTransit
  refine ⟨⟨?_, ?_⟩, fun parcel => ?_, fun kind => ?_, fun parcel hnext => ?_,
    fun parcel hfull => ⟨?_, fun hall => ?_⟩⟩
  · exact ⟨waiting, h.sent.symm⟩
  · rw [h.sent, List.drop_left, h.queue]
  · split_ifs with hsize
    · exact ⟨Pipe.send_of_lt hsize, send_of_lt hsize⟩
    · have hle := not_lt.1 hsize
      refine ⟨framed parcel.payload, frame_of_le hle, ?_, ?_⟩
      · rw [Pipe.send_of_le h.writer hle]
      · rw [h.send_eq hle]
        exact ⟨rfl, rfl, rfl⟩
  · rw [h.pipe_receive_eq_none_iff, h.received_eq_sent_iff]
  · rw [h.next?] at hnext
    obtain ⟨rest, rfl⟩ := List.head?_eq_some_iff.1 hnext
    rw [h.receive_eq]
    exact ⟨h.pipe_receive_kind, rfl, rfl⟩
  · rw [Pipe.send_of_le h.writer hfull.le]
  · obtain rfl := h.received_eq_sent_iff.1 hall
    exact (h.send hfull.le).pipe_receive_kind

/-- Two parcels of different types in transit over a pipe that moves one octet at a time. -/
def twoInTransit : Session :=
  ((start (some ⟨1, Nat.one_pos⟩)).send ⟨.version, .current⟩).send ⟨.format, .html⟩

/-- The older of two parcels is received, and an answer of the largest length is accepted. -/
theorem delivery_in_order_two :
    Reachable (some ⟨1, Nat.one_pos⟩) twoInTransit ∧
      (twoInTransit.pipe.receive Version).1 = .ok (some .current) ∧
      (twoInTransit.pipe.send
        (imageParcel (.ofNat 1) (List.replicate (maxPayload - 25) 0)).value).1 = .ok () := by
  have hs : Reachable (some ⟨1, Nat.one_pos⟩) twoInTransit := .send (.send .start _) _
  obtain ⟨-, -, -, hnext, hfull⟩ := delivery_in_order hs
  have hversion : twoInTransit.InTransit [⟨.version, .current⟩, ⟨.format, .html⟩] :=
    ((inTransit_start _).send (by decide)).send (by decide)
  refine ⟨hs, (hnext ⟨.version, .current⟩ hversion.next?).1, (hfull _ ?_).1⟩
  rw [length_payload_imageParcel] <;> rw [List.length_replicate] <;> decide

end Session

end ClipExchange
