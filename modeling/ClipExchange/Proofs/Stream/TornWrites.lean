import Mathlib
import ClipExchange.Proofs.Stream.Delivery
import ClipExchange.Proofs.Stream.FailingReads

/-!
# Torn writes

A failure may await the writer of a pipe at any position. Sends before it go through, and the
send that meets it leaves in the queue what was accepted of its frame: nothing, a part of the
header, the header, or the header and a part of the payload. Whoever reads the queue gets the
values that were sent; then the stream has ended, if nothing was accepted of the last frame, and
is closed inside a frame otherwise. What was accepted is never taken for a value.

## Main definitions

* `Session.Flowing`: the sessions that sends bring about before one meets the failure.
* `Session.Untorn`: the invariant, the queue holds the frames of what was sent.
* `Pipe.Drains`: what is received from a pipe, one value after the other.

## Main results

* `Pipe.send_of_le_position`, `Pipe.send_of_position_lt`: a send that goes through, and one that
  meets the failure.
* `Pipe.receive_torn`: what is received of a frame that was cut short.
* `Session.Flowing.untorn`: the invariant holds until a send meets the failure.
* `Session.torn_write`: what the failing send leaves, and what is received of it.
-/

namespace ClipExchange

open Wire

namespace Pipe

variable {α : Type} [Codec α] {pipe : Pipe} {fault : PendingFailure}

/-! ### Sending towards a failure -/

variable {value : α}

/-- A value whose frame ends before the failure is sent. -/
theorem send_of_le_position (hpending : pipe.writer.pending = some fault)
    (hsize : (Codec.put value).length ≤ maxPayload)
    (h : pipe.writer.passed + (framed (Codec.put value)).length ≤ fault.position) :
    pipe.send value = (.ok (), { pipe with
      queue := pipe.queue ++ framed (Codec.put value)
      writer := pipe.writer.advance (framed (Codec.put value)).length }) :=
  send_of_passes hsize (PipeEnd.passes_of_le_position hpending h)

/-- The send of a value whose frame runs over the failure fails, and the octets of the frame before
the failure are accepted. -/
theorem send_of_position_lt (hpending : pipe.writer.pending = some fault)
    (hsize : (Codec.put value).length ≤ maxPayload) (hle : pipe.writer.passed ≤ fault.position)
    (h : fault.position < pipe.writer.passed + (framed (Codec.put value)).length) :
    pipe.send value = (.error (.stream fault.failure), { pipe with
      queue := pipe.queue ++
        (framed (Codec.put value)).take (fault.position - pipe.writer.passed)
      writer := ⟨fault.position, none⟩ }) := by
  have hfail : pipe.writer.FailsAfter (fault.position - pipe.writer.passed) fault.failure :=
    ⟨fault, hpending, rfl, rfl⟩
  rw [send_of_failsAfter hsize hfail (by omega)]
  simp [PipeEnd.advance, PipeEnd.recover, Nat.add_sub_cancel' hle]

/-! ### Reading what was accepted -/

/-- A frame that was cut short gives no value: where nothing of it is there the stream has ended,
and otherwise it is closed. All that is there is taken. -/
theorem receive_torn {payload torn : Bytes} (hpending : pipe.reader.pending = none)
    (hpayload : payload.length ≤ maxPayload) (hqueue : pipe.queue = torn)
    (htorn : torn <+: framed payload) (hne : torn ≠ framed payload) :
    (pipe.receive α).1 = (if torn = [] then .ok none else .error .streamClosed) ∧
      (pipe.receive α).2.queue = [] ∧ (pipe.receive α).2.reader.pending = none := by
  have hpass : ∀ n, pipe.reader.Passes n := PipeEnd.passes_of_pending hpending
  subst hqueue
  by_cases hnil : pipe.queue = []
  · rw [receive_nil hpending hnil, if_pos hnil]
    exact ⟨rfl, hnil, hpending⟩
  rw [if_neg hnil]
  -- Nothing but a part of the header is there, or the header and a part of the payload.
  have htornReceipt : Receives pipe.queue pipe.reader
      (⟨.error .streamClosed, pipe.queue.length, false⟩ : Receipt α) := by
    by_cases hshort : pipe.queue.length < headerLength
    · exact .headerTorn hnil hshort (hpass _)
    · obtain ⟨part, hqueue, hpart⟩ := exists_part_of_isPrefix htorn hne (not_lt.1 hshort)
      have hlength := ofBigEndian_header hpayload
      exact .payloadTorn hqueue (length_header _) (hlength.trans_le hpayload)
        (hpart.trans_eq hlength.symm) (hpass _)
  rw [receive_of_receives htornReceipt]
  exact ⟨rfl, List.drop_length, hpending⟩

/-! ### Reading everything -/

/-- What is received from a pipe, one value after the other: some parcels, if the type of each is
asked for, then the closing of the stream, whatever types were asked for, and then its end. -/
structure Drains (pipe : Pipe) (parcels : List Parcel) (closing : Option TransferError) : Prop where
  parcel : ∀ before parcel after, parcels = before ++ parcel :: after →
    ((pipe.afterReceives (before.map Parcel.kind)).receive parcel.kind.Value).1 =
      .ok (some parcel.value)
  closing : ∀ (kinds : List Kind) (kind : Kind), kinds.length = parcels.length →
    ((pipe.afterReceives kinds).receive kind.Value).1 = closing.elim (.ok none) .error
  ending : ∀ (kinds : List Kind) (kind : Kind), parcels.length < kinds.length →
    ((pipe.afterReceives kinds).receive kind.Value).1 = .ok none

/-- Frames and a part of another one give the values of the frames and nothing else. -/
theorem drains_of_torn {parcels : List Parcel} {payload torn : Bytes}
    (hpending : pipe.reader.pending = none)
    (hsizes : ∀ parcel ∈ parcels, parcel.payload.length ≤ maxPayload)
    (hqueue : pipe.queue = (parcels.flatMap fun parcel => framed parcel.payload) ++ torn)
    (hpayload : payload.length ≤ maxPayload) (htorn : torn <+: framed payload)
    (hne : torn ≠ framed payload) :
    pipe.Drains parcels (if torn = [] then none else some .streamClosed) := by
  have hpayloads : ∀ payload ∈ parcels.map Parcel.payload, payload.length ≤ maxPayload := by
    simpa using hsizes
  rw [← List.flatMap_map] at hqueue
  -- Whatever types are asked for, the part that was cut short is left when all frames are taken.
  have hafter (kinds : List Kind) (hkinds : kinds.length = parcels.length) :=
    afterReceives_payloads (hkinds.trans (List.length_map _).symm) hpayloads hpending hqueue
  constructor
  case parcel =>
    rintro before parcel after rfl
    rw [List.map_append, List.map_cons, List.flatMap_append, List.flatMap_cons, List.append_assoc,
      List.append_assoc] at hqueue
    have hbefore : ∀ payload ∈ before.map Parcel.payload, payload.length ≤ maxPayload :=
      fun payload h => hpayloads payload (by
        rw [List.map_append]
        exact List.mem_append_left _ h)
    have hparcel : parcel.payload.length ≤ maxPayload := hsizes parcel (by simp)
    have hkinds : (before.map Parcel.kind).length = (before.map Parcel.payload).length := by
      simp only [List.length_map]
    obtain ⟨hleft, hleftPending⟩ := afterReceives_payloads hkinds hbefore hpending hqueue
    rw [receive_framed hleftPending hparcel hleft]
    have hdecode : decode parcel.payload = .ok parcel.value := decode_put hparcel
    rw [hdecode]
    rfl
  case closing =>
    intro kinds kind hkinds
    obtain ⟨hleft, hleftPending⟩ := hafter kinds hkinds
    rw [(receive_torn hleftPending hpayload hleft htorn hne).1]
    split_ifs <;> rfl
  case ending =>
    intro kinds kind hkinds
    obtain ⟨hleft, hleftPending⟩ := hafter (kinds.take parcels.length)
      (List.length_take_of_le hkinds.le)
    obtain ⟨next, more, hmore⟩ : ∃ next more, kinds.drop parcels.length = next :: more :=
      List.exists_cons_of_ne_nil (List.drop_eq_nil_iff.not.2 (not_le.2 hkinds))
    have hsplit := afterReceives_append (kinds.take parcels.length) (next :: more) pipe
    rw [← hmore, List.take_append_drop, hmore] at hsplit
    -- The call for the part that was cut short leaves nothing behind.
    obtain ⟨-, hnil, hnilPending⟩ :=
      receive_torn (α := next.Value) hleftPending hpayload hleft htorn hne
    have hrest := afterReceives_of_nil hnilPending hnil more
    rw [hsplit, afterReceives, List.foldl_cons]
    change ((afterReceives more _).receive kind.Value).1 = _
    rw [hrest, receive_nil hnilPending hnil]

end Pipe

namespace Session

/-- A fresh pipe at whose writing end a failure is pending. -/
def faulty (limit : ChunkLimit) (fault : PendingFailure) : Session :=
  ⟨.make limit none (some fault), [], []⟩

/-- The sessions that come about by sending any parcels, as long as no send meets the failure. A
parcel over the limit may be refused. -/
inductive Flowing (limit : ChunkLimit) (fault : PendingFailure) : Session → Prop
  | start : Flowing limit fault (faulty limit fault)
  | send {s : Session} (hs : Flowing limit fault s) (parcel : Parcel)
      (hparcel : ∀ failure, (s.pipe.send parcel.value).1 ≠ .error (.stream failure)) :
      Flowing limit fault (s.send parcel)

/-- The failure is still ahead, and the queue holds the frames of what was sent. -/
structure Untorn (s : Session) (fault : PendingFailure) : Prop where
  reader : s.pipe.reader.pending = none
  writer : s.pipe.writer.pending = some fault
  passed : s.pipe.writer.passed = s.pipe.queue.length
  room : s.pipe.queue.length ≤ fault.position
  sizes : ∀ parcel ∈ s.sent, parcel.payload.length ≤ maxPayload
  queue : s.pipe.queue = s.sent.flatMap fun parcel => framed parcel.payload

variable {limit : ChunkLimit} {fault : PendingFailure} {s : Session} {parcel : Parcel}
  {failure : StreamFailure}

/-! ### One send -/

/-- A parcel whose frame ends before the failure goes behind the others. -/
theorem Untorn.send_of_le (hs : s.Untorn fault) (hsize : parcel.payload.length ≤ maxPayload)
    (h : s.pipe.queue.length + (framed parcel.payload).length ≤ fault.position) :
    (s.send parcel).Untorn fault := by
  have hsend := Pipe.send_of_le_position hs.writer hsize (by rw [hs.passed]; exact h)
  rw [Session.send, hsend]
  constructor
  case reader => exact hs.reader
  case writer => exact hs.writer
  case passed =>
    rw [List.length_append, ← hs.passed]
    rfl
  case room =>
    rw [List.length_append]
    exact h
  case sizes =>
    intro p hp
    rcases List.mem_append.1 hp with hp | hp
    · exact hs.sizes p hp
    · rwa [List.mem_singleton.1 hp]
  case queue =>
    simp only [hs.queue, List.flatMap_append, List.flatMap_cons, List.flatMap_nil,
      List.append_nil]
    rfl

/-- The send of a parcel whose frame runs over the failure. -/
theorem Untorn.pipe_send_of_lt (hs : s.Untorn fault) (hsize : parcel.payload.length ≤ maxPayload)
    (h : fault.position < s.pipe.queue.length + (framed parcel.payload).length) :
    s.pipe.send parcel.value = (.error (.stream fault.failure), { s.pipe with
      queue := s.pipe.queue ++ (framed parcel.payload).take (fault.position - s.pipe.queue.length)
      writer := ⟨fault.position, none⟩ }) := by
  have hsend := Pipe.send_of_position_lt hs.writer hsize (by rw [hs.passed]; exact hs.room)
    (by rw [hs.passed]; exact h)
  rwa [hs.passed] at hsend

/-- A send that does not meet the failure leaves it ahead. -/
theorem Untorn.send (hs : s.Untorn fault)
    (hparcel : ∀ failure, (s.pipe.send parcel.value).1 ≠ .error (.stream failure)) :
    (s.send parcel).Untorn fault := by
  by_cases hsize : parcel.payload.length ≤ maxPayload
  · by_cases hroom : s.pipe.queue.length + (framed parcel.payload).length ≤ fault.position
    · exact hs.send_of_le hsize hroom
    · have hsend := hs.pipe_send_of_lt hsize (not_le.1 hroom)
      exact absurd (congrArg Prod.fst hsend) (hparcel fault.failure)
  · rwa [send_of_lt (not_le.1 hsize)]

/-- A send meets the failure only with a frame within the limit that runs over it. -/
theorem Untorn.of_pipe_send (hs : s.Untorn fault)
    (h : (s.pipe.send parcel.value).1 = .error (.stream failure)) :
    failure = fault.failure ∧ parcel.payload.length ≤ maxPayload ∧
      fault.position < s.pipe.queue.length + (framed parcel.payload).length := by
  by_cases hsize : parcel.payload.length ≤ maxPayload
  · by_cases hroom : s.pipe.queue.length + (framed parcel.payload).length ≤ fault.position
    · rw [Pipe.send_of_le_position hs.writer hsize (by rw [hs.passed]; exact hroom)] at h
      cases h
    · rw [hs.pipe_send_of_lt hsize (not_le.1 hroom)] at h
      exact ⟨by cases h; rfl, hsize, not_le.1 hroom⟩
  · rw [Pipe.send_of_lt (not_le.1 hsize)] at h
    cases h

/-! ### A whole run -/

theorem untorn_faulty (limit : ChunkLimit) (fault : PendingFailure) :
    (faulty limit fault).Untorn fault where
  reader := rfl
  writer := rfl
  passed := rfl
  room := Nat.zero_le _
  sizes := fun _ h => absurd h List.not_mem_nil
  queue := rfl

/-- **The queue holds the frames of what was sent, until a send meets the failure.** -/
theorem Flowing.untorn (hs : Flowing limit fault s) : s.Untorn fault := by
  induction hs with
  | start => exact untorn_faulty limit fault
  | send hs parcel hparcel ih => exact ih.send hparcel

/-- **A torn write.** Sends over a pipe with a failure at any position, of any kind, with transfers
of any size. Until one of them meets the failure, the queue holds exactly the frames of what was
sent. The send that meets it leaves a proper part of its frame behind these, up to the position of
the failure. Whoever then reads the queue, with transfers of any size, receives what was sent, in
order; then the end of the stream if nothing of the last frame was accepted, and otherwise that it
was closed inside a frame; and the end after that. -/
theorem torn_write (hs : Flowing limit fault s) :
    s.pipe.queue = (s.sent.flatMap fun parcel => framed parcel.payload) ∧
    ∀ parcel failure, (s.pipe.send parcel.value).1 = .error (.stream failure) →
      failure = fault.failure ∧ (s.send parcel).sent = s.sent ∧
      ∃ torn, torn <+: framed parcel.payload ∧ torn ≠ framed parcel.payload ∧
        (s.send parcel).pipe.queue = (s.sent.flatMap fun parcel => framed parcel.payload) ++ torn ∧
        (s.send parcel).pipe.queue.length = fault.position ∧
        ∀ limit : ChunkLimit, Pipe.Drains { (s.send parcel).pipe with limit := limit } s.sent
          (if torn = [] then none else some .streamClosed) := by
  have huntorn := hs.untorn
  refine ⟨huntorn.queue, fun parcel failure h => ?_⟩
  obtain ⟨hfailure, hsize, hroom⟩ := huntorn.of_pipe_send h
  have hpipe := huntorn.pipe_send_of_lt hsize hroom
  have hsend : s.send parcel = { s with pipe := (s.pipe.send parcel.value).2 } := by
    rw [Session.send, hpipe]
  have hlength : ((framed parcel.payload).take (fault.position - s.pipe.queue.length)).length =
      fault.position - s.pipe.queue.length :=
    List.length_take_of_le (by omega)
  have htorn := List.take_prefix (fault.position - s.pipe.queue.length) (framed parcel.payload)
  have hne : (framed parcel.payload).take (fault.position - s.pipe.queue.length) ≠
      framed parcel.payload := by
    intro heq
    rw [heq] at hlength
    have hbefore := huntorn.room
    omega
  rw [hsend, hpipe]
  refine ⟨hfailure, rfl, _, htorn, hne, ?_, ?_, fun limit => ?_⟩
  · rw [huntorn.queue]
  · rw [List.length_append, hlength, Nat.add_sub_cancel' huntorn.room]
  · refine Pipe.drains_of_torn huntorn.reader huntorn.sizes ?_ hsize htorn hne
    rw [← huntorn.queue]

/-- A failure of a writer that accepts nothing from the eighth octet on. -/
def stall : PendingFailure :=
  ⟨7, ⟨.writeZero, "write zero"⟩⟩

/-- A version was sent, one octet at a time. -/
def stalling : Session where
  pipe := { Pipe.make (some ⟨1, Nat.one_pos⟩) none (some stall) with
    queue := framed [0, 1]
    writer := ⟨6, some stall⟩ }
  sent := [⟨.version, .current⟩]
  received := []

theorem flowing_stalling : Flowing (some ⟨1, Nat.one_pos⟩) stall stalling := by
  have huntorn := untorn_faulty (some ⟨1, Nat.one_pos⟩) stall
  have hsend : (faulty (some ⟨1, Nat.one_pos⟩) stall).pipe.send Version.current =
      (.ok (), stalling.pipe) :=
    Pipe.send_of_le_position huntorn.writer (by decide) (by decide)
  have hstalling : stalling = (faulty (some ⟨1, Nat.one_pos⟩) stall).send ⟨.version, .current⟩ := by
    rw [Session.send, hsend]
    rfl
  rw [hstalling]
  refine .send .start _ fun failure h => ?_
  cases (congrArg Prod.fst hsend).symm.trans h

/-- Of a format that is sent behind the version, one octet is accepted, and it is never received
for a value. -/
theorem torn_write_stalling :
    Flowing (some ⟨1, Nat.one_pos⟩) stall stalling ∧
    (stalling.pipe.send Format.html).1 = .error (.stream stall.failure) ∧
    ∃ torn, (stalling.send ⟨.format, .html⟩).pipe.queue = framed [0, 1] ++ torn ∧
      torn.length = 1 ∧ Pipe.Drains { (stalling.send ⟨.format, .html⟩).pipe with limit := none }
        [⟨.version, .current⟩] (some .streamClosed) := by
  have hsend : (stalling.pipe.send Format.html).1 = .error (.stream stall.failure) :=
    congrArg Prod.fst (@Untorn.pipe_send_of_lt stall stalling ⟨.format, .html⟩
      flowing_stalling.untorn (by decide) (by decide))
  obtain ⟨-, htorn⟩ := torn_write flowing_stalling
  obtain ⟨-, -, torn, -, -, hqueue, hlength, hdrains⟩ := htorn ⟨.format, .html⟩ _ hsend
  rw [hqueue, List.length_append] at hlength
  have hone : torn.length = 1 := Nat.add_left_cancel (hlength.trans (show 7 = 6 + 1 from rfl))
  refine ⟨flowing_stalling, hsend, torn, hqueue, hone, ?_⟩
  have hdrain := hdrains none
  rwa [if_neg (List.length_pos_iff.1 (by omega))] at hdrain

end Session

end ClipExchange
