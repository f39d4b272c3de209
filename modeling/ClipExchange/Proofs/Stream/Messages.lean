import Mathlib
import ClipExchange.Proofs.Stream.FailingReads
import ClipExchange.Stream.Frames

/-!
# The messages that octets hold

A stream of octets is read as one message after the other. What is read, and the failure that may
end it early, is determined by the octets alone: whole frames whose payloads can be decoded give
their messages, and the rest is empty or begins with something that cannot be received. Nothing is
carried from one frame to the next, so octets that are read to their end can be put before others
without making a difference to these.

## Main definitions

* `Wire.Holds`: what messages some octets hold, and why there are no more.

## Main results

* `Wire.exists_holds`: all octets hold something.
* `Pipe.messages_of_holds`: receiving to the end gives the messages that the octets hold.
* `Wire.Holds.append`: octets behind others.
-/

namespace ClipExchange

open Wire

namespace Wire

/-- Some octets hold some messages in order; then they are at their end, or what is left of them
fails to be received. -/
inductive Holds : Bytes → List Message → Option TransferError → Prop
  | nil : Holds [] [] none
  /-- A frame whose payload can be decoded. -/
  | message {payload rest : Bytes} {message : Message} {messages : List Message}
      {failure : Option TransferError} (hsize : payload.length ≤ maxPayload)
      (hdecode : decode payload = .ok message) (hrest : Holds rest messages failure) :
      Holds (framed payload ++ rest) (message :: messages) failure
  /-- A frame whose payload is no message. -/
  | unreadable {payload rest : Bytes} {cause : DecodeError} (hsize : payload.length ≤ maxPayload)
      (hdecode : (decode payload : Except DecodeError Message) = .error cause) :
      Holds (framed payload ++ rest) [] (some (.decoding cause))
  /-- A header that announces more than is allowed. -/
  | tooLong {front rest : Bytes} (hfront : front.length = headerLength)
      (hsize : maxPayload < Bytes.ofBigEndian front) :
      Holds (front ++ rest) [] (some (.frameTooLarge (Bytes.ofBigEndian front) maxPayload))
  /-- A part of a header. -/
  | tornHeader {torn : Bytes} (hne : torn ≠ []) (hshort : torn.length < headerLength) :
      Holds torn [] (some .streamClosed)
  /-- A header and a part of the payload. -/
  | tornPayload {length : Nat} {part : Bytes} (hsize : length ≤ maxPayload)
      (hshort : part.length < length) :
      Holds (header length ++ part) [] (some .streamClosed)

/-- All octets hold some messages, up to their end or a failure. -/
theorem exists_holds (data : Bytes) : ∃ messages failure, Holds data messages failure := by
  -- The induction is on the number of octets: a frame takes some of them off the front.
  induction hlength : data.length using Nat.strong_induction_on generalizing data with
  | _ n ih =>
    subst hlength
    by_cases hempty : data = []
    · exact ⟨[], none, hempty ▸ .nil⟩
    by_cases hshort : data.length < headerLength
    · exact ⟨[], _, .tornHeader hempty hshort⟩
    obtain ⟨front, rest, rfl, hfront⟩ : ∃ front rest, data = front ++ rest ∧
        front.length = headerLength :=
      ⟨_, _, (List.take_append_drop headerLength data).symm,
        List.length_take_of_le (not_lt.1 hshort)⟩
    by_cases hsize : maxPayload < Bytes.ofBigEndian front
    · exact ⟨[], _, .tooLong hfront hsize⟩
    have hheader : front = header (Bytes.ofBigEndian front) := by
      rw [header, ← hfront, Bytes.bigEndian_ofBigEndian]
    generalize Bytes.ofBigEndian front = length at hsize hheader
    subst hheader
    rw [not_lt] at hsize
    by_cases hpart : rest.length < length
    · exact ⟨[], _, .tornPayload hsize hpart⟩
    obtain ⟨payload, rest, rfl, rfl⟩ : ∃ payload rest', rest = payload ++ rest' ∧
        payload.length = length :=
      ⟨_, _, (List.take_append_drop length rest).symm, List.length_take_of_le (not_lt.1 hpart)⟩
    rw [← List.append_assoc]
    cases hdecode : (decode payload : Except DecodeError Message) with
    | error cause => exact ⟨[], _, .unreadable hsize hdecode⟩
    | ok message =>
      obtain ⟨messages, failure, hrest⟩ := ih rest.length
        (by simp [length_header, headerLength]; omega) rest rfl
      exact ⟨_, _, .message hsize hdecode hrest⟩

/-- **Octets behind others.** Octets that are read to their end make no difference to what the
octets behind them hold. -/
theorem Holds.append {first second : Bytes} {messages more : List Message}
    {failure : Option TransferError} (hfirst : Holds first messages none)
    (hsecond : Holds second more failure) : Holds (first ++ second) (messages ++ more) failure := by
  generalize hnone : (none : Option TransferError) = done at hfirst
  induction hfirst with
  | nil => exact hsecond
  | message hsize hdecode _ ih =>
    rw [List.append_assoc]
    exact .message hsize hdecode (ih hnone)
  | _ => cases hnone

/-- Whole frames hold the messages of their payloads. -/
theorem holds_frames {frames : List (Bytes × Message)}
    (hframes : ∀ frame ∈ frames, frame.1.length ≤ maxPayload ∧ decode frame.1 = .ok frame.2) :
    Holds (frames.flatMap fun frame => framed frame.1) (frames.map Prod.snd) none := by
  induction frames with
  | nil => exact .nil
  | cons frame frames ih =>
    obtain ⟨hsize, hdecode⟩ := hframes frame List.mem_cons_self
    rw [List.flatMap_cons, List.map_cons]
    exact .message hsize hdecode (ih fun f hf => hframes f (List.mem_cons_of_mem _ hf))

end Wire

namespace Pipe

variable {α : Type} [Codec α] {pipe : Pipe}

/-! ### Octets that are no whole frame -/

open PipeEnd

theorem receive_tornHeader (hpending : pipe.reader.pending = none) (hne : pipe.queue ≠ [])
    (hshort : pipe.queue.length < headerLength) :
    (pipe.receive α).1 = .error .streamClosed := by
  rw [receive_of_receives (.headerTorn hne hshort (passes_of_pending hpending _))]

theorem receive_tooLong {front rest : Bytes} (hpending : pipe.reader.pending = none)
    (hqueue : pipe.queue = front ++ rest) (hfront : front.length = headerLength)
    (hsize : maxPayload < Bytes.ofBigEndian front) :
    (pipe.receive α).1 = .error (.frameTooLarge (Bytes.ofBigEndian front) maxPayload) := by
  rw [receive_of_receives (.tooLong hqueue hfront (passes_of_pending hpending _) hsize)]

theorem receive_tornPayload {length : Nat} {part : Bytes} (hpending : pipe.reader.pending = none)
    (hqueue : pipe.queue = header length ++ part) (hsize : length ≤ maxPayload)
    (hshort : part.length < length) : (pipe.receive α).1 = .error .streamClosed := by
  have hlength := ofBigEndian_header hsize
  rw [receive_of_receives (.payloadTorn hqueue (length_header _) (hlength.trans_le hsize)
    (hshort.trans_eq hlength.symm) (passes_of_pending hpending _))]

/-! ### Receiving to the end -/

theorem messagesFrom_of_error {failure : TransferError} (fuel : Nat) (done : List Message)
    (h : (pipe.receive Message).1 = .error failure) :
    messagesFrom (fuel + 1) done pipe = (done.reverse, some failure) := by
  rcases hreceive : pipe.receive Message with ⟨result, after⟩
  rw [hreceive] at h
  obtain rfl : result = .error failure := h
  simp only [messagesFrom, hreceive]

/-- From a reader that meets no failure, the messages are received that the octets hold. -/
theorem messagesFrom_of_holds {messages : List Message} {failure : Option TransferError}
    {fuel : Nat} {data : Bytes} (hdata : Holds data messages failure) (done : List Message)
    (hqueue : pipe.queue = data) (hpending : pipe.reader.pending = none)
    (hfuel : data.length ≤ fuel) :
    messagesFrom (fuel + 1) done pipe = (done.reverse ++ messages, failure) := by
  -- One round for each frame; the pipe is the one that the frames before have left.
  induction hdata generalizing pipe done fuel with
  | nil =>
    simp only [messagesFrom, receive_nil hpending hqueue, List.append_nil]
  | @message payload rest message messages failure hsize hdecode _ ih =>
    rw [List.length_append, length_framed, headerLength] at hfuel
    obtain ⟨fuel, rfl⟩ : ∃ left, fuel = left + 1 := Nat.exists_eq_add_one_of_ne_zero (by omega)
    let after : Pipe := { pipe with
      queue := rest
      reader := pipe.reader.advance (headerLength + payload.length) }
    have hreceive : pipe.receive Message = (.ok (some message), after) := by
      rw [receive_framed hpending hsize hqueue, hdecode]
      rfl
    have hqueue' : after.queue = rest := rfl
    have hpending' : after.reader.pending = none := hpending
    rw [messagesFrom, hreceive]
    dsimp only
    rw [ih (message :: done) hqueue' hpending' (by omega), List.reverse_cons, List.append_assoc,
      List.singleton_append]
  | unreadable hsize hdecode =>
    have hreceive := receive_framed (α := Message) hpending hsize hqueue
    rw [hdecode] at hreceive
    rw [messagesFrom_of_error fuel done (by rw [hreceive]; rfl), List.append_nil]
  | tooLong hfront hsize =>
    rw [messagesFrom_of_error fuel done (receive_tooLong hpending hqueue hfront hsize),
      List.append_nil]
  | tornHeader hne hshort =>
    subst hqueue
    rw [messagesFrom_of_error fuel done (receive_tornHeader hpending hne hshort), List.append_nil]
  | tornPayload hsize hshort =>
    rw [messagesFrom_of_error fuel done (receive_tornPayload hpending hqueue hsize hshort),
      List.append_nil]

/-- **Receiving to the end gives what the octets hold.** -/
theorem messages_of_holds {messages : List Message} {failure : Option TransferError}
    (hdata : Holds pipe.queue messages failure) (hpending : pipe.reader.pending = none) :
    pipe.messages = (messages, failure) :=
  messagesFrom_of_holds hdata [] rfl hpending le_rfl

end Pipe

end ClipExchange
