import Mathlib
import ClipExchange.Proofs.Stream.Transfer
import ClipExchange.Proofs.Wire.RoundTrip

/-!
# Frames on a pipe

Sending puts the frame of a value behind the octets that wait in the queue, and receiving takes
one frame off the front: the header says how long the payload is, the payload is read whole, and
only then is it decoded. What the decoder makes of a payload has therefore no part in where the
next frame begins.

## Main definitions

* `Wire.framed`: a payload behind its header.
* `Pipe.afterReceives`: the pipe after some values were asked for.

## Main results

* `Pipe.send_of_passes`, `Pipe.send_of_failsAfter`, `Pipe.send_of_lt`: sending before a failure,
  over it, and over the limit.
* `Pipe.receive_framed`, `Pipe.receive_nil`: receiving one frame, and the end of the stream.
* `Pipe.receive_frames_isolated`: each call of a run takes its own frame.
* `Wire.exists_part_of_isPrefix`, `Pipe.afterReceives_payloads`: frames that are cut, and the queue
  after the whole ones were taken.
-/

namespace ClipExchange

open Wire

/-- A payload behind the four octets of its length. -/
def Wire.framed (payload : Bytes) : Bytes :=
  header payload.length ++ payload

theorem Wire.length_header (length : Nat) : (header length).length = headerLength :=
  Bytes.length_bigEndian _ _

theorem Wire.length_framed (payload : Bytes) :
    (framed payload).length = headerLength + payload.length := by
  rw [framed, List.length_append, length_header]

theorem Wire.ofBigEndian_header {length : Nat} (h : length ≤ maxPayload) :
    Bytes.ofBigEndian (header length) = length :=
  Bytes.ofBigEndian_bigEndian (h.trans_lt (by decide))

theorem Wire.frame_of_le {α : Type} [Codec α] {value : α}
    (h : (Codec.put value).length ≤ maxPayload) :
    frame value = .ok (framed (Codec.put value)) := by
  rw [frame, payload, if_pos h]
  rfl

theorem Wire.frame_of_lt {α : Type} [Codec α] {value : α}
    (h : maxPayload < (Codec.put value).length) :
    frame value = .error (.frameTooLarge (Codec.put value).length maxPayload) := by
  rw [frame, payload, if_neg (not_le.2 h)]
  rfl

/-- A part of a frame that reaches beyond the header holds the header and a part of the payload. -/
theorem Wire.exists_part_of_isPrefix {payload torn : Bytes} (htorn : torn <+: framed payload)
    (hne : torn ≠ framed payload) (h : headerLength ≤ torn.length) :
    ∃ part, torn = header payload.length ++ part ∧ part.length < payload.length := by
  have hlt : torn.length < (framed payload).length :=
    htorn.length_le.lt_of_ne fun hlength => hne (htorn.eq_of_length hlength)
  rw [List.prefix_iff_eq_take] at htorn
  have hheader : (header payload.length).length ≤ torn.length := by rwa [length_header]
  refine ⟨payload.take (torn.length - headerLength), ?_, ?_⟩
  · conv_lhs => rw [htorn, framed, List.take_append, List.take_of_length_le hheader, length_header]
  · rw [length_framed] at hlt
    rw [List.length_take]
    omega

namespace Pipe

variable {α : Type} [Codec α] {pipe : Pipe}

/-! ### Sending one value -/

/-- A value whose frame ends before the failure is put behind what waits, header first. -/
theorem send_of_passes {value : α} (h : (Codec.put value).length ≤ maxPayload)
    (hpass : pipe.writer.Passes (framed (Codec.put value)).length) :
    pipe.send value = (.ok (), { pipe with
      queue := pipe.queue ++ framed (Codec.put value)
      writer := pipe.writer.advance (framed (Codec.put value)).length }) := by
  rw [framed, List.length_append] at hpass
  simp only [send, payload, if_pos h, writeAll_of_passes (hpass.mono (Nat.le_add_right _ _))]
  rw [writeAll_of_passes hpass.advance]
  simp [framed, PipeEnd.advance, Nat.add_assoc]

/-- Where the frame runs over the failure, the octets of the frame before it are put there. -/
theorem send_of_failsAfter {value : α} {n : Nat} {failure : StreamFailure}
    (h : (Codec.put value).length ≤ maxPayload) (hfail : pipe.writer.FailsAfter n failure)
    (hshort : n < (framed (Codec.put value)).length) :
    pipe.send value = (.error (.stream failure), { pipe with
      queue := pipe.queue ++ (framed (Codec.put value)).take n
      writer := (pipe.writer.advance n).recover }) := by
  simp only [send, payload, if_pos h]
  -- The failure falls into the header or behind it.
  by_cases hheader : n < (header (Codec.put value).length).length
  · rw [writeAll_of_failsAfter hfail hheader, framed, List.take_append_of_le_length hheader.le]
  · obtain ⟨k, rfl⟩ := Nat.exists_eq_add_of_le (not_lt.1 hheader)
    rw [framed, List.length_append, Nat.add_lt_add_iff_left] at hshort
    rw [writeAll_of_passes (hfail.passes (Nat.le_add_right _ _))]
    dsimp only
    rw [writeAll_of_failsAfter hfail.advance hshort]
    simp [framed, PipeEnd.advance, List.take_append, Nat.add_assoc]

/-- A value within the limit is put behind what waits, header first. -/
theorem send_of_le {value : α} (hpending : pipe.writer.pending = none)
    (h : (Codec.put value).length ≤ maxPayload) :
    pipe.send value = (.ok (), { pipe with
      queue := pipe.queue ++ framed (Codec.put value)
      writer := pipe.writer.advance (headerLength + (Codec.put value).length) }) := by
  rw [send_of_passes h (PipeEnd.passes_of_pending hpending _), length_framed]

/-- A value over the limit leaves the pipe as it was. -/
theorem send_of_lt {value : α} (h : maxPayload < (Codec.put value).length) :
    pipe.send value = (.error (.frameTooLarge (Codec.put value).length maxPayload), pipe) := by
  simp only [send, payload, if_neg (not_le.2 h)]

/-! ### Receiving one value -/

theorem decoded_eq (payload : Bytes) :
    decoded α payload = ((decode payload : Except DecodeError α).map some).mapError .decoding := by
  unfold decoded
  cases (decode payload : Except DecodeError α) <;> rfl

/-- Receiving takes the frame at the front of the queue, whatever its payload is. -/
theorem receive_framed {payload rest : Bytes} (hpending : pipe.reader.pending = none)
    (hpayload : payload.length ≤ maxPayload) (hqueue : pipe.queue = framed payload ++ rest) :
    pipe.receive α = (((decode payload).map some).mapError .decoding, { pipe with
      queue := rest
      reader := pipe.reader.advance (headerLength + payload.length) }) := by
  rw [framed, List.append_assoc] at hqueue
  have hheader := gather_append hpending hqueue
  rw [length_header] at hheader
  have hbody : gather payload.length { pipe with
        queue := payload ++ rest
        reader := pipe.reader.advance headerLength } =
      (.all payload, { pipe with
        queue := rest
        reader := (pipe.reader.advance headerLength).advance payload.length }) :=
    gather_append hpending rfl
  simp only [receive, hheader, ofBigEndian_header hpayload, if_neg (not_lt.2 hpayload),
    receivePayload, hbody, decoded_eq]
  simp [PipeEnd.advance, Nat.add_assoc]

/-- At the end of the stream nothing is received and nothing changes. -/
theorem receive_nil (hpending : pipe.reader.pending = none) (hqueue : pipe.queue = []) :
    pipe.receive α = (.ok none, pipe) := by
  obtain ⟨queue, limit, reader, writer, isShut⟩ := pipe
  obtain rfl : queue = [] := hqueue
  have hheader := gather_of_lt hpending (show ([] : Bytes).length < headerLength by decide)
  simp only [receive, hheader]
  rfl

/-! ### Receiving one value after another -/

/-- The pipe after values of the given kinds were asked for, one after the other. -/
def afterReceives (kinds : List Kind) (pipe : Pipe) : Pipe :=
  kinds.foldl (fun pipe kind => (pipe.receive kind.Value).2) pipe

/-- As many calls as there are frames take these frames off the queue. -/
theorem afterReceives_framed {frames : List (Kind × Bytes)} {rest : Bytes}
    (hsize : ∀ frame ∈ frames, frame.2.length ≤ maxPayload)
    (hpending : pipe.reader.pending = none)
    (hqueue : pipe.queue = (frames.flatMap fun frame => framed frame.2) ++ rest) :
    (pipe.afterReceives (frames.map Prod.fst)).queue = rest ∧
      (pipe.afterReceives (frames.map Prod.fst)).reader.pending = none := by
  -- The pipe is general, so that the frames behind the first are taken from the pipe it leaves.
  induction frames generalizing pipe with
  | nil => exact ⟨hqueue, hpending⟩
  | cons frame frames ih =>
    rw [List.flatMap_cons, List.append_assoc] at hqueue
    have hstep := receive_framed (α := frame.1.Value) hpending (hsize frame List.mem_cons_self)
      hqueue
    simp only [afterReceives, List.map_cons, List.foldl_cons, hstep]
    exact ih (fun f hf => hsize f (List.mem_cons_of_mem _ hf)) hpending rfl

theorem afterReceives_append (kinds more : List Kind) (pipe : Pipe) :
    pipe.afterReceives (kinds ++ more) = (pipe.afterReceives kinds).afterReceives more :=
  List.foldl_append

/-- At the end of the stream, asking makes no difference. -/
theorem afterReceives_of_nil (hpending : pipe.reader.pending = none) (hqueue : pipe.queue = [])
    (kinds : List Kind) : pipe.afterReceives kinds = pipe := by
  induction kinds with
  | nil => rfl
  | cons kind kinds ih =>
    rw [afterReceives, List.foldl_cons, receive_nil hpending hqueue]
    exact ih

/-- As many calls as there are payloads take their frames, whatever types are asked for. -/
theorem afterReceives_payloads {payloads : List Bytes} {kinds : List Kind} {rest : Bytes}
    (hlength : kinds.length = payloads.length)
    (hsize : ∀ payload ∈ payloads, payload.length ≤ maxPayload)
    (hpending : pipe.reader.pending = none)
    (hqueue : pipe.queue = payloads.flatMap framed ++ rest) :
    (pipe.afterReceives kinds).queue = rest ∧
      (pipe.afterReceives kinds).reader.pending = none := by
  have hkinds : (kinds.zip payloads).map Prod.fst = kinds := List.map_fst_zip hlength.le
  have hpayloads : (kinds.zip payloads).map Prod.snd = payloads := List.map_snd_zip hlength.ge
  have hframes :
      pipe.queue = ((kinds.zip payloads).flatMap fun frame => framed frame.2) ++ rest := by
    rw [hqueue, ← hpayloads, List.flatMap_map, hpayloads]
  have hsizes : ∀ frame ∈ kinds.zip payloads, frame.2.length ≤ maxPayload := by
    intro frame hframe
    refine hsize frame.2 ?_
    rw [← hpayloads]
    exact List.mem_map_of_mem hframe
  have hafter := afterReceives_framed hsizes hpending hframes
  rwa [hkinds] at hafter

/-- **Every call takes its own frame.** A queue holds frames whose payloads are within the limit
and otherwise arbitrary: written forms, written forms with octets behind them, other octets or
none. Whatever the size of the transfers, the call that comes after those for the frames before
gives what decoding its payload gives, a value or the failure, and takes exactly the octets of
its frame; the call after the last frame finds the end. -/
theorem receive_frames_isolated (frames : List (Kind × Bytes)) (pipe : Pipe)
    (hsize : ∀ frame ∈ frames, frame.2.length ≤ maxPayload)
    (hpending : pipe.reader.pending = none)
    (hqueue : pipe.queue = frames.flatMap fun frame => framed frame.2) :
    (∀ before kind payload after, frames = before ++ (kind, payload) :: after →
      ((pipe.afterReceives (before.map Prod.fst)).receive kind.Value).1 =
          ((decode payload).map some).mapError .decoding ∧
        (pipe.afterReceives (before.map Prod.fst)).queue = framed payload ++
          ((pipe.afterReceives (before.map Prod.fst)).receive kind.Value).2.queue) ∧
    ∀ kind : Kind, ((pipe.afterReceives (frames.map Prod.fst)).receive kind.Value).1 =
      .ok none := by
  constructor
  · rintro before kind payload after rfl
    have hbefore : ∀ frame ∈ before, frame.2.length ≤ maxPayload := fun frame hframe =>
      hsize frame (List.mem_append_left _ hframe)
    have hpayload : payload.length ≤ maxPayload :=
      hsize (kind, payload) (List.mem_append_right _ List.mem_cons_self)
    rw [List.flatMap_append, List.flatMap_cons] at hqueue
    obtain ⟨hleft, hleftPending⟩ := afterReceives_framed hbefore hpending hqueue
    rw [receive_framed hleftPending hpayload hleft]
    exact ⟨rfl, hleft⟩
  · intro kind
    rw [← List.append_nil (frames.flatMap fun frame => framed frame.2)] at hqueue
    obtain ⟨hleft, hleftPending⟩ := afterReceives_framed hsize hpending hqueue
    rw [receive_nil hleftPending hleft]

/-- A frame that is no message, a version with an octet behind it and a frame without payload. -/
def mixedFrames : List (Kind × Bytes) :=
  [(.message, [255]), (.version, [0, 1, 9]), (.format, [])]

/-- These frames, handed out one octet at a time. -/
def mixedFramesPipe : Pipe :=
  { make (some ⟨1, Nat.one_pos⟩) none none with
    queue := mixedFrames.flatMap fun frame => framed frame.2 }

/-- The first frame is refused and the version behind it is received all the same. -/
theorem receive_frames_isolated_mixed :
    (∀ frame ∈ mixedFrames, frame.2.length ≤ maxPayload) ∧
      mixedFramesPipe.reader.pending = none ∧
      (mixedFramesPipe.receive Message).1 = .error (.decoding (.invalidInteger .u32 .reserved)) ∧
      ((mixedFramesPipe.afterReceives [.message]).receive Version).1 = .ok (some ⟨0, 1⟩) := by
  have hsize : ∀ frame ∈ mixedFrames, frame.2.length ≤ maxPayload := by decide
  obtain ⟨hcalls, -⟩ := receive_frames_isolated mixedFrames mixedFramesPipe hsize rfl rfl
  refine ⟨hsize, rfl, ?_, ?_⟩
  · exact (hcalls [] .message [255] _ rfl).1
  · exact (hcalls [(.message, [255])] .version [0, 1, 9] _ rfl).1

end Pipe

end ClipExchange
