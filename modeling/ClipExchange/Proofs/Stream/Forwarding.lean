import Mathlib
import ClipExchange.Proofs.Stream.FailingReads
import ClipExchange.Proofs.Wire.Shortest

/-!
# Forwarding

Whoever receives a value can send it on: its written form is no longer than the payload that it
was read from, so it is within the limit, whatever forms of numbers and surplus octets the frame
held. The receiver at the other end gets the same value.

## Main results

* `Pipe.exists_payload_of_receive`: a received value was read from a payload within the limit.
* `Pipe.length_put_le_of_receive`: its written form is within the limit.
* `Pipe.forwarding_never_grows`: decoding and sending again.
-/

namespace ClipExchange

open Wire

namespace Pipe

variable {α : Type} [Codec α] {pipe : Pipe}

/-! ### What was received -/

/-- A value that was received was read from a payload within the limit. -/
theorem exists_payload_of_receive {value : α} (h : (pipe.receive α).1 = .ok (some value)) :
    ∃ payload : Bytes, payload.length ≤ maxPayload ∧ decode payload = .ok value := by
  obtain ⟨receipt, hreceipt⟩ := exists_receives α pipe.queue pipe.reader
  rw [receive_of_receives hreceipt] at h
  cases hreceipt with
  | @frame payload _ _ hsize =>
    refine ⟨payload, hsize, ?_⟩
    cases hdecode : (decode payload : Except DecodeError α) with
    | error cause =>
      rw [hdecode] at h
      cases h
    | ok received =>
      rw [hdecode] at h
      obtain rfl := Option.some.inj (Except.ok.inj h)
      rfl
  | ended | headerFailed | headerTorn | tooLong | payloadFailed | payloadTorn => cases h

/-! ### What is sent on -/

variable {kind : Kind} {value : kind.Value}

/-- A value that was decoded is written in no more octets than its payload has. -/
theorem length_put_le_of_decode {payload : Bytes} (h : decode payload = .ok value) :
    (Codec.put value).length ≤ payload.length := by
  obtain ⟨rest, hrest⟩ := decode_eq_ok_iff.1 h
  obtain ⟨used, rfl, hused⟩ := (incremental_kind kind).reads hrest
  rw [List.length_append]
  exact (bounds_kind kind hused).length_le.trans (Nat.le_add_right _ _)

theorem length_put_le_of_receive (h : (pipe.receive kind.Value).1 = .ok (some value)) :
    (Codec.put value).length ≤ maxPayload := by
  obtain ⟨payload, hsize, hdecode⟩ := exists_payload_of_receive h
  exact (length_put_le_of_decode hdecode).trans hsize

/-- A value within the limit is not refused for its length, even if the stream fails. -/
theorem send_ne_frameTooLarge {value : α} (h : (Codec.put value).length ≤ maxPayload)
    (size max : Nat) : (pipe.send value).1 ≠ .error (.frameTooLarge size max) := by
  simp only [send, payload, if_pos h]
  split
  · simp
  · split <;> simp

/-- A value within the limit that is sent behind other frames is received after these. -/
theorem receive_after_send {frames : List (Kind × Bytes)}
    (h : (Codec.put value).length ≤ maxPayload) (hreader : pipe.reader.pending = none)
    (hwriter : pipe.writer.pending = none) (hsize : ∀ frame ∈ frames, frame.2.length ≤ maxPayload)
    (hqueue : pipe.queue = frames.flatMap fun frame => framed frame.2) :
    (pipe.send value).1 = .ok () ∧
      (((pipe.send value).2.afterReceives (frames.map Prod.fst)).receive kind.Value).1 =
        .ok (some value) := by
  rw [send_of_le hwriter h]
  refine ⟨rfl, ?_⟩
  have hsent : pipe.queue ++ framed (Codec.put value) =
      (frames.flatMap fun frame => framed frame.2) ++ framed (Codec.put value) := by
    rw [hqueue]
  obtain ⟨hleft, hpending⟩ := @afterReceives_framed { pipe with
    queue := pipe.queue ++ framed (Codec.put value)
    writer := pipe.writer.advance (headerLength + (Codec.put value).length) } _ _ hsize hreader
    hsent
  rw [receive_framed hpending h (hleft.trans (List.append_nil _).symm), decode_put h]
  rfl

/-- **Forwarding never grows a frame.** If a value is read off the front of an input, then the
octets that are taken are the front of the input; the written form of the value is no longer than
these, and it is the same octets if it is as long. So a value that was received over any pipe is
never refused for its length when it is sent on, and over a pipe without failures it is sent and,
behind the frames that wait there, received as it was. -/
theorem forwarding_never_grows (kind : Kind) (value : kind.Value) :
    (∀ p rest, (Codec.get : Decoder kind.Value).run p = .ok (value, rest) →
      ∃ used, p = used ++ rest ∧ (Codec.put value).length ≤ used.length ∧
        ((Codec.put value).length = used.length → Codec.put value = used)) ∧
    ∀ inlet : Pipe, (inlet.receive kind.Value).1 = .ok (some value) →
      (∀ (outlet : Pipe) (size max : Nat),
        (outlet.send value).1 ≠ .error (.frameTooLarge size max)) ∧
      ∀ (outlet : Pipe) (frames : List (Kind × Bytes)), outlet.reader.pending = none →
        outlet.writer.pending = none → (∀ frame ∈ frames, frame.2.length ≤ maxPayload) →
        outlet.queue = (frames.flatMap fun frame => framed frame.2) →
        (outlet.send value).1 = .ok () ∧
          (((outlet.send value).2.afterReceives (frames.map Prod.fst)).receive kind.Value).1 =
            .ok (some value) := by
  refine ⟨fun p rest h => ?_, fun inlet h => ?_⟩
  · obtain ⟨used, hp, hused⟩ := (incremental_kind kind).reads h
    have hbounds := bounds_kind kind hused
    exact ⟨used, hp, hbounds.length_le, hbounds.eq_of_length_eq⟩
  · have hsize := length_put_le_of_receive h
    exact ⟨fun outlet => send_ne_frameTooLarge hsize, fun outlet frames hreader hwriter =>
      receive_after_send hsize hreader hwriter⟩

/-- A version whose major number comes in two octets more than it needs, with an octet behind. -/
def wideVersion : Bytes :=
  [251, 1, 0, 2, 9]

/-- A pipe in which this version waits and that hands out one octet at a time. -/
def wideVersionPipe : Pipe :=
  { make (some ⟨1, Nat.one_pos⟩) none none with queue := framed wideVersion }

theorem receive_wideVersionPipe :
    (wideVersionPipe.receive Version).1 = .ok (some ⟨1, 2⟩) := by
  have hqueue : wideVersionPipe.queue = framed wideVersion ++ [] := (List.append_nil _).symm
  rw [receive_framed rfl (by decide) hqueue]
  rfl

/-- This version is received, is written in two octets, gets through another pipe behind a format,
and is received there. -/
theorem forwarding_never_grows_wide :
    let version : Version := ⟨1, 2⟩
    let outlet : Pipe := { make none none none with queue := framed [1] }
    (∃ used, wideVersion = used ++ [9] ∧ (Codec.put version).length ≤ used.length ∧
      ((Codec.put version).length = used.length → Codec.put version = used)) ∧
    (wideVersionPipe.receive Version).1 = .ok (some version) ∧
    (outlet.send version).1 = .ok () ∧
    (((outlet.send version).2.afterReceives [.format]).receive Version).1 = .ok (some version) := by
  intro version outlet
  obtain ⟨hdecode, hforward⟩ := forwarding_never_grows .version version
  obtain ⟨-, houtlet⟩ := hforward wideVersionPipe receive_wideVersionPipe
  obtain ⟨hsent, hreceived⟩ := houtlet outlet [(.format, [1])] rfl rfl (by decide) rfl
  exact ⟨hdecode wideVersion [9] rfl, receive_wideVersionPipe, hsent, hreceived⟩

end Pipe

end ClipExchange
