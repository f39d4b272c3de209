import Mathlib
import ClipExchange.Proofs.Stream.Framing

/-!
# Receiving where a read may fail

A call to receive meets two things that can cut it short: the end of the octets that wait, and a
failure that awaits the reader behind some number of octets. Which of them it meets first, and
whether it is still reading the header by then, decides how it ends. Where both stand at the same
place the failure comes first, since a transfer that would start there fails before it finds the
end. A failure behind the frame, or behind a header that announces too much, is left for later.

## Main definitions

* `Pipe.Receipt`: what a call gives, the octets it takes, and whether it meets the failure.
* `Pipe.Receives`: the ways in which a call ends.

## Main results

* `Pipe.exists_receives`, `Pipe.receive_of_receives`: a call ends in one of these ways, whatever
  the size of the transfers.
* `Pipe.Receives.unique`: it ends in one way only.
* `Pipe.receive_outcome`: the same of the whole call, and when it finds the end of the stream.
-/

namespace ClipExchange

open PipeEnd Wire

namespace Pipe

variable {pipe : Pipe} {rest : Bytes}

/-! ### The ways in which a call ends -/

/-- What a call to receive gives, the number of octets that it takes off the queue, and whether it
meets the failure that awaits the reader. -/
structure Receipt (α : Type) where
  result : Except TransferError (Option α)
  taken : Nat
  failed : Bool

variable {α : Type} {receipt other : Receipt α}

/-- The pipe that a call leaves: a failure that was met is gone, any other one stays. -/
def afterReceipt (receipt : Receipt α) (pipe : Pipe) : Pipe :=
  let reader := pipe.reader.advance receipt.taken
  { pipe with
    queue := pipe.queue.drop receipt.taken
    reader := if receipt.failed then reader.recover else reader }

theorem passed_afterReceipt (receipt : Receipt α) (pipe : Pipe) :
    (pipe.afterReceipt receipt).reader.passed = pipe.reader.passed + receipt.taken := by
  unfold afterReceipt
  split_ifs <;> rfl

theorem pending_afterReceipt (receipt : Receipt α) (pipe : Pipe) :
    (pipe.afterReceipt receipt).reader.pending =
      if receipt.failed then none else pipe.reader.pending := by
  unfold afterReceipt
  split_ifs <;> rfl

/-- The pipe when the header has been taken. -/
def afterHeader (rest : Bytes) (pipe : Pipe) : Pipe :=
  { pipe with queue := rest, reader := pipe.reader.advance headerLength }

/-- Octets of the payload are taken behind the header. -/
theorem afterReceipt_of_header {front : Bytes} (hqueue : pipe.queue = front ++ rest)
    (hfront : front.length = headerLength) (result : Except TransferError (Option α)) (n : Nat)
    (failed : Bool) :
    pipe.afterReceipt ⟨result, headerLength + n, failed⟩ =
      (pipe.afterHeader rest).afterReceipt ⟨result, n, failed⟩ := by
  have hdrop : pipe.queue.drop (headerLength + n) = rest.drop n := by
    rw [hqueue, ← hfront, ← List.drop_drop, List.drop_left]
  simp only [afterReceipt, afterHeader, hdrop, advance, Nat.add_assoc]

variable [Codec α] {queue : Bytes} {side : PipeEnd}

/-- The ways in which a call to receive ends. Nothing is said of the size of the transfers. -/
inductive Receives (queue : Bytes) (side : PipeEnd) : Receipt α → Prop
  /-- Nothing waits and no failure is due. -/
  | ended (hqueue : queue = []) (hpass : side.Passes 1) : Receives queue side ⟨.ok none, 0, false⟩
  /-- The failure stands before the end of the header, and what is before it is there. -/
  | headerFailed {n : Nat} {failure : StreamFailure} (hfail : side.FailsAfter n failure)
      (hshort : n < headerLength) (hthere : n ≤ queue.length) :
      Receives queue side ⟨.error (.stream failure), n, true⟩
  /-- The end stands inside the header, and the failure behind it. -/
  | headerTorn (hne : queue ≠ []) (hshort : queue.length < headerLength)
      (hpass : side.Passes (queue.length + 1)) :
      Receives queue side ⟨.error .streamClosed, queue.length, false⟩
  /-- The header announces more than is allowed. No octet of the payload is taken. -/
  | tooLong {front rest : Bytes} (hqueue : queue = front ++ rest)
      (hfront : front.length = headerLength) (hpass : side.Passes headerLength)
      (hsize : maxPayload < Bytes.ofBigEndian front) :
      Receives queue side
        ⟨.error (.frameTooLarge (Bytes.ofBigEndian front) maxPayload), headerLength, false⟩
  /-- The failure stands inside the payload, and what is before it is there. Only here its kind
  matters. -/
  | payloadFailed {front rest : Bytes} {n : Nat} {failure : StreamFailure}
      (hqueue : queue = front ++ rest) (hfront : front.length = headerLength)
      (hsize : Bytes.ofBigEndian front ≤ maxPayload)
      (hfail : side.FailsAfter (headerLength + n) failure) (hshort : n < Bytes.ofBigEndian front)
      (hthere : n ≤ rest.length) :
      Receives queue side
        ⟨.error (if failure.kind = .unexpectedEnd then .streamClosed else .stream failure),
          headerLength + n, true⟩
  /-- The end stands inside the payload, and the failure behind it. -/
  | payloadTorn {front rest : Bytes} (hqueue : queue = front ++ rest)
      (hfront : front.length = headerLength) (hsize : Bytes.ofBigEndian front ≤ maxPayload)
      (hshort : rest.length < Bytes.ofBigEndian front)
      (hpass : side.Passes (queue.length + 1)) :
      Receives queue side ⟨.error .streamClosed, queue.length, false⟩
  /-- The whole frame is there, and the failure not before its end. -/
  | frame {payload rest : Bytes} (hqueue : queue = framed payload ++ rest)
      (hsize : payload.length ≤ maxPayload)
      (hpass : side.Passes (headerLength + payload.length)) :
      Receives queue side ⟨((decode payload).map some).mapError .decoding,
        headerLength + payload.length, false⟩

/-- A call always ends in one of these ways. -/
theorem exists_receives (α : Type) [Codec α] (queue : Bytes) (side : PipeEnd) :
    ∃ receipt : Receipt α, Receives queue side receipt := by
  by_cases hheader : ∃ n failure, side.FailsAfter n failure ∧ n < headerLength ∧ n ≤ queue.length
  · obtain ⟨n, failure, hfail, hshort, hthere⟩ := hheader
    exact ⟨_, .headerFailed hfail hshort hthere⟩
  push Not at hheader
  by_cases hshort : queue.length < headerLength
  · have hpass : side.Passes (queue.length + 1) := by
      intro k failure hfail
      by_contra hk
      have := hheader k failure hfail (by omega)
      omega
    by_cases hempty : queue = []
    · exact ⟨_, .ended hempty (hpass.mono (Nat.le_add_left 1 _))⟩
    · exact ⟨_, .headerTorn hempty hshort hpass⟩
  obtain ⟨front, rest, rfl, hfront⟩ : ∃ front rest, queue = front ++ rest ∧
      front.length = headerLength :=
    ⟨_, _, (List.take_append_drop headerLength queue).symm,
      List.length_take_of_le (not_lt.1 hshort)⟩
  have hpass : side.Passes headerLength := by
    intro k failure hfail
    by_contra hk
    have := hheader k failure hfail (by omega)
    omega
  rcases lt_or_ge maxPayload (Bytes.ofBigEndian front) with hsize | hsize
  · exact ⟨_, .tooLong rfl hfront hpass hsize⟩
  by_cases hpayload : ∃ n failure, side.FailsAfter (headerLength + n) failure ∧
      n < Bytes.ofBigEndian front ∧ n ≤ rest.length
  · obtain ⟨n, failure, hfail, hshort, hthere⟩ := hpayload
    exact ⟨_, .payloadFailed rfl hfront hsize hfail hshort hthere⟩
  push Not at hpayload
  -- A failure that is left stands behind the payload or behind the end.
  have hbehind (k : Nat) (failure : StreamFailure) (hfail : side.FailsAfter k failure) :
      headerLength + Bytes.ofBigEndian front ≤ k ∨ headerLength + rest.length < k := by
    obtain ⟨n, rfl⟩ := Nat.exists_eq_add_of_le (hpass k failure hfail)
    have := hpayload n failure hfail
    omega
  by_cases hpart : rest.length < Bytes.ofBigEndian front
  · refine ⟨_, .payloadTorn rfl hfront hsize hpart fun k failure hfail => ?_⟩
    have := hbehind k failure hfail
    rw [List.length_append, hfront]
    omega
  · obtain ⟨payload, rest, rfl, hlength⟩ : ∃ payload rest', rest = payload ++ rest' ∧
        payload.length = Bytes.ofBigEndian front :=
      ⟨_, _, (List.take_append_drop (Bytes.ofBigEndian front) rest).symm,
        List.length_take_of_le (not_lt.1 hpart)⟩
    have hframed : front ++ (payload ++ rest) = framed payload ++ rest := by
      rw [framed, hlength, header, ← hfront, Bytes.bigEndian_ofBigEndian, List.append_assoc]
    refine ⟨_, .frame hframed (hlength.trans_le hsize) fun k failure hfail => ?_⟩
    have := hbehind k failure hfail
    rw [List.length_append] at this
    omega

/-- What is left to do when the header has been taken. -/
theorem receive_of_header {front : Bytes} (hqueue : pipe.queue = front ++ rest)
    (hfront : front.length = headerLength) (hpass : pipe.reader.Passes headerLength) :
    pipe.receive α =
      if maxPayload < Bytes.ofBigEndian front then
        (.error (.frameTooLarge (Bytes.ofBigEndian front) maxPayload), pipe.afterHeader rest)
      else (pipe.afterHeader rest).receivePayload α (Bytes.ofBigEndian front) := by
  have hheader := gather_of_passes (hfront ▸ hpass) hqueue
  rw [hfront] at hheader
  simp only [receive, hheader]
  rfl

/-- **A call ends as the octets that wait and the failure tell.** -/
theorem receive_of_receives (h : Receives pipe.queue pipe.reader receipt) :
    pipe.receive α = (receipt.result, pipe.afterReceipt receipt) := by
  cases h with
  | ended hqueue hpass =>
    have hgather : pipe.gather headerLength = _ := gather_of_passes_of_lt hqueue hpass (by decide)
    simp only [receive, hgather]
    simp [afterReceipt, hqueue]
  | headerFailed hfail hshort hthere =>
    simp only [receive, gather_of_failsAfter rfl hfail hshort hthere]
    rfl
  | headerTorn hne hshort hpass =>
    have hgather := gather_of_passes_of_lt rfl hpass hshort
    cases hqueue : pipe.queue with
    | nil => exact absurd hqueue hne
    | cons b rest =>
      simp only [receive, hgather, hqueue]
      simp [afterReceipt, hqueue]
  | tooLong hqueue hfront hpass hsize =>
    rw [receive_of_header hqueue hfront hpass, if_pos hsize]
    exact congrArg _ (afterReceipt_of_header hqueue hfront _ 0 false).symm
  | payloadFailed hqueue hfront hsize hfail hshort hthere =>
    have hpass := hfail.passes (Nat.le_add_right headerLength _)
    have hbody : (pipe.afterHeader _).gather _ = _ :=
      gather_of_failsAfter rfl hfail.advance hshort hthere
    rw [receive_of_header hqueue hfront hpass, if_neg (not_lt.2 hsize), receivePayload, hbody,
      afterReceipt_of_header hqueue hfront]
    dsimp only
    split_ifs <;> rfl
  | @payloadTorn front rest hqueue hfront hsize hshort hpass =>
    have hlength : pipe.queue.length = headerLength + rest.length := by
      rw [hqueue, List.length_append, hfront]
    rw [hlength, Nat.add_assoc] at hpass
    have hbody : (pipe.afterHeader rest).gather _ = _ :=
      gather_of_passes_of_lt rfl hpass.advance hshort
    rw [receive_of_header hqueue hfront (hpass.mono (Nat.le_add_right _ _)),
      if_neg (not_lt.2 hsize), receivePayload, hbody, hlength, afterReceipt_of_header hqueue hfront]
    simp [afterReceipt, afterHeader]
  | @frame payload rest hqueue hsize hpass =>
    rw [framed, List.append_assoc] at hqueue
    have hfront := length_header payload.length
    have hbody : (pipe.afterHeader (payload ++ rest)).gather payload.length = _ :=
      gather_of_passes hpass.advance rfl
    rw [receive_of_header hqueue hfront (hpass.mono (Nat.le_add_right _ _)),
      ofBigEndian_header hsize, if_neg (not_lt.2 hsize), receivePayload, hbody,
      afterReceipt_of_header hqueue hfront]
    simp [afterReceipt, afterHeader, decoded_eq]

/-- Where there is no failure none is met. -/
theorem Receives.pending_ne_none (h : Receives queue side receipt) (hfailed : receipt.failed) :
    side.pending ≠ none := by
  cases h with
  | headerFailed hfail | payloadFailed _ _ _ hfail =>
    obtain ⟨fault, hpending, -⟩ := hfail
    simp [hpending]
  | ended | headerTorn | tooLong | payloadTorn | frame => cases hfailed

/-- **A call ends in one way only.** -/
theorem Receives.unique (h : Receives queue side receipt) (hother : Receives queue side other) :
    other = receipt := by
  -- Both tell how a call on the same pipe ends and what it leaves.
  let pipe : Pipe := ⟨queue, none, side, side, false⟩
  have hreceive : pipe.receive α = _ := receive_of_receives h
  have hsame : (other.result, pipe.afterReceipt other) =
      (receipt.result, pipe.afterReceipt receipt) := by
    rw [← hreceive]
    exact (receive_of_receives hother).symm
  obtain ⟨hresult, hafter⟩ := Prod.mk.inj hsame
  have htaken := congrArg (fun pipe => pipe.reader.passed) hafter
  have hpending := congrArg (fun pipe => pipe.reader.pending) hafter
  simp only [passed_afterReceipt, Nat.add_left_cancel_iff] at htaken
  simp only [pending_afterReceipt] at hpending
  have hfailed : other.failed = receipt.failed := by
    rw [Bool.eq_iff_iff]
    constructor
    · intro hmet
      by_contra hleft
      rw [if_pos hmet, if_neg hleft] at hpending
      exact hother.pending_ne_none hmet hpending.symm
    · intro hmet
      by_contra hleft
      rw [if_pos hmet, if_neg hleft] at hpending
      exact h.pending_ne_none hmet hpending
  obtain ⟨result, taken, failed⟩ := receipt
  obtain ⟨result', taken', failed'⟩ := other
  rw [Receipt.mk.injEq]
  exact ⟨hresult, htaken, hfailed⟩

/-- The end of the stream is found exactly where nothing waits and no failure is due. -/
theorem Receives.result_eq_none_iff (h : Receives queue side receipt) :
    receipt.result = .ok none ↔ queue = [] ∧ side.due? = none := by
  constructor
  · intro hresult
    cases h with
    | ended hqueue hpass => exact ⟨hqueue, passes_one_iff_due?_eq_none.1 hpass⟩
    | @frame payload =>
      cases hdecode : (decode payload : Except DecodeError α) with
      | ok value =>
        rw [hdecode] at hresult
        cases hresult
      | error cause =>
        rw [hdecode] at hresult
        cases hresult
    | headerFailed | headerTorn | tooLong | payloadFailed | payloadTorn => cases hresult
  · rintro ⟨hqueue, hdue⟩
    rw [Receives.unique (.ended hqueue (passes_one_iff_due?_eq_none.2 hdue)) h]

/-- **How a call to receive ends.** Whatever waits in the queue, and wherever a failure of whatever
kind awaits the reader, the call ends in exactly one of the ways that `Receives` lists, and it does
so whatever the size of the transfers: it gives the result, takes the octets and meets or leaves the
failure as is said there. It finds the end of the stream if and only if nothing waits and no failure
is due. -/
theorem receive_outcome (α : Type) [Codec α] (pipe : Pipe) :
    ∃ receipt : Receipt α, Receives pipe.queue pipe.reader receipt ∧
      (∀ other, Receives pipe.queue pipe.reader other → other = receipt) ∧
      (∀ limit : ChunkLimit, receive α { pipe with limit := limit } =
        (receipt.result, afterReceipt receipt { pipe with limit := limit })) ∧
      (receipt.result = .ok none ↔ pipe.queue = [] ∧ pipe.reader.due? = none) := by
  obtain ⟨receipt, hreceipt⟩ := exists_receives α pipe.queue pipe.reader
  refine ⟨receipt, hreceipt, fun other => hreceipt.unique, fun limit => ?_,
    hreceipt.result_eq_none_iff⟩
  exact receive_of_receives hreceipt

/-- One octet of a payload of three waits, and a failure that looks like an early end stands
behind it. -/
def tiedPipe : Pipe :=
  { make none (some ⟨5, ⟨.unexpectedEnd, "injected"⟩⟩) none with queue := header 3 ++ [1] }

/-- The failure comes before the end of what waits: it is met, and the call after it finds the end
of the stream. -/
theorem receive_outcome_tied : ∀ limit : ChunkLimit,
    ∃ after : Pipe, receive Version { tiedPipe with limit := limit } =
        (.error .streamClosed, after) ∧ after.queue = [] ∧ after.reader = ⟨5, none⟩ := by
  intro limit
  obtain ⟨receipt, -, hunique, hreceive, -⟩ := receive_outcome Version tiedPipe
  have hmet : tiedPipe.reader.FailsAfter (headerLength + 1) ⟨.unexpectedEnd, "injected"⟩ :=
    ⟨_, rfl, rfl, rfl⟩
  rw [hreceive, ← hunique _ (.payloadFailed rfl (length_header 3) (by decide) hmet (by decide)
    (by decide))]
  exact ⟨_, rfl, rfl, rfl⟩

end Pipe

end ClipExchange
