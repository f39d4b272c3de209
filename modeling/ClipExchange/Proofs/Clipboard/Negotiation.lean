import Mathlib
import ClipExchange.Proofs.Clipboard.Writes
import ClipExchange.Proofs.Stream.Framing
import ClipExchange.Proofs.Transaction.Answers

/-!
# Negotiation from one clipboard to another

The viewer offers a transaction, the host requests some formats of it, the viewer answers, and the
host writes the transaction that it rebuilds from the answer. Every message crosses a pipe. If
there are no failures and every message is within the limit, then what the host applies is
determined by the viewer's transaction, the formats that were requested and the formats that the
host supports; nothing is seen of the pipes.

## Main definitions

* `Pipe.carry`: one message from end to end of a pipe.
* `negotiate`: the whole negotiation.
* `Pipe.Idle`: a pipe without failures in which nothing waits.

## Main results

* `Pipe.Idle.carry`: a message within the limit arrives.
* `negotiate_eq`: the host writes the wanted representations under the viewer's identifier.
* `negotiation_outcome`: the four ways in which a negotiation ends.
-/

namespace ClipExchange

open Wire Transaction

/-- Send a message and receive it at the other end. -/
def Pipe.carry (message : Message) (pipe : Pipe) : Except TransferError (Message × Pipe) :=
  match pipe.send message with
  | (.error e, _) => .error e
  | (.ok (), pipe) =>
    match pipe.receive Message with
    | (.error e, _) => .error e
    | (.ok none, _) => .error .streamClosed
    | (.ok (some received), pipe) => .ok (received, pipe)

/-- The formats that a request names. -/
def Message.requested : Message → Except TransferError (List Format)
  | .request _ formats => .ok formats
  | message => .error (.unexpected ⟨message.kind⟩)

/-- A transaction is offered, some formats of it are requested under the identifier that came with
the offer, and the answer is written to the clipboard of the host. -/
def negotiate (toHost toViewer : Pipe) (tx : Transaction) (requested : List Format)
    (host : MemoryClipboard) :
    Except TransferError (Except ClipboardError Unit × MemoryClipboard) := do
  let (offer, toHost) ← toHost.carry tx.offer.1
  let (request, _) ← toViewer.carry (.request offer.id requested)
  let formats ← request.requested
  let (answer, _) ← toHost.carry (tx.offer.2.respond formats).1
  let rebuilt ← answer.toTransaction.mapError .unexpected
  pure (host.write rebuilt)

/-! ### One message -/

namespace Pipe

variable {pipe : Pipe} {message : Message}

/-- Nothing waits in the pipe and no failure is pending. -/
structure Idle (pipe : Pipe) : Prop where
  reader : pipe.reader.pending = none
  writer : pipe.writer.pending = none
  queue : pipe.queue = []

theorem idle_make (limit : ChunkLimit) : (make limit none none).Idle :=
  ⟨rfl, rfl, rfl⟩

/-- The pipe after a number of octets have gone through it. -/
def through (pipe : Pipe) (count : Nat) : Pipe :=
  { pipe with
    queue := []
    reader := pipe.reader.advance count
    writer := pipe.writer.advance count }

theorem Idle.through (hpipe : pipe.Idle) (count : Nat) : (pipe.through count).Idle :=
  ⟨hpipe.reader, hpipe.writer, rfl⟩

/-- A message within the limit arrives and leaves the pipe ready for the next one. -/
theorem Idle.carry (hpipe : pipe.Idle) (h : (Codec.put message).length ≤ maxPayload) :
    ∃ pipe' : Pipe, pipe.carry message = .ok (message, pipe') ∧ pipe'.Idle := by
  refine ⟨pipe.through (headerLength + (Codec.put message).length), ?_, hpipe.through _⟩
  have hsend := send_of_le hpipe.writer h
  rw [hpipe.queue, List.nil_append] at hsend
  have hreceive : receive Message { pipe with
        queue := framed (Codec.put message)
        writer := pipe.writer.advance (headerLength + (Codec.put message).length) } =
      (((decode (Codec.put message)).map some).mapError .decoding,
        pipe.through (headerLength + (Codec.put message).length)) :=
    receive_framed hpipe.reader h (List.append_nil _).symm
  have hdecode : (decode (Codec.put message) : Except DecodeError Message) = .ok message :=
    @decode_put .message message h
  rw [hdecode] at hreceive
  simp only [Pipe.carry, hsend, hreceive]
  rfl

end Pipe

/-! ### The whole negotiation -/

variable {toHost toViewer : Pipe} {tx : Transaction} {requested : List Format}

/-- The host writes the wanted representations under the viewer's identifier. -/
theorem negotiate_eq (htoHost : toHost.Idle) (htoViewer : toViewer.Idle)
    (hoffer : (Codec.put tx.offer.1).length ≤ maxPayload)
    (hrequest : (Codec.put (Message.request tx.id requested)).length ≤ maxPayload)
    (hanswer : (Codec.put (tx.respond requested).1).length ≤ maxPayload)
    (host : MemoryClipboard) :
    negotiate toHost toViewer tx requested host =
      .ok (host.write (.ofContents tx.id (tx.wanted requested))) := by
  obtain ⟨toHost', hofferCarried, htoHost'⟩ := htoHost.carry hoffer
  obtain ⟨_, hrequestCarried, -⟩ := htoViewer.carry hrequest
  obtain ⟨_, hanswerCarried, -⟩ := htoHost'.carry hanswer
  have hid : tx.offer.1.id = tx.id := rfl
  -- The offer closed the transaction, which makes no difference to its answer.
  have hrespond : (tx.offer.2.respond requested).1 = (tx.respond requested).1 := by
    rw [respond_eq, respond_eq]
    rfl
  simp only [negotiate, hofferCarried, bind, Except.bind, hid, hrequestCarried, Message.requested,
    hrespond, hanswerCarried, toTransaction_respond]
  rfl

/-- **A negotiation ends in one of four ways.** Over pipes without failures, with transfers of any
sizes and messages within the limit: if nothing that is requested is offered, the write succeeds
and the host is as it was. If the wanted representations are together larger than the host takes,
it refuses their total size. If the host supports none of them, it says so. Otherwise it applies
exactly the first one that is supported, under the viewer's identifier; if everything that the
host supports was requested, then this is what the viewer would select for the host. -/
theorem negotiation_outcome (toHost toViewer : ChunkLimit) (tx : Transaction)
    (requested : List Format) (host : MemoryClipboard)
    (hoffer : (Codec.put tx.offer.1).length ≤ maxPayload)
    (hrequest : (Codec.put (Message.request tx.id requested)).length ≤ maxPayload)
    (hanswer : (Codec.put (tx.respond requested).1).length ≤ maxPayload) :
    ∃ result, negotiate (.make toHost none none) (.make toViewer none none) tx requested host =
        .ok result ∧
      ((∀ item ∈ tx.contents, item.format ∉ requested) → result = (.ok (), host)) ∧
      (host.maxSize < ((tx.wanted requested).map Content.size).sum →
        result = (.error (.tooLarge ((tx.wanted requested).map Content.size).sum host.maxSize),
          host)) ∧
      ((∃ item ∈ tx.contents, item.format ∈ requested) →
        ((tx.wanted requested).map Content.size).sum ≤ host.maxSize →
        (∀ item ∈ tx.contents, item.format ∈ requested → item.format ∉ host.supported) →
        result = (.error .formatUnavailable, host)) ∧
      (((tx.wanted requested).map Content.size).sum ≤ host.maxSize →
        ∀ before item after, tx.contents = before ++ item :: after →
          item.format ∈ requested → item.format ∈ host.supported →
          (∀ other ∈ before, other.format ∈ requested → other.format ∉ host.supported) →
          result = (.ok (), { host with
            current := [item], applied := host.applied ++ [⟨tx.id, item⟩] }) ∧
          ((∀ format ∈ host.supported, format ∈ requested) →
            (tx.select host.supported).1 = some item)) := by
  have hanswerSize := size_ofContents tx.id (tx.wanted requested)
  refine ⟨_, negotiate_eq (Pipe.idle_make toHost) (Pipe.idle_make toViewer) hoffer hrequest
    hanswer host, fun hnone => ?_, ?_, fun hsome hsize hunsupported => ?_,
    fun hsize before item after hcontents hrequested hsupported hbefore => ?_⟩
  · exact MemoryClipboard.write_of_nil (wanted_eq_nil_iff.2 hnone)
  · intro hsize
    -- A total above the limit is not zero, so something was wanted.
    have hwanted : tx.wanted requested ≠ [] := by
      intro hnil
      simp [hnil] at hsize
    rw [← hanswerSize] at hsize ⊢
    exact MemoryClipboard.write_of_lt hwanted hsize
  · obtain ⟨item, hitem, hrequested⟩ := hsome
    refine MemoryClipboard.write_of_select_eq_none
      (List.ne_nil_of_mem (mem_wanted.2 ⟨hitem, hrequested⟩)) (hanswerSize.trans_le hsize)
      (select_eq_none fun item hitem => ?_)
    obtain ⟨hmem, hrequested⟩ := mem_wanted.1 hitem
    exact hunsupported item hmem hrequested
  · -- If all that is supported was requested, an item before the applied one is not supported.
    refine ⟨MemoryClipboard.write_of_select_eq_some (hanswerSize.trans_le hsize)
      (select_wanted_of_append hcontents hrequested hsupported hbefore), fun hcover => ?_⟩
    refine select_eq_some_of_append hcontents hsupported fun other hother hformat => ?_
    exact hbefore other hother (hcover _ hformat) hformat

/-- A file list, a note as text and as a page, and the text once more. -/
def noteTransaction : Transaction :=
  ⟨.ofNat 7, [.fileList ["/note"], .text "note", .html "<p>note</p>", .text "note"], .finalized⟩

/-- A clipboard with an image on it that takes pages and texts. -/
def noteHost : MemoryClipboard :=
  { MemoryClipboard.make [.html, .plainText] 19 with current := [.png [1, 2, 3]] }

/-- The host takes the text, which the viewer prefers, although it requested pages first. -/
theorem negotiation_outcome_note :
    ((Codec.put noteTransaction.offer.1).length ≤ maxPayload ∧
      (Codec.put (Message.request noteTransaction.id [.html, .plainText])).length ≤ maxPayload ∧
      (Codec.put (noteTransaction.respond [.html, .plainText]).1).length ≤ maxPayload) ∧
    negotiate (.make (some ⟨1, Nat.one_pos⟩) none none) (.make none none none) noteTransaction
      [.html, .plainText] noteHost =
        .ok (.ok (), { noteHost with
          current := [.text "note"], applied := [⟨.ofNat 7, .text "note"⟩] }) := by
  have hoffer : (Codec.put noteTransaction.offer.1).length ≤ maxPayload := by decide
  have hrequest : (Codec.put (Message.request noteTransaction.id [.html, .plainText])).length ≤
      maxPayload := by decide
  have hanswer : (Codec.put (noteTransaction.respond [.html, .plainText]).1).length ≤
      maxPayload := by decide
  refine ⟨⟨hoffer, hrequest, hanswer⟩, ?_⟩
  obtain ⟨result, hresult, -, -, -, happlied⟩ :=
    negotiation_outcome (some ⟨1, Nat.one_pos⟩) none noteTransaction [.html, .plainText] noteHost
      hoffer hrequest hanswer
  rw [hresult, (happlied (by decide) [.fileList ["/note"]] (.text "note") _ rfl (by decide)
    (by decide) (by decide)).1]
  rfl

end ClipExchange
