import Mathlib
import ClipExchange.Config
import ClipExchange.Proofs.Clipboard.Writes
import ClipExchange.Proofs.Stream.Forwarding
import ClipExchange.Proofs.Wire.Lengths

/-!
# What a frame can carry

The number of octets that a message is read from bounds the transaction that it carries: the
payloads of the items, one separator for each path, two octets for each item and nineteen for the
message fit into them, in whatever widths the numbers were written. A frame has sixteen mebibytes
at most, so what is received is smaller than that, and adding up its size in machine numbers meets
no overflow. In the other direction, a transaction that is too large for these octets is not sent.

The limit on size that is checked before sending counts payloads only. It leaves room for six
mebibytes of names, lengths and numbers in a frame; what has more of these passes the check and is
refused when it is framed.

## Main definitions

* `Bounded.fit?`, `Bounded.sum?`: numbers and sums that have to stay below a limit.
* `Transaction.sizeBelow?`: the size of a transaction, added up in such numbers.

## Main results

* `Transaction.sizeBelow?_eq`: an overflow is met exactly if the size does not fit.
* `Wire.size_add_le_of_reads`: octets bound what is read from them.
* `Pipe.frame_bounds_content`: all bounds of a frame.
* `Transaction.frame_of_checkSize`: what the limit on size lets through.
-/

namespace ClipExchange

open Wire

/-! ### Sums below a limit -/

namespace Bounded

/-- A number, if it is below the limit. -/
def fit? (limit n : Nat) : Option Nat :=
  if n < limit then some n else none

/-- The sum of what is measured at some items, added up from the front. No sum on the way may reach
the limit. -/
def sum? {α : Type} (limit : Nat) (measure? : α → Option Nat) (items : List α) : Option Nat :=
  items.foldlM (fun sum item => do
    let n ← measure? item
    fit? limit (sum + n)) 0

variable {α : Type} {limit : Nat} {measure? : α → Option Nat} {measure : α → Nat}

/-- The sums on the way add up to the whole sum, and it is the whole sum that has to fit. -/
theorem sum?_eq (hlimit : 0 < limit) (h : ∀ item, measure? item = fit? limit (measure item))
    (items : List α) : sum? limit measure? items = fit? limit (items.map measure).sum := by
  suffices hfrom : ∀ before < limit, (items.foldlM (fun sum item => do
      let n ← measure? item
      fit? limit (sum + n)) before) = fit? limit (before + (items.map measure).sum) by
    simpa [sum?] using hfrom 0 hlimit
  induction items with
  | nil =>
    intro before hbefore
    exact (if_pos hbefore).symm
  | cons item items ih =>
    intro before hbefore
    rw [List.foldlM_cons, h, List.map_cons, List.sum_cons, ← Nat.add_assoc]
    by_cases hfits : before + measure item < limit
    · rw [fit?, if_pos (by omega)]
      simp only [Option.bind_eq_bind, Option.bind_some, fit?, if_pos hfits]
      exact ih _ hfits
    · -- The item does not fit, or it fits and the sum with it does not.
      have hover : ¬ before + measure item + (items.map measure).sum < limit := by omega
      simp only [fit?, if_neg hover]
      split_ifs <;> simp [hfits]

end Bounded

open Bounded

/-- The size of a representation, added up in numbers below a limit. -/
def Content.sizeBelow? (limit : Nat) : Content → Option Nat
  | .fileList paths => sum? limit (fun path => fit? limit (path.utf8ByteSize + 1)) paths
  | content => fit? limit content.size

theorem Content.sizeBelow?_eq {limit : Nat} (hlimit : 0 < limit) (content : Content) :
    content.sizeBelow? limit = fit? limit content.size := by
  cases content with
  | fileList paths => rw [sizeBelow?, sum?_eq hlimit fun _ => rfl, size_fileList]
  | text | html | richText | png | bitmap | other => rfl

/-- The size of a transaction, added up in numbers below a limit. -/
def Transaction.sizeBelow? (limit : Nat) (tx : Transaction) : Option Nat :=
  sum? limit (Content.sizeBelow? limit) tx.contents

/-- **An overflow is met exactly if the size does not fit.** -/
theorem Transaction.sizeBelow?_eq {limit : Nat} (hlimit : 0 < limit) (tx : Transaction) :
    tx.sizeBelow? limit = fit? limit tx.size := by
  rw [sizeBelow?, sum?_eq hlimit fun content => content.sizeBelow?_eq hlimit, size_eq_sum]

/-! ### What octets can carry -/

variable {tx : Transaction}

theorem Transaction.size_add_le_length_put (tx : Transaction) :
    tx.size + 2 * tx.length + 19 ≤ (Codec.put tx.data).length := by
  have := tx.le_overhead
  rw [length_put_data]
  omega

/-- Every file list has fewer paths than the size of the whole transaction counts octets. -/
theorem Transaction.length_paths_le_size {paths : List String}
    (h : .fileList paths ∈ tx.contents) : paths.length ≤ tx.size := by
  rw [size_eq_sum]
  exact (Content.length_le_size_fileList paths).trans
    (List.le_sum_of_mem (List.mem_map_of_mem h))

/-- **Octets bound what is read from them.** -/
theorem Wire.size_add_le_of_reads {used : Bytes} (h : getMessage.Reads used tx.data) :
    tx.size + 2 * tx.length + 19 ≤ used.length :=
  tx.size_add_le_length_put.trans (bounds_message h).length_le

namespace Pipe

variable {pipe : Pipe}

/-- What is rebuilt from an answer that was received is smaller than the largest payload. -/
theorem size_lt_of_receive {message : Message} (h : (pipe.receive Message).1 = .ok (some message))
    (htx : message.toTransaction = .ok tx) : tx.size < maxPayload := by
  cases message with
  | offer | request => cases htx
  | empty id =>
    obtain rfl := Except.ok.inj htx
    have hempty : (Transaction.start id).size = 0 := rfl
    rw [hempty]
    decide
  | data id contents =>
    obtain rfl := Except.ok.inj htx
    have hle := @length_put_le_of_receive pipe .message _ h
    have hsize := (Transaction.ofContents id contents).size_add_le_length_put
    change (Codec.put (Transaction.ofContents id contents).data).length ≤ maxPayload at hle
    omega

/-- **A frame bounds what it carries.** Where octets are read as an answer with some items, in
whatever widths their numbers are written, the size of the rebuilt transaction, two octets for each
item and nineteen more are no more than the octets that are taken, and every file list has fewer
paths than these. A transaction that is received over any pipe is therefore smaller than sixteen
mebibytes, and no sum on the way to its size reaches that. In the other direction, a transaction for
which there are not so many octets is refused before anything is written. -/
theorem frame_bounds_content :
    (∀ (payload rest : Bytes) (id : TransactionId) (contents : List Content),
      (Codec.get : Decoder Message) payload = .ok (.data id contents, rest) →
      ∃ used rebuilt, payload = used ++ rest ∧
        (Message.data id contents).toTransaction = .ok rebuilt ∧
        rebuilt.size + 2 * contents.length + 19 ≤ used.length ∧
        ∀ paths, .fileList paths ∈ rebuilt.contents → paths.length < used.length) ∧
    (∀ (pipe : Pipe) (message : Message) (rebuilt : Transaction),
      (pipe.receive Message).1 = .ok (some message) → message.toTransaction = .ok rebuilt →
      rebuilt.size < maxPayload ∧
        ∀ limit, maxPayload ≤ limit → rebuilt.sizeBelow? limit = some rebuilt.size) ∧
    ∀ (tx : Transaction) (pipe : Pipe), maxPayload < tx.size + 2 * tx.length + 19 →
      pipe.send tx.data =
        (.error (.frameTooLarge (Codec.put tx.data).length maxPayload), pipe) := by
  refine ⟨fun payload rest id contents h => ?_, fun pipe message rebuilt h hrebuilt => ?_,
    fun tx pipe h => ?_⟩
  · obtain ⟨used, rfl, hused⟩ := incremental_message.reads h
    have hsize := @Wire.size_add_le_of_reads (.ofContents id contents) used hused
    refine ⟨used, .ofContents id contents, rfl, rfl, hsize, fun paths hpaths => ?_⟩
    have hlength := Transaction.length_paths_le_size hpaths
    omega
  · have hsize := size_lt_of_receive h hrebuilt
    refine ⟨hsize, fun limit hlimit => ?_⟩
    have hlt := hsize.trans_le hlimit
    rw [Transaction.sizeBelow?_eq (Nat.zero_lt_of_lt hlt), fit?, if_pos hlt]
  · exact send_of_lt (h.trans_le tx.size_add_le_length_put)

/-- A note and two paths, for which no octet is left over. -/
def noteAndPaths : Transaction :=
  ⟨.ofNat 1, [.text "hi", .fileList ["a", "b"]], .accumulating⟩

/-- Their frame, handed out one octet at a time. -/
def noteAndPathsPipe : Pipe :=
  { make (some ⟨1, Nat.one_pos⟩) none none with queue := framed (Codec.put noteAndPaths.data) }

/-- An image of the given length. -/
def imageOf (count : Nat) : Transaction :=
  ⟨.ofNat 1, [.png (List.replicate count 0)], .accumulating⟩

theorem lt_imageOf (count : Nat) :
    count < (imageOf count).size + 2 * (imageOf count).length + 19 := by
  have hsize : (imageOf count).size = count := List.length_replicate
  omega

/-- Two items take exactly the octets of their bound, and an image that leaves none for the message
is refused. -/
theorem frame_bounds_content_noteAndPaths :
    (Codec.get : Decoder Message) (Codec.put noteAndPaths.data ++ [9]) =
        .ok (noteAndPaths.data, [9]) ∧
      (Codec.put noteAndPaths.data).length = noteAndPaths.size + 2 * 2 + 19 ∧
      (∃ used rebuilt, Codec.put noteAndPaths.data ++ [9] = used ++ [9] ∧
        noteAndPaths.data.toTransaction = .ok rebuilt ∧ rebuilt.size + 2 * 2 + 19 ≤ used.length) ∧
      (noteAndPathsPipe.receive Message).1 = .ok (some noteAndPaths.data) ∧
      noteAndPaths.sizeBelow? (2 ^ 32) = some noteAndPaths.size ∧
      maxPayload < (imageOf maxPayload).size + 2 * (imageOf maxPayload).length + 19 ∧
      (noteAndPathsPipe.send (imageOf maxPayload).data).2 = noteAndPathsPipe := by
  obtain ⟨hcarried, hreceived, hrefused⟩ := frame_bounds_content
  have hlength : (Codec.put noteAndPaths.data).length = 29 := by
    rw [length_put_data]
    decide
  have hread : (Codec.get : Decoder Message) (Codec.put noteAndPaths.data ++ [9]) =
      .ok (noteAndPaths.data, [9]) :=
    reads_message (hlength.trans_lt (by decide)) [9]
  have hwithin : (Codec.put noteAndPaths.data).length ≤ maxPayload := hlength.trans_le (by decide)
  have hdecode : decode (Codec.put noteAndPaths.data) = .ok noteAndPaths.data :=
    @decode_put .message _ hwithin
  have hreceive : (noteAndPathsPipe.receive Message).1 = .ok (some noteAndPaths.data) := by
    rw [receive_framed rfl hwithin (List.append_nil _).symm, hdecode]
    rfl
  refine ⟨hread, hlength, ?_, hreceive, ?_, lt_imageOf maxPayload, ?_⟩
  · obtain ⟨used, rebuilt, hused, hrebuilt, hsize, -⟩ := hcarried _ _ _ _ hread
    exact ⟨used, rebuilt, hused, hrebuilt, hsize⟩
  · exact (hreceived _ _ _ hreceive rfl).2 _ (by decide)
  · rw [hrefused _ _ (lt_imageOf maxPayload)]

end Pipe

/-! ### The limit on size before sending -/

namespace Transaction

theorem size_le_of_checkSize {limit : Nat} (h : tx.checkSize limit = .ok ()) : tx.size ≤ limit := by
  by_contra hlt
  cases (checkSize_of_lt (not_le.1 hlt)).symm.trans h

/-- With few items and short names, what is within the default limit is within that of a frame. -/
theorem length_put_data_le (hsize : tx.size ≤ ClipboardConfig.default.maxSize)
    (hfew : 11 * tx.length + tx.nameSize ≤ 6200000) :
    (Codec.put tx.data).length ≤ maxPayload := by
  have hdefault : ClipboardConfig.default.maxSize = 10485760 := rfl
  have hoverhead := tx.mul_overhead_le (by omega) (by omega) (by omega)
  rw [length_put_data, maxPayload]
  omega

/-- **What the limit on size lets through.** A transaction that passes it, for a limit of ten
mebibytes at most, is framed exactly if its size and its overhead together are within the limit of a
frame, and otherwise refused for their sum. Where the names of formats outside the six, and eleven
octets for each item, come to no more than 6200000, the transaction is framed however many paths it
has, and sending it never fails for the length of a frame. -/
theorem frame_of_checkSize {limit : Nat} (hlimit : limit ≤ ClipboardConfig.default.maxSize)
    (hsize : tx.checkSize limit = .ok ()) :
    (if maxPayload < tx.size + tx.overhead then
      frame tx.data = .error (.frameTooLarge (tx.size + tx.overhead) maxPayload)
    else
      frame tx.data = .ok (framed (Codec.put tx.data))) ∧
    (11 * tx.length + tx.nameSize ≤ 6200000 →
      frame tx.data = .ok (framed (Codec.put tx.data)) ∧
        ∀ (pipe : Pipe) (size max : Nat),
          (pipe.send tx.data).1 ≠ .error (.frameTooLarge size max)) := by
  refine ⟨?_, fun hfew => ?_⟩
  · rw [← length_put_data]
    split_ifs with hlarge
    · exact frame_of_lt hlarge
    · exact frame_of_le (not_lt.1 hlarge)
  · have hwithin := length_put_data_le ((size_le_of_checkSize hsize).trans hlimit) hfew
    exact ⟨frame_of_le hwithin, fun pipe => Pipe.send_ne_frameTooLarge hwithin⟩

theorem utf8ByteSize_replicate (count : Nat) :
    (String.ofList (List.replicate count 'a')).utf8ByteSize = count := by
  rw [← Utf8.length_encode, Utf8.encode_eq_flatMap, String.toList_ofList, List.length_flatMap,
    List.map_replicate, List.sum_replicate]
  exact mul_one count

/-- An item without payload under a name of the given length, and an image. -/
def namedAndImage (name image : Nat) : Transaction :=
  ⟨.ofNat 7, [.other (String.ofList (List.replicate name 'a')) [], .png (List.replicate image 0)],
    .accumulating⟩

theorem size_namedAndImage (name image : Nat) : (namedAndImage name image).size = image := by
  simp [namedAndImage, size, Content.size]

theorem nameSize_namedAndImage (name image : Nat) : (namedAndImage name image).nameSize = name := by
  simp [namedAndImage, nameSize, Content.nameSize, utf8ByteSize_replicate]

theorem overhead_namedAndImage (name image : Nat) :
    (namedAndImage name image).overhead = 22 + width name + name + width image := by
  have hempty : width 0 = 1 := rfl
  have htwo : width 2 = 1 := rfl
  simp [namedAndImage, overhead, length, Content.overhead, utf8ByteSize_replicate, hempty, htwo]
  omega

/-- An image of ten mebibytes passes the default limit, and the name beside it is not counted. -/
theorem checkSize_frameTooLarge_namedAndImage :
    (namedAndImage 6291425 10485760).checkSize ClipboardConfig.default.maxSize = .ok () ∧
      frame (namedAndImage 6291425 10485760).data = .error (.frameTooLarge 16777217 16777216) ∧
      ¬ ∀ (limit : Nat) (tx : Transaction), limit ≤ ClipboardConfig.default.maxSize →
        tx.checkSize limit = .ok () → ∃ octets, frame tx.data = .ok octets := by
  have hsize : (namedAndImage 6291425 10485760).checkSize ClipboardConfig.default.maxSize =
      .ok () :=
    checkSize_of_le (size_namedAndImage _ _).le
  have hlength : (Codec.put (namedAndImage 6291425 10485760).data).length = 16777217 := by
    rw [length_put_data, size_namedAndImage, overhead_namedAndImage]
    decide
  have hframe : frame (namedAndImage 6291425 10485760).data =
      .error (.frameTooLarge 16777217 16777216) := by
    rw [frame_of_lt (by rw [hlength]; decide), hlength, maxPayload]
  refine ⟨hsize, hframe, fun hall => ?_⟩
  obtain ⟨octets, hoctets⟩ := hall _ _ le_rfl hsize
  cases hframe.symm.trans hoctets

/-- The same image with a short name is framed. -/
theorem frame_of_checkSize_shortName :
    ClipboardConfig.default.maxSize ≤ ClipboardConfig.default.maxSize ∧
      (namedAndImage 5 10485760).checkSize ClipboardConfig.default.maxSize = .ok () ∧
      11 * (namedAndImage 5 10485760).length + (namedAndImage 5 10485760).nameSize ≤ 6200000 ∧
      frame (namedAndImage 5 10485760).data =
        .ok (framed (Codec.put (namedAndImage 5 10485760).data)) := by
  have hsize : (namedAndImage 5 10485760).checkSize ClipboardConfig.default.maxSize = .ok () :=
    checkSize_of_le (size_namedAndImage _ _).le
  have hfew : 11 * (namedAndImage 5 10485760).length + (namedAndImage 5 10485760).nameSize ≤
      6200000 := by
    rw [nameSize_namedAndImage]
    decide
  exact ⟨le_rfl, hsize, hfew, ((frame_of_checkSize le_rfl hsize).2 hfew).1⟩

end Transaction

end ClipExchange
