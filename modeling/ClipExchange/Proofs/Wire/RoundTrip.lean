import Mathlib
import ClipExchange.Proofs.Wire.Reading
import ClipExchange.Wire.Frame

/-!
# The round trip of the wire form

Five types cross a session: messages, representations, formats, versions and identifiers. A
value of any of them whose written form is shorter than `2 ^ 64` octets is read back from it,
whatever follows, and the reader takes exactly the written octets. A payload within the limit is
far shorter than that, so every frame that can be built carries its value.

## Main definitions

* `Wire.Kind`: the types that cross a session, with their values `Wire.Kind.Value`.

## Main results

* `Wire.reads_kind`: the written form of a value of any kind is read back.
* `Wire.frame_roundTrip`: a value either is over the limit or is read back from its frame.
-/

namespace ClipExchange

theorem TransactionId.ofOctets?_octets (id : TransactionId) : ofOctets? id.octets = some id := by
  rw [ofOctets?, dif_pos id.length_octets]

namespace Wire

open Decoder

/-! ### The types that cross a session -/

/-- The types that cross a session. -/
inductive Kind where
  | message
  | content
  | format
  | version
  | identifier
deriving DecidableEq, Repr

/-- The values of a type that crosses a session. -/
abbrev Kind.Value : Kind → Type
  | .message => Message
  | .content => Content
  | .format => Format
  | .version => Version
  | .identifier => TransactionId

instance : (kind : Kind) → Codec kind.Value
  | .message => inferInstanceAs (Codec Message)
  | .content => inferInstanceAs (Codec Content)
  | .format => inferInstanceAs (Codec Format)
  | .version => inferInstanceAs (Codec Version)
  | .identifier => inferInstanceAs (Codec TransactionId)

/-! ### Values without lists of values -/

/-- The number of a variant takes one octet and is read back. -/
theorem reads_variant {n : Nat} (hn : n < 256 ^ 4) : getVariant.Reads (putInteger n) n :=
  reads_integer (by decide) hn

theorem reads_identifier (id : TransactionId) : getIdentifier.Reads (Codec.put id) id := by
  have hid : (putOctets id.octets).length < 2 ^ 64 := by
    simp [putOctets, putInteger, id.length_octets]
  refine (reads_octetString hid).bind_nil ?_
  rw [TransactionId.ofOctets?_octets]
  exact reads_pure id

theorem reads_version (v : Version) : getVersion.Reads (Codec.put v) v := by
  have hmajor : (getInteger .u16).Reads (putInteger v.major.toNat) v.major.toNat :=
    reads_integer (by decide) v.major.toNat_lt
  have hminor : (getInteger .u16).Reads (putInteger v.minor.toNat) v.minor.toNat :=
    reads_integer (by decide) v.minor.toNat_lt
  refine hmajor.bind (hminor.bind_nil ?_)
  rw [UInt16.ofNat_toNat, UInt16.ofNat_toNat]
  exact reads_pure v

@[simp]
theorem putFormat_ne_nil (format : Format) : putFormat format ≠ [] := by
  cases format <;> simp [putFormat]

theorem reads_format {format : Format} (h : (putFormat format).length < 2 ^ 64) :
    getFormat.Reads (putFormat format) format := by
  cases format with
  | plainText | html | richText | png | bitmap | fileList =>
    exact (reads_variant (by decide)).bind_nil (reads_pure _)
  | other name =>
    rw [putFormat, List.length_append] at h
    exact (reads_variant (by decide)).bind ((reads_text (by omega)).map Format.other)

/-! ### Values with lists of values -/

@[simp]
theorem putContent_ne_nil (content : Content) : putContent content ≠ [] := by
  cases content <;> simp [putContent]

theorem reads_content {content : Content} (h : (putContent content).length < 2 ^ 64) :
    getContent.Reads (putContent content) content := by
  cases content with
  | text s =>
    rw [putContent, List.length_append] at h
    exact (reads_variant (by decide)).bind ((reads_text (by omega)).map Content.text)
  | html s =>
    rw [putContent, List.length_append] at h
    exact (reads_variant (by decide)).bind ((reads_text (by omega)).map Content.html)
  | richText s =>
    rw [putContent, List.length_append] at h
    exact (reads_variant (by decide)).bind ((reads_text (by omega)).map Content.richText)
  | png data =>
    rw [putContent, List.length_append] at h
    exact (reads_variant (by decide)).bind ((reads_octetString (by omega)).map Content.png)
  | bitmap data =>
    rw [putContent, List.length_append] at h
    exact (reads_variant (by decide)).bind ((reads_octetString (by omega)).map Content.bitmap)
  | fileList paths =>
    rw [putContent, List.length_append] at h
    have hpaths : (getList getText).Reads (putList putText paths) paths :=
      reads_list putText_ne_nil (by omega) fun _ _ => reads_text
    exact (reads_variant (by decide)).bind (hpaths.map Content.fileList)
  | other name data =>
    rw [putContent, List.append_assoc] at h ⊢
    rw [List.length_append, List.length_append] at h
    exact (reads_variant (by decide)).bind ((reads_text (by omega)).bind
      ((reads_octetString (by omega)).bind_nil (reads_pure _)))

theorem reads_formats {formats : List Format} (h : (putList putFormat formats).length < 2 ^ 64) :
    (getList getFormat).Reads (putList putFormat formats) formats :=
  reads_list putFormat_ne_nil h fun _ _ => reads_format

theorem reads_contents {contents : List Content}
    (h : (putList putContent contents).length < 2 ^ 64) :
    (getList getContent).Reads (putList putContent contents) contents :=
  reads_list putContent_ne_nil h fun _ _ => reads_content

theorem reads_message {message : Message} (h : (putMessage message).length < 2 ^ 64) :
    getMessage.Reads (putMessage message) message := by
  cases message with
  | offer id formats sizeHint =>
    rw [putMessage, List.length_append, List.length_append, List.length_append] at h
    have hsize : (getInteger .u64).Reads (putInteger sizeHint.toNat) sizeHint.toNat :=
      reads_integer (by decide) sizeHint.toNat_lt
    refine (reads_variant (by decide)).bind ((reads_identifier id).bind
      ((reads_formats (by omega)).bind (hsize.bind_nil ?_)))
    rw [UInt64.ofNat_toNat]
    exact reads_pure _
  | request id formats =>
    rw [putMessage, List.length_append, List.length_append] at h
    exact (reads_variant (by decide)).bind ((reads_identifier id).bind
      ((reads_formats (by omega)).bind_nil (reads_pure _)))
  | data id contents =>
    rw [putMessage, List.length_append, List.length_append] at h
    exact (reads_variant (by decide)).bind ((reads_identifier id).bind
      ((reads_contents (by omega)).bind_nil (reads_pure _)))
  | empty id => exact (reads_variant (by decide)).bind ((reads_identifier id).map Message.empty)

/-- The written form of a value of any kind is read back if its octets can be counted. -/
theorem reads_kind {kind : Kind} {value : kind.Value} (h : (Codec.put value).length < 2 ^ 64) :
    (Codec.get : Decoder kind.Value).Reads (Codec.put value) value := by
  cases kind with
  | message => exact reads_message h
  | content => exact reads_content h
  | format => exact reads_format h
  | version => exact reads_version value
  | identifier => exact reads_identifier value

/-! ### Frames -/

/-- The four octets of a header, most significant first. -/
theorem header_eq (length : Nat) :
    header length = [UInt8.ofNat (length / 2 ^ 24), UInt8.ofNat (length / 2 ^ 16),
      UInt8.ofNat (length / 2 ^ 8), UInt8.ofNat length] := by
  simp [header, headerLength, Bytes.bigEndian, Bytes.littleEndian, Nat.div_div_eq_div_mul]

/-- A payload within the limit can be counted in sixty-four bits. -/
theorem lt_of_le_maxPayload {n : Nat} (h : n ≤ maxPayload) : n < 2 ^ 64 :=
  h.trans_lt (by decide)

theorem decode_put_append {kind : Kind} {value : kind.Value} {rest : Bytes}
    (h : (Codec.put value).length ≤ maxPayload) :
    decode (Codec.put value ++ rest) = .ok value := by
  change ((Codec.get : Decoder kind.Value) (Codec.put value ++ rest)).map Prod.fst = _
  rw [reads_kind (lt_of_le_maxPayload h)]
  rfl

theorem decode_put {kind : Kind} {value : kind.Value} (h : (Codec.put value).length ≤ maxPayload) :
    decode (Codec.put value) = .ok value := by
  rw [← List.append_nil (Codec.put value)]
  exact decode_put_append h

/-- **Every value of the wire survives its frame.** A value whose payload is over the limit has
no frame and is refused for the length of its payload; this is the only refusal. The frame of
any other value is the length of the payload in four octets, most significant first, and the
payload. From the payload, whatever follows it, the value is read back, and reading takes
exactly the payload. -/
theorem frame_roundTrip (kind : Kind) (value : kind.Value) (rest : Bytes) :
    if maxPayload < (Codec.put value).length then
      frame value = .error (.frameTooLarge (Codec.put value).length maxPayload)
    else
      frame value = .ok ([UInt8.ofNat ((Codec.put value).length / 2 ^ 24),
        UInt8.ofNat ((Codec.put value).length / 2 ^ 16),
        UInt8.ofNat ((Codec.put value).length / 2 ^ 8),
        UInt8.ofNat (Codec.put value).length] ++ Codec.put value) ∧
      (Codec.get : Decoder kind.Value).run (Codec.put value ++ rest) = .ok (value, rest) ∧
      decode (Codec.put value ++ rest) = .ok value := by
  split_ifs with h
  · rw [frame, payload, if_neg (not_le.2 h)]
    rfl
  · rw [not_lt] at h
    refine ⟨?_, reads_kind (lt_of_le_maxPayload h) rest, decode_put_append h⟩
    rw [frame, payload, if_pos h, ← header_eq]
    rfl

end Wire

end ClipExchange
