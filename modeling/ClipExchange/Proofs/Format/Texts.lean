import Mathlib
import ClipExchange.Proofs.Format.Payloads
import ClipExchange.Proofs.Text.Faults
import ClipExchange.Proofs.Wire.Prefixes

/-!
# Octets in a textual format

Octets in a textual format become a representation exactly if they are UTF-8, and the text of that
representation is written in these very octets. They cross a session behind the number of the format
and their own length, in whatever forms these two numbers are written. The decoder then takes the
octets as the text exactly if the same holds, gives the same representation, and else tells where
they stop being UTF-8.

## Main definitions

* `Format.number`: the number of a format on the wire.
* `Content.IsTextual`: the representations of texts in a format.

## Main results

* `Wire.getText_of_reads`: reading a text from its length and its octets.
* `Content.text_of_octets`: which octets are accepted as texts.
-/

namespace ClipExchange

open Wire Decoder

/-- The number of a format on the wire, which is also that of its representations. -/
def Format.number : Format → Nat
  | plainText => 0
  | html => 1
  | richText => 2
  | png => 3
  | bitmap => 4
  | fileList => 5
  | other _ => 6

namespace Wire

variable {data announced : Bytes}

/-- A text behind its length is the octets of that length, or is refused with their fault. -/
theorem getText_of_reads (hlength : (getInteger .u64).Reads announced data.length) (rest : Bytes) :
    getText (announced ++ (data ++ rest)) =
      match Utf8.decode data with
      | .ok s => .ok (s, rest)
      | .error fault => .error (.invalidText fault) := by
  have hoctets : getOctets.Reads (announced ++ data) data := hlength.bind (reads_octets data)
  rw [getText, ← List.append_assoc, bind_of_ok (hoctets rest)]
  cases Utf8.decode data <;> rfl

end Wire

namespace Content

variable {format : Format} {make : String → Content} {data tag announced : Bytes}

/-- A textual format, and the representation of a text in it. -/
inductive IsTextual : Format → (String → Content) → Prop
  | plainText : IsTextual .plainText text
  | html : IsTextual .html html
  | richText : IsTextual .richText richText

theorem exists_isTextual (h : format.isTextual = true) : ∃ make, IsTextual format make := by
  cases format with
  | plainText => exact ⟨_, .plainText⟩
  | html => exact ⟨_, .html⟩
  | richText => exact ⟨_, .richText⟩
  | png | bitmap | fileList | other => cases h

namespace IsTextual

theorem ofBytes?_eq (h : IsTextual format make) (data : Bytes) :
    ofBytes? format data = (Utf8.decode? data).map make := by
  cases h <;> rfl

/-- What the representation of a text says about it. -/
theorem facts (h : IsTextual format make) (s : String) : (make s).text? = some s ∧
    (make s).size = s.utf8ByteSize ∧ (make s).format = format := by
  cases h <;> exact ⟨rfl, rfl, rfl⟩

/-- Behind the number of its format, a text is read. -/
theorem getContent_eq (h : IsTextual format make) (htag : getVariant.Reads tag format.number)
    (input : Bytes) : getContent (tag ++ input) = (make <$> getText) input := by
  rw [getContent, bind_of_ok (htag input)]
  cases h <;> rfl

/-- The octets of texts, and no others, become a representation. -/
theorem ofBytes?_eq_some_iff (h : IsTextual format make) {content : Content} :
    ofBytes? format data = some content ↔ ∃ s, data = Utf8.encode s ∧ make s = content := by
  rw [h.ofBytes?_eq, Option.map_eq_some_iff]
  simp only [Utf8.decode?_eq_some_iff]

/-- The text is read from its octets, or refused with their fault. -/
theorem getContent_of_reads (h : IsTextual format make)
    (htag : getVariant.Reads tag format.number)
    (hlength : (getInteger .u64).Reads announced data.length) (rest : Bytes) :
    getContent (tag ++ (announced ++ (data ++ rest))) =
      match Utf8.decode data with
      | .ok s => .ok (make s, rest)
      | .error fault => .error (.invalidText fault) := by
  have htext := getText_of_reads hlength rest
  rw [h.getContent_eq htag, ← bind_pure_comp]
  cases hdecode : Utf8.decode data with
  | ok s =>
    rw [hdecode] at htext
    exact bind_of_ok htext
  | error fault =>
    rw [hdecode] at htext
    exact bind_of_error htext

/-- Decoding a representation reads it, and passes over what stands behind it. -/
theorem decode_of_reads (h : IsTextual format make) (htag : getVariant.Reads tag format.number)
    (hlength : (getInteger .u64).Reads announced data.length) (rest : Bytes) :
    (decode (tag ++ (announced ++ (data ++ rest))) : Except DecodeError Content) =
      match Utf8.decode data with
      | .ok s => .ok (make s)
      | .error fault => .error (.invalidText fault) := by
  have hget := congrArg (Except.map Prod.fst) (h.getContent_of_reads htag hlength rest)
  refine Eq.trans hget ?_
  cases Utf8.decode data <;> rfl

end IsTextual

/-- **Which octets are accepted as texts.** Octets become a representation in a textual format
exactly if they are UTF-8. Its text is written in these octets, its size is their count, and its
format is the one that was given. Behind any form of the number of the format and of their count,
exactly the same octets are accepted on the wire, and give the same representation. Otherwise they
are refused with the place where they stop being UTF-8. -/
theorem text_of_octets (format : Format) (data : Bytes) (htextual : format.isTextual = true) :
    ((∃ content, ofBytes? format data = some content) ↔ Utf8.IsText data) ∧
    (∀ content, ofBytes? format data = some content →
      content.text?.map Utf8.encode = some data ∧ content.size = data.length ∧
        content.format = format) ∧
    ∀ tag announced rest : Bytes, getVariant.Reads tag format.number →
      (getInteger .u64).Reads announced data.length →
      let input := tag ++ (announced ++ (data ++ rest))
      ((∃ content : Content, decode input = .ok content) ↔ Utf8.IsText data) ∧
      (∀ content, ofBytes? format data = some content →
        (Codec.get : Decoder Content) input = .ok (content, rest) ∧
          decode input = .ok content) ∧
      (¬ Utf8.IsText data → ∃ fault : Utf8.Fault, fault.Marks data ∧
        (Codec.get : Decoder Content) input = .error (.invalidText fault) ∧
          (decode input : Except DecodeError Content) = .error (.invalidText fault)) := by
  obtain ⟨make, hmake⟩ := exists_isTextual htextual
  refine ⟨?_, ?_, ?_⟩
  · simp only [hmake.ofBytes?_eq_some_iff, Utf8.isText_iff]
    exact ⟨fun ⟨_, s, hs, _⟩ => ⟨s, hs⟩, fun ⟨s, hs⟩ => ⟨make s, s, hs, rfl⟩⟩
  · intro content hcontent
    obtain ⟨s, rfl, rfl⟩ := hmake.ofBytes?_eq_some_iff.1 hcontent
    obtain ⟨htext, hsize, hformat⟩ := hmake.facts s
    rw [htext, hsize, Utf8.length_encode]
    exact ⟨rfl, rfl, hformat⟩
  intro tag announced rest htag hlength input
  have hget := hmake.getContent_of_reads htag hlength rest
  have hdecode := hmake.decode_of_reads htag hlength rest
  refine ⟨⟨?_, ?_⟩, ?_, ?_⟩
  · rintro ⟨content, hcontent⟩
    by_contra htext
    obtain ⟨fault, hfault, -⟩ := Utf8.exists_fault htext
    rw [hfault] at hdecode
    cases hdecode.symm.trans hcontent
  · intro htext
    obtain ⟨s, rfl⟩ := Utf8.isText_iff.1 htext
    rw [Utf8.decode_encode] at hdecode
    exact ⟨make s, hdecode⟩
  · intro content hcontent
    obtain ⟨s, rfl, rfl⟩ := hmake.ofBytes?_eq_some_iff.1 hcontent
    rw [Utf8.decode_encode] at hget hdecode
    exact ⟨hget, hdecode⟩
  · intro htext
    obtain ⟨fault, hfault, hmarks⟩ := Utf8.exists_fault htext
    rw [hfault] at hget hdecode
    exact ⟨fault, hmarks, hget, hdecode⟩

/-- Two octets are the text of a fragment, and are read behind a length that is written wider than
needed. An octet and two of the three octets of a character are refused behind the first one. -/
theorem text_of_octets_cutOff :
    let sound : Bytes := [195, 169]
    let cut : Bytes := [97, 226, 130]
    Format.html.isTextual = true ∧ getVariant.Reads [1] Format.html.number ∧
      (getInteger .u64).Reads [251, 2, 0] sound.length ∧ (getInteger .u64).Reads [3] cut.length ∧
      ofBytes? .html sound = some (.html "é") ∧
      (decode ([1] ++ ([251, 2, 0] ++ (sound ++ [7]))) : Except DecodeError Content) =
        .ok (.html "é") ∧
      ¬ Utf8.IsText cut ∧ Utf8.Fault.Marks ⟨1, none⟩ cut ∧
      (decode ([1] ++ ([3] ++ (cut ++ []))) : Except DecodeError Content) =
        .error (.invalidText ⟨1, none⟩) := by
  intro sound cut
  have htag : getVariant.Reads [1] Format.html.number :=
    reads_integer (n := 1) (by decide) (by decide)
  have hsound : (getInteger .u64).Reads [251, 2, 0] sound.length :=
    @reads_announced 251 .u64 2 (by decide) (by decide) (by decide)
  have hcut : (getInteger .u64).Reads [3] cut.length :=
    reads_integer (n := 3) (by decide) (by decide)
  have hmade : ofBytes? .html sound = some (.html "é") := rfl
  have hread := (text_of_octets .html sound rfl).2.2 [1] [251, 2, 0] [7] htag hsound
  obtain ⟨hnone, -, hwire⟩ := text_of_octets .html cut rfl
  have hrefused : ¬ Utf8.IsText cut := by
    rw [← hnone]
    rintro ⟨content, hcontent⟩
    cases hcontent
  obtain ⟨-, -, hfault⟩ := hwire [1] [3] [] htag hcut
  obtain ⟨fault, hmarks, -, hdecode⟩ := hfault hrefused
  obtain rfl : fault = ⟨1, none⟩ :=
    (DecodeError.invalidText.inj (Except.error.inj hdecode)).symm
  exact ⟨rfl, htag, hsound, hcut, hmade, (hread.2.1 _ hmade).2, hrefused, hmarks, hdecode⟩

end Content

end ClipExchange
