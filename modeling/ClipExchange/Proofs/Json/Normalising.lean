import Mathlib
import ClipExchange.Proofs.Format.Names
import ClipExchange.Proofs.Json.RoundTrip

/-!
# The JSON form of a message normalises its formats

A format is written by its name and read from it as from any other text, so a name of its own that
has blanks at its ends, capital letters, or the look of one of the six formats is not read as it
was. Representations carry their names as strings, which are read back as they were. So a message
comes back with its formats read from their names and is the same in everything else; a second time
nothing more changes.

## Main definitions

* `Message.formats`: the formats that an offer or a request names.
* `Message.normalised`: the message with each of these formats read from its name.

## Main results

* `Json.reads_message`: a message is read back normalised.
* `Json.read_write_message`: which messages are read back as they were.
-/

namespace ClipExchange

namespace Message

variable {m : Message}

/-- The formats that an offer or a request names. -/
def formats : Message → List Format
  | offer _ formats _ | request _ formats => formats
  | data .. | empty _ => []

/-- The message with each format of an offer or a request read from its own name. -/
def normalised : Message → Message
  | offer id formats sizeHint =>
    offer id (formats.map fun format => Format.ofText format.name) sizeHint
  | request id formats => request id (formats.map fun format => Format.ofText format.name)
  | message => message

/-- A message is normalised already if every format in it is canonical. -/
theorem normalised_eq_iff : m.normalised = m ↔ ∀ format ∈ m.formats, format.Canonical := by
  have hmap (formats : List Format) :
      (formats.map fun format => Format.ofText format.name) = formats ↔
        ∀ format ∈ formats, format.Canonical := by
    conv_lhs => rw [← List.map_id formats, List.map_map, List.map_inj_left]
    exact forall₂_congr fun format _ => Format.ofText_name_eq_iff
  cases m with
  | offer id formats sizeHint => simp [normalised, Message.formats, hmap]
  | request id formats => simp [normalised, Message.formats, hmap]
  | data id contents => simp [normalised, formats]
  | empty id => simp [normalised, formats]

/-- A name of a known format in capitals and behind a blank, and a name that is canonical. -/
example : (Message.request (.ofNat 7) [.other " UTF8", .other "x-foo"]).normalised =
    .request (.ofNat 7) [.plainText, .other "x-foo"] := by
  decide +kernel

/-- Formats that are read from texts are canonical. -/
theorem canonical_of_mem_normalised : ∀ format ∈ m.normalised.formats, format.Canonical := by
  cases m with
  | offer id formats sizeHint => simp [normalised, Message.formats, Format.canonical_ofText]
  | request id formats => simp [normalised, Message.formats, Format.canonical_ofText]
  | data id contents => simp [normalised, formats]
  | empty id => simp [normalised, formats]

theorem normalised_normalised (m : Message) : m.normalised.normalised = m.normalised :=
  normalised_eq_iff.2 canonical_of_mem_normalised

end Message

namespace Json

open Reader

/-- A format is read from the name by which it is written. -/
theorem reads_formats (formats : List Format) :
    (Reader.list readFormat).Reads (writeList writeFormat formats)
      (formats.map fun format => Format.ofText format.name) :=
  reads_list fun format _ => (reads_text format.name).map Format.ofText

/-- **A message is read back normalised.** -/
theorem reads_message (m : Message) : readMessage.Reads (writeMessage m) m.normalised := by
  cases m with
  | offer id formats sizeHint =>
    have hsize := (reads_natural (Nat.le_of_lt_succ sizeHint.toNat_lt) le_rfl).map UInt64.ofNat
    rw [UInt64.ofNat_toNat] at hsize
    exact reads_carrying rfl (reads_record₃ (reads_identifier id) (reads_formats formats) hsize
      (by decide) (by decide) (by decide))
  | request id formats =>
    exact reads_carrying rfl
      (reads_record₂ (reads_identifier id) (reads_formats formats) (by decide))
  | data id contents =>
    exact reads_carrying rfl (reads_record₂ (reads_identifier id)
      (reads_list_self reads_content contents) (by decide))
  | empty id => exact reads_carrying rfl (reads_record₁ (reads_identifier id))

/-- **JSON normalises formats and nothing else.** A message is read back with each format of an
offer or a request read from its own name, and the rest as it was. So it is read back as it was
exactly if every format in it is canonical, and what was read back once is read back as it is. -/
theorem read_write_message (m : Message) :
    read Message (write m) = .ok m.normalised ∧
      (read Message (write m) = .ok m ↔ ∀ format ∈ m.formats, format.Canonical) ∧
      read Message (write m.normalised) = .ok m.normalised := by
  have hread (m : Message) : read Message (write m) = .ok m.normalised :=
    read_write_of_reads (reads_message m)
  refine ⟨hread m, ?_, ?_⟩
  · rw [hread, Except.ok.injEq, Message.normalised_eq_iff]
  · rw [hread, m.normalised_normalised]

end Json

end ClipExchange
