import Mathlib
import ClipExchange.Proofs.Clipboard.Writes
import ClipExchange.Proofs.Format.Names
import ClipExchange.Proofs.Transaction.Answers
import ClipExchange.Wire.Codec

/-!
# Asking for representations by their tags

A representation shows its tag as text, and a consumer asks for it by the format that this text is
read as. The tag of a representation is in lower case, and it is read as itself unless the name
that arrived with the representation has outer blanks or is a name of one of the six formats in
some letter case. Such a representation is never found under the tag that it shows.

Formats that are read from texts do not depend on the case of letters. Formats that arrive as they
are keep the case of their names, while the representations show theirs in lower case. So two lists
of formats find the same in every transaction exactly if they agree about the names in lower case.

## Main definitions

* `Content.WellNamed`: the representations that show a tag which is read as itself.
* `Format.SameTags`: two lists of formats agree about the tags in lower case.
* `MemoryClipboard.writeAs`: a write to a clipboard as if it supported other formats.

## Main results

* `Content.found_by_shown_tag_iff`: which representations are found by the tags that they show.
* `Format.letter_case_of_formats`: what the letter case of names makes a difference to.
-/

namespace ClipExchange

open Text

/-! ### Asking for one format -/

namespace Transaction

variable {tx : Transaction} {content : Content} {asked : Format}

/-- Selecting by one format finds something with the tag of a representation exactly if this is the
format that is asked for. -/
theorem exists_select_iff (hcontent : content ∈ tx.contents) :
    (∃ item, (tx.select [asked]).1 = some item ∧ item.format = content.format) ↔
      asked = content.format := by
  constructor
  · rintro ⟨item, hitem, hformat⟩
    obtain ⟨-, -, -, hasked, -⟩ := select_eq_some_iff.1 hitem
    rw [← hformat, List.mem_singleton.1 hasked]
  · rintro rfl
    cases hselect : (tx.select [content.format]).1 with
    | none => exact absurd (List.mem_singleton_self _) (select_eq_none_iff.1 hselect _ hcontent)
    | some item =>
      obtain ⟨-, -, -, hitem, -⟩ := select_eq_some_iff.1 hselect
      exact ⟨item, rfl, List.mem_singleton.1 hitem⟩

/-- The answer to a request for one format holds something with the tag of a representation exactly
if this is the format that is asked for. -/
theorem exists_respond_iff (hcontent : content ∈ tx.contents) :
    (∃ items, (tx.respond [asked]).1 = .data tx.id items ∧
        ∃ item ∈ items, item.format = content.format) ↔
      asked = content.format := by
  constructor
  · rintro ⟨items, hitems, item, hitem, hformat⟩
    obtain ⟨rfl, -⟩ := respond_eq_data_iff.1 hitems
    rw [← hformat, List.mem_singleton.1 (mem_wanted.1 hitem).2]
  · rintro rfl
    have hwanted : content ∈ tx.wanted [content.format] :=
      mem_wanted.2 ⟨hcontent, List.mem_singleton_self _⟩
    have hdata := respond_eq_data_iff.2 ⟨rfl, List.ne_nil_of_mem hwanted⟩
    exact ⟨_, hdata, content, hwanted, rfl⟩

end Transaction

/-! ### The tags that are shown -/

namespace Content

variable {content : Content}

/-- A name that a representation came with has no outer blanks, and in lower case it is none of the
names of the six formats. -/
def WellNamed : Content → Prop
  | other name _ => trim name = name ∧ Format.aliases.lookup (lowercase name) = none
  | _ => True

/-- The shown tag is read as the tag exactly if the representation is well named. -/
theorem ofText_name_format_iff :
    Format.ofText content.format.name = content.format ↔ content.WellNamed := by
  cases content with
  | other name data =>
    rw [format, Format.name, Format.ofText_eq_other_iff, trim_lowercase, lowercase_lowercase,
      lowercase_trim_eq_iff, WellNamed]
  | _ => exact iff_of_true (Format.ofText_name nofun) trivial

/-- **Which representations are found by the tags that they show.** Selecting and answering by the
format that the shown tag is read as finds something with that tag exactly if the representation is
well named. -/
theorem found_by_shown_tag_iff (content : Content) :
    let asked := Format.ofText content.format.name
    (asked = content.format ↔ content.WellNamed) ∧
      ∀ tx : Transaction, content ∈ tx.contents →
        ((∃ item, (tx.select [asked]).1 = some item ∧ item.format = content.format) ↔
          content.WellNamed) ∧
        ((∃ items, (tx.respond [asked]).1 = .data tx.id items ∧
            ∃ item ∈ items, item.format = content.format) ↔ content.WellNamed) := by
  intro asked
  refine ⟨ofText_name_format_iff, fun tx hcontent => ⟨?_, ?_⟩⟩
  · exact (Transaction.exists_select_iff hcontent).trans ofText_name_format_iff
  · exact (Transaction.exists_respond_iff hcontent).trans ofText_name_format_iff

/-- An opaque payload that arrived under a name with letters in both cases, behind a note. -/
def noteAndFoo : Transaction :=
  .ofContents (.ofNat 7) [.text "note", .other "Application/X-Foo" [0]]

theorem found_by_shown_tag_foo :
    let foo : Content := .other "Application/X-Foo" [0]
    let asked := Format.ofText foo.format.name
    foo ∈ noteAndFoo.contents ∧ foo.WellNamed ∧ asked = foo.format ∧
      (∃ item, (noteAndFoo.select [asked]).1 = some item ∧ item.format = foo.format) ∧
      ∃ items, (noteAndFoo.respond [asked]).1 = .data noteAndFoo.id items ∧
        ∃ item ∈ items, item.format = foo.format := by
  intro foo asked
  have hmem : foo ∈ noteAndFoo.contents := by decide
  have hlower : lowercase "Application/X-Foo" = "application/x-foo" :=
    lowercase_eq_iff.2 (by decide)
  have hwell : foo.WellNamed := ⟨trim_eq_iff.2 (by decide), by rw [hlower]; decide⟩
  obtain ⟨hasked, hfound⟩ := found_by_shown_tag_iff foo
  obtain ⟨hselect, hrespond⟩ := hfound noteAndFoo hmem
  exact ⟨hmem, hwell, hasked.2 hwell, hselect.2 hwell, hrespond.2 hwell⟩

/-- **Tags that are shown and not found.** Two opaque payloads arrive, one under a name that begins
with a blank, and one under the name `text`. The first tag is read without the blank, and the second
one as the format of a plain text, so neither payload is found by its own tag. -/
theorem shown_tags_not_found :
    let tx := Transaction.ofContents (.ofNat 7) [.other " x-foo" [0], .other "text" [1]]
    (Wire.decode [2, 16, 0, 0, 0, 0, 0, 0, 0, 0, 0, 0, 0, 0, 0, 0, 0, 7, 2, 6, 6, 32, 120, 45, 102,
        111, 111, 1, 0, 6, 4, 116, 101, 120, 116, 1, 1] : Except Wire.DecodeError Message) =
      .ok tx.data ∧
    ∀ content ∈ tx.contents,
      Format.ofText content.format.name ≠ content.format ∧
        (tx.select [Format.ofText content.format.name]).1 = none ∧
        (tx.respond [Format.ofText content.format.name]).1 = .empty tx.id := by
  intro tx
  have hblank : (Content.other " x-foo" [0]).format = .other " x-foo" :=
    congrArg Format.other (lowercase_eq_iff.2 (by decide))
  have htext : (Content.other "text" [1]).format = .other "text" :=
    congrArg Format.other (lowercase_eq_iff.2 (by decide))
  have hread : Format.ofText " x-foo" = .other "x-foo" := by
    have htrim : trim " x-foo" = "x-foo" := trim_eq_iff.2 (by decide)
    have hlower : lowercase "x-foo" = "x-foo" := lowercase_eq_iff.2 (by decide)
    exact Format.ofText_eq_other_iff.2 ⟨by rw [htrim, hlower], by decide⟩
  have hread' : Format.ofText "text" = .plainText := Format.ofText_of_mem_aliases (by decide)
  have hmissed {asked : Format} (h : asked ≠ .other " x-foo") (h' : asked ≠ .other "text") :
      ∀ item ∈ tx.contents, item.format ∉ [asked] := by
    simp [tx, Transaction.ofContents, hblank, htext, h.symm, h'.symm]
  refine ⟨rfl, fun content hcontent => ?_⟩
  have hcases : content = .other " x-foo" [0] ∨ content = .other "text" [1] := by
    simpa [tx, Transaction.ofContents] using hcontent
  rcases hcases with rfl | rfl
  · rw [hblank, Format.name, hread]
    exact ⟨by decide, Transaction.nothing_found (hmissed (by decide) (by decide))⟩
  · rw [htext, Format.name, hread']
    exact ⟨by decide, Transaction.nothing_found (hmissed (by decide) (by decide))⟩

end Content

/-! ### Formats in different letter case -/

namespace Content

/-- Some representation of no size shows a given tag in lower case. -/
theorem exists_format_eq {format : Format} (h : format.folded = format) :
    ∃ content : Content, content.format = format ∧ content.size = 0 := by
  cases format with
  | plainText => exact ⟨.text "", rfl, rfl⟩
  | html => exact ⟨.html "", rfl, rfl⟩
  | richText => exact ⟨.richText "", rfl, rfl⟩
  | png => exact ⟨.png [], rfl, rfl⟩
  | bitmap => exact ⟨.bitmap [], rfl, rfl⟩
  | fileList => exact ⟨.fileList [], rfl, rfl⟩
  | other name => exact ⟨.other name [], h, rfl⟩

/-- The tag of a representation is in lower case. -/
theorem folded_format (content : Content) : content.format.folded = content.format := by
  cases content with
  | other name data => rw [format, Format.folded, lowercase_lowercase]
  | _ => rfl

end Content

/-- A write to a clipboard as if it supported other formats. -/
def MemoryClipboard.writeAs (clipboard : MemoryClipboard) (supported : List Format)
    (tx : Transaction) : Except ClipboardError Unit × MemoryClipboard :=
  let written := { clipboard with supported := supported }.write tx
  (written.1, { written.2 with supported := clipboard.supported })

namespace Format

variable {formats others : List Format} {content : Content}

/-- Two lists of formats agree about the tags that representations can show. -/
def SameTags (formats others : List Format) : Prop :=
  ∀ format : Format, format.folded = format → (format ∈ formats ↔ format ∈ others)

theorem SameTags.contains_format (h : SameTags formats others) (content : Content) :
    formats.contains content.format = others.contains content.format := by
  rw [Bool.eq_iff_iff, List.contains_iff_mem, List.contains_iff_mem]
  exact h content.format content.folded_format

theorem SameTags.select_eq (h : SameTags formats others) (tx : Transaction) :
    tx.select formats = tx.select others := by
  simp only [Transaction.select, h.contains_format]

theorem SameTags.respond_eq (h : SameTags formats others) (tx : Transaction) :
    tx.respond formats = tx.respond others := by
  simp only [Transaction.respond, h.contains_format]

theorem SameTags.writeAs_eq (h : SameTags formats others) (clipboard : MemoryClipboard)
    (tx : Transaction) : clipboard.writeAs formats tx = clipboard.writeAs others tx := by
  simp only [MemoryClipboard.writeAs, MemoryClipboard.write,
    MemoryClipboard.firstSupported_eq_select, h.select_eq tx]
  split_ifs
  · rfl
  · cases tx.checkSize clipboard.maxSize with
    | error e => rfl
    | ok _ => cases (tx.select others).1 <;> rfl

/-! ### Telling lists of formats apart

A transaction with one representation tells whether the tag of this representation is in a list. -/

theorem mem_iff_select (id : TransactionId) : content.format ∈ formats ↔
    ((Transaction.ofContents id [content]).select formats).1 = some content := by
  simp [Transaction.select, Transaction.ofContents]

theorem mem_iff_respond (id : TransactionId) : content.format ∈ formats ↔
    ((Transaction.ofContents id [content]).respond formats).1 = .data id [content] := by
  refine Iff.trans ?_ Transaction.respond_eq_data_iff.symm
  by_cases h : content.format ∈ formats <;> simp [Transaction.wanted, Transaction.ofContents, h]

theorem mem_iff_writeAs (clipboard : MemoryClipboard) (id : TransactionId)
    (hsize : content.size = 0) : content.format ∈ formats ↔
      (clipboard.writeAs formats (.ofContents id [content])).1 = .ok () := by
  let tx := Transaction.ofContents id [content]
  let accepting : MemoryClipboard := { clipboard with supported := formats }
  have houtcome : (clipboard.writeAs formats tx).1 = (accepting.write tx).1 := rfl
  have hfits : tx.size ≤ accepting.maxSize := by
    rw [Transaction.size_ofContents, List.map_singleton, List.sum_singleton, hsize]
    exact Nat.zero_le _
  rw [houtcome]
  by_cases h : content.format ∈ formats
  · have hselect : (tx.select formats).1 = some content := (mem_iff_select id).1 h
    rw [MemoryClipboard.write_of_select_eq_some hfits hselect]
    exact iff_of_true h rfl
  · have hselect : (tx.select formats).1 = none :=
      Transaction.select_eq_none (List.forall_mem_singleton.2 h)
    rw [MemoryClipboard.write_of_select_eq_none (List.cons_ne_nil _ _) hfits hselect]
    exact iff_of_false h nofun

theorem sameTags_iff_select :
    SameTags formats others ↔ ∀ tx : Transaction, tx.select formats = tx.select others := by
  refine ⟨SameTags.select_eq, fun h format hformat => ?_⟩
  obtain ⟨content, rfl, -⟩ := Content.exists_format_eq hformat
  rw [mem_iff_select default, mem_iff_select default, h]

theorem sameTags_iff_respond :
    SameTags formats others ↔ ∀ tx : Transaction, tx.respond formats = tx.respond others := by
  refine ⟨SameTags.respond_eq, fun h format hformat => ?_⟩
  obtain ⟨content, rfl, -⟩ := Content.exists_format_eq hformat
  rw [mem_iff_respond default, mem_iff_respond default, h]

theorem sameTags_iff_writeAs :
    SameTags formats others ↔ ∀ (clipboard : MemoryClipboard) (tx : Transaction),
      clipboard.writeAs formats tx = clipboard.writeAs others tx := by
  refine ⟨SameTags.writeAs_eq, fun h format hformat => ?_⟩
  obtain ⟨content, rfl, hsize⟩ := Content.exists_format_eq hformat
  rw [mem_iff_writeAs (.make [] 0) default hsize, mem_iff_writeAs (.make [] 0) default hsize, h]

/-- Texts that differ in the case of letters are read as the same formats. -/
theorem map_ofText_eq {texts others : List String}
    (h : texts.map lowercase = others.map lowercase) : texts.map ofText = others.map ofText := by
  have hread : ofText ∘ lowercase = ofText := funext ofText_lowercase
  rw [← hread, ← List.map_map, h, List.map_map]

/-- **Letter case in the formats that are asked for.** Two lists of formats that are read from texts
are the same if the texts differ in the case of letters only. Two lists as they arrive find the same
in every transaction, for a consumer, in an answer or in a write, exactly if they agree about the
tags in lower case. -/
theorem letter_case_of_formats (formats others : List Format) :
    (∀ texts otherTexts : List String, formats = texts.map ofText →
      others = otherTexts.map ofText → texts.map lowercase = otherTexts.map lowercase →
      formats = others) ∧
    (SameTags formats others ↔ ∀ tx : Transaction, tx.select formats = tx.select others) ∧
    (SameTags formats others ↔ ∀ tx : Transaction, tx.respond formats = tx.respond others) ∧
    (SameTags formats others ↔ ∀ (clipboard : MemoryClipboard) (tx : Transaction),
      clipboard.writeAs formats tx = clipboard.writeAs others tx) := by
  refine ⟨?_, sameTags_iff_select, sameTags_iff_respond, sameTags_iff_writeAs⟩
  rintro texts otherTexts rfl rfl hcase
  exact map_ofText_eq hcase

/-- The two spellings of a name are read as one format, but as they are they find different things
in some transaction. -/
theorem letter_case_of_formats_foo :
    ["Application/X-Foo"].map lowercase = ["application/x-foo"].map lowercase ∧
      ["Application/X-Foo"].map ofText = ["application/x-foo"].map ofText ∧
      ¬ ∀ tx : Transaction,
        tx.respond [other "Application/X-Foo"] = tx.respond [other "application/x-foo"] := by
  have hlower : lowercase "Application/X-Foo" = lowercase "application/x-foo" :=
    lowercase_eq_iff.2 (by rw [toList_lowercase]; decide)
  have hcase : ["Application/X-Foo"].map lowercase = ["application/x-foo"].map lowercase := by
    rw [List.map_singleton, List.map_singleton, hlower]
  refine ⟨hcase, (letter_case_of_formats _ _).1 _ _ rfl rfl hcase, fun hsame => ?_⟩
  have hfolded : (other "application/x-foo").folded = other "application/x-foo" :=
    congrArg other (lowercase_eq_iff.2 (by decide))
  have htags : SameTags [other "Application/X-Foo"] [other "application/x-foo"] :=
    (letter_case_of_formats _ _).2.2.1.2 hsame
  have hmem := (htags (other "application/x-foo") hfolded).2 (List.mem_singleton_self _)
  exact absurd hmem (by decide)

/-- **A name that is missed for its letter case.** Two requests arrive that differ in the letter case
of a name. The representation of that name is in the answer to one of them, and the other one is
answered as if there were none. -/
theorem letter_case_missed :
    let lower := [other "application/x-foo"]
    let upper := [other "Application/X-Foo"]
    let tx := Transaction.ofContents (.ofNat 7) [.other "application/x-foo" [0]]
    (Wire.decode [1, 16, 0, 0, 0, 0, 0, 0, 0, 0, 0, 0, 0, 0, 0, 0, 0, 7, 1, 6, 17, 97, 112, 112, 108,
        105, 99, 97, 116, 105, 111, 110, 47, 120, 45, 102, 111, 111] :
      Except Wire.DecodeError Message) = .ok (.request tx.id lower) ∧
    (Wire.decode [1, 16, 0, 0, 0, 0, 0, 0, 0, 0, 0, 0, 0, 0, 0, 0, 0, 7, 1, 6, 17, 65, 112, 112, 108,
        105, 99, 97, 116, 105, 111, 110, 47, 88, 45, 70, 111, 111] :
      Except Wire.DecodeError Message) = .ok (.request tx.id upper) ∧
    upper.map folded = lower.map folded ∧
    (tx.respond lower).1 = tx.data ∧ (tx.respond upper).1 = .empty tx.id ∧
    (tx.select upper).1 = none ∧
    ((MemoryClipboard.make upper 8).write tx).1 = .error .formatUnavailable := by
  intro lower upper tx
  have hlower : lowercase "application/x-foo" = "application/x-foo" :=
    lowercase_eq_iff.2 (by decide)
  have hupper : lowercase "Application/X-Foo" = "application/x-foo" :=
    lowercase_eq_iff.2 (by decide)
  have hformat : (Content.other "application/x-foo" [0]).format = other "application/x-foo" :=
    congrArg other hlower
  have hasked : (Content.other "application/x-foo" [0]).format ∈ lower :=
    List.mem_singleton.2 hformat
  have hmissed : ∀ item ∈ tx.contents, item.format ∉ upper := by
    refine List.forall_mem_singleton.2 ?_
    rw [hformat]
    decide
  obtain ⟨hselect, hrespond⟩ := Transaction.nothing_found hmissed
  refine ⟨rfl, rfl, ?_, (mem_iff_respond tx.id).1 hasked, hrespond, hselect, ?_⟩
  · simp only [upper, lower, List.map_singleton, folded, hlower, hupper]
  · rw [MemoryClipboard.write_of_select_eq_none (List.cons_ne_nil _ _) (by decide) hselect]

end Format

end ClipExchange
