import Mathlib
import ClipExchange.Proofs.Clipboard.DesktopReads
import ClipExchange.Proofs.Clipboard.DesktopWrites
import ClipExchange.Proofs.Png.WholeImages

/-!
# Reading back what was written

After a write a desktop holds what was selected and nothing else, so the next read gives just that:
HTML with its text or without one, a text, or an image in a PNG file of its own. Words are taken
from the transaction as they are and so cannot exceed a limit that the transaction kept. The file of
an image is another one than in the transaction, and may be larger.

What is read puts the same selection on a desktop. So a transaction that was read back changes
nothing when it is written.

## Main definitions

* `Transaction.ReadBackAs`: what a transaction leaves to be read.

## Main results

* `Transaction.ReadBackAs.contents_holding`, `Transaction.ReadBackAs.write_ofContents`: it is read,
  and puts the same selection on the desktop.
* `SystemClipboard.read_of_write`: **what was written is read back, and changes nothing**.
-/

namespace ClipExchange

namespace Transaction

variable {tx : Transaction} {selected : Selection} {items after : List Content} {item : Content}

/-- What a transaction leaves to be read once a selection of its items is on a desktop. -/
inductive ReadBackAs (tx : Transaction) : Selection → List Content → Prop
  /-- HTML alone. -/
  | html {html : String} (hhtml : .html html ∈ tx.contents) :
      ReadBackAs tx (.html html none) [.html html]
  /-- HTML and then the text to fall back on, in the order of the transaction. -/
  | page {html alternative : String}
      (hpage : [.html html, .text alternative].Sublist tx.contents) :
      ReadBackAs tx (.html html (some alternative)) [.html html, .text alternative]
  /-- A text alone. -/
  | text {text : String} (htext : .text text ∈ tx.contents) :
      ReadBackAs tx (.text text) [.text text]
  /-- An image, in another file than before. -/
  | image {data file : Bytes} {image : Image} (hdata : .png data ∈ tx.contents)
      (hdecode : Png.decode data = .ok image) (hencode : Png.encode? image = some file)
      (hfile : Png.decode file = .ok image) : ReadBackAs tx (.image image) [.png file]

theorem text_mem_of_findSome? {alternative : String} {contents : List Content}
    (h : contents.findSome? Content.plainText? = some alternative) :
    .text alternative ∈ contents := by
  obtain ⟨other, hother, htext⟩ := List.exists_of_findSome?_eq_some h
  cases other with
  | text s =>
    cases htext
    exact hother
  | html | richText | png | bitmap | fileList | other => cases htext

/-- Every selection leaves something to be read. An image has a file, since it was read from one. -/
theorem FirstPlaced.exists_readBackAs (hfirst : tx.FirstPlaced item after)
    (hputs : item.Puts after selected) : ∃ items, tx.ReadBackAs selected items := by
  obtain ⟨before, hcontents, -, -⟩ := hfirst
  have hitem : item ∈ tx.contents := by simp [hcontents]
  cases hputs with
  | html html =>
    cases halternative : after.findSome? Content.plainText? with
    | none => exact ⟨_, .html hitem⟩
    | some alternative =>
      have htext := List.singleton_sublist.2 (text_mem_of_findSome? halternative)
      have hpage : [.html html, .text alternative].Sublist (before ++ .html html :: after) :=
        (htext.cons_cons _).trans (List.sublist_append_right _ _)
      exact ⟨_, .page (hcontents ▸ hpage)⟩
  | text text => exact ⟨_, .text hitem⟩
  | image hdecode =>
    obtain ⟨file, hencode, hfile⟩ := Png.exists_encode?_of_decode hdecode
    exact ⟨_, .image hitem hdecode hencode hfile⟩

namespace ReadBackAs

/-- It is all that is on the desktop. -/
theorem contents_holding (h : tx.ReadBackAs selected items) :
    SystemClipboard.contents (.holding selected) = .ok items := by
  cases h with
  | html | page | text => rfl
  | image hdata hdecode hencode hfile =>
    rw [SystemClipboard.contents_of_openError_eq_none rfl, Desktop.contents_of_no_refusals rfl]
    change Except.ok ((Png.encode? _).map Content.png).toList = _
    rw [hencode]
    rfl

/-- It puts the same selection on a desktop. -/
theorem exists_puts (h : tx.ReadBackAs selected items) (id : TransactionId) :
    ∃ item after, (ofContents id items).FirstPlaced item after ∧ item.Puts after selected := by
  cases h with
  | html => exact ⟨_, [], ⟨[], rfl, trivial, nofun⟩, .html _ []⟩
  | page => exact ⟨_, [.text _], ⟨[], rfl, trivial, nofun⟩, .html _ [.text _]⟩
  | text => exact ⟨_, [], ⟨[], rfl, trivial, nofun⟩, .text _ []⟩
  | image hdata hdecode hencode hfile =>
    exact ⟨_, [], ⟨[], rfl, trivial, nofun⟩, .image hfile []⟩

/-- Words that are read back are no more than the transaction had. -/
theorem size_le (h : tx.ReadBackAs selected items) (hwords : ∀ image, selected ≠ .image image) :
    (items.map Content.size).sum ≤ tx.size := by
  have hsublist : items.Sublist tx.contents := by
    cases h with
    | html hhtml => exact List.singleton_sublist.2 hhtml
    | page hpage => exact hpage
    | text htext => exact List.singleton_sublist.2 htext
    | image => exact absurd rfl (hwords _)
  rw [size_eq_sum]
  exact (hsublist.map Content.size).sum_le_sum (fun _ _ => Nat.zero_le _)

end ReadBackAs

end Transaction

namespace SystemClipboard

variable {clipboard : SystemClipboard} {tx : Transaction} {desktop after : Desktop}
  {selected : Selection} {items : List Content}

/-- What is read back is written to the same desktop again. -/
theorem write_of_readBackAs (h : tx.ReadBackAs selected items) (id : TransactionId)
    (hsize : (items.map Content.size).sum ≤ clipboard.maxSize) :
    clipboard.write (.ofContents id items) (.holding selected) = (.ok (), .holding selected) := by
  obtain ⟨item, behind, hfirst, hputs⟩ := h.exists_puts id
  rw [← Transaction.size_ofContents id] at hsize
  have hopen : (Desktop.holding selected).openError = none := by cases selected <;> rfl
  have hset : (Desktop.holding selected).setError = none := by cases selected <;> rfl
  exact (WriteEnds.put hsize hfirst hputs.fills hopen hset).write_eq

/-- A write that succeeds with something to write puts a selection on the desktop. -/
theorem exists_firstPlaced_of_write (hcontents : tx.contents ≠ [])
    (hwrite : clipboard.write tx desktop = (.ok (), after)) :
    ∃ item behind selected, tx.size ≤ clipboard.maxSize ∧ tx.FirstPlaced item behind ∧
      item.Puts behind selected ∧ after = .holding selected := by
  cases write_ends_iff.1 hwrite with
  | nothing hnil => exact absurd hnil hcontents
  | put hsize hfirst hfills =>
    obtain ⟨selected, hputs, hafter⟩ := hfills.exists_puts
    exact ⟨_, _, selected, hsize, hfirst, hputs, hafter⟩

/-- **What was written is read back, and changes nothing.** Let a write of something succeed on some
desktop. The next read gives HTML with its text or without one, or a text, each an item of the
transaction, or a PNG file that is read as the selected image. It fails only for the file of an
image that exceeds the limit. Writing what is read leaves the desktop as it is. -/
theorem read_of_write (hcontents : tx.contents ≠ [])
    (hwrite : clipboard.write tx desktop = (.ok (), after)) (ids : IdSource) :
    ∃ selected items, selection tx = .ok selected ∧ after = .holding selected ∧
      tx.ReadBackAs selected items ∧
      ((clipboard.read after ids = (.ok (.ofContents ids.draw.1 items), ids.draw.2) ∧
        clipboard.write (.ofContents ids.draw.1 items) after = (.ok (), after)) ∨
      ∃ image file, selected = .image image ∧ items = [.png file] ∧
        clipboard.maxSize < file.length ∧
        clipboard.read after ids =
          (.error (.tooLarge file.length clipboard.maxSize), ids.draw.2)) := by
  obtain ⟨item, behind, selected, hsize, hfirst, hputs, rfl⟩ :=
    exists_firstPlaced_of_write hcontents hwrite
  obtain ⟨items, hitems⟩ := hfirst.exists_readBackAs hputs
  refine ⟨selected, items, selection_of_puts hfirst hputs, rfl, hitems, ?_⟩
  by_cases hfits : (items.map Content.size).sum ≤ clipboard.maxSize
  · exact .inl ⟨read_of_le hitems.contents_holding hfits, write_of_readBackAs hitems _ hfits⟩
  · have hlarge := not_le.1 hfits
    have hread : clipboard.read (.holding selected) ids = _ :=
      read_of_lt hitems.contents_holding hlarge
    have hwords (h : ∀ image, selected ≠ .image image) : False :=
      hfits ((hitems.size_le h).trans hsize)
    refine .inr ?_
    cases hitems with
    | html | page | text => exact (hwords nofun).elim
    | image => exact ⟨_, _, rfl, rfl, hlarge, hread⟩

/-- A transaction with the image of one pixel. -/
def pixelTransaction : Transaction :=
  ⟨.ofNat 7, [.png (Png.encode ⟨1, 1, [1, 2, 3, 4]⟩)], .finalized⟩

/-- The page of a transaction is read back with the text behind it, and changes nothing. So does an
image. -/
theorem read_of_write_page :
    let before := Desktop.holding (.text "before")
    let page := Desktop.holding (.html "<p>note</p>" (some "note"))
    let pixel : Image := ⟨1, 1, [1, 2, 3, 4]⟩
    let picture := Desktop.holding (.image pixel)
    let ids := IdSource.counting 40
    let words := Transaction.ofContents (.ofNat 40) [.html "<p>note</p>", .text "note"]
    let file := Transaction.ofContents (.ofNat 40) [.png (Png.encode pixel)]
    (pageTransaction.contents ≠ [] ∧ write ⟨22⟩ pageTransaction before = (.ok (), page) ∧
      read ⟨22⟩ page ids = (.ok words, ids.draw.2) ∧ write ⟨22⟩ words page = (.ok (), page)) ∧
    (pixelTransaction.contents ≠ [] ∧ write ⟨1000⟩ pixelTransaction before = (.ok (), picture) ∧
      read ⟨1000⟩ picture ids = (.ok file, ids.draw.2) ∧
      write ⟨1000⟩ file picture = (.ok (), picture)) := by
  intro before page pixel picture ids words file
  constructor
  · have hfirst : pageTransaction.FirstPlaced (.html "<p>note</p>")
        [.other "text/html" [1], .text "note", .text "later"] :=
      ⟨[.other "text/plain" [0]], rfl, trivial, by decide⟩
    have hcontents : pageTransaction.contents ≠ [] := hfirst.contents_ne_nil
    have hwrite : write ⟨22⟩ pageTransaction before = (.ok (), page) :=
      (WriteEnds.put (by decide) hfirst (.html _ _) rfl rfl).write_eq
    obtain ⟨selected, items, hselection, -, hitems, hread⟩ := read_of_write hcontents hwrite ids
    have hselected : selection pageTransaction = .ok (.html "<p>note</p>" (some "note")) :=
      selection_of_puts hfirst (.html _ _)
    obtain rfl := Except.ok.inj (hselection.symm.trans hselected)
    cases hitems with
    | page =>
      obtain hback | ⟨_, _, himage, -⟩ := hread
      · exact ⟨hcontents, hwrite, hback⟩
      · cases himage
  · have hencode : Png.encode? pixel = some (Png.encode pixel) :=
      Png.encode?_eq_some_iff.2 ⟨by decide, rfl⟩
    have hfirst : pixelTransaction.FirstPlaced (.png (Png.encode pixel)) [] :=
      ⟨[], rfl, trivial, nofun⟩
    have hcontents : pixelTransaction.contents ≠ [] := hfirst.contents_ne_nil
    have hputs : (Content.png (Png.encode pixel)).Puts [] (.image pixel) :=
      .image (Png.decode_encode hencode) []
    have hlength : (Png.encode pixel).length ≤ 1000 := by decide +kernel
    have hsize : pixelTransaction.size ≤ 1000 := by decide +kernel
    have hwrite : write ⟨1000⟩ pixelTransaction before = (.ok (), picture) :=
      (WriteEnds.put hsize hfirst hputs.fills rfl rfl).write_eq
    obtain ⟨selected, items, hselection, -, hitems, hread⟩ := read_of_write hcontents hwrite ids
    obtain rfl := Except.ok.inj (hselection.symm.trans (selection_of_puts hfirst hputs))
    cases hitems with
    | image _ _ hencode' =>
      obtain rfl := Option.some.inj (hencode.symm.trans hencode')
      obtain hback | ⟨_, _, -, hfile, hlarge, -⟩ := hread
      · exact ⟨hcontents, hwrite, hback⟩
      · cases hfile
        exact absurd hlength (not_le.2 hlarge)

end SystemClipboard

end ClipExchange
