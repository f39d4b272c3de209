import Mathlib
import ClipExchange.Proofs.Clipboard.DesktopWrites

/-!
# A clipboard in memory in the place of a desktop

A clipboard in memory that supports what a desktop has places for, in whatever order and however
often the formats are named, ends a write as a desktop does that can be opened and set. What it
applies is what the desktop then shows. There is one difference: the clipboard in memory does not
look into a payload, so it applies an image that the desktop refuses because it is none.

## Main definitions

* `MemoryClipboard.StandsFor`: the formats that are supported are those with a place on a desktop.
* `SameEnd`: the common ways in which a write to both ends.

## Main results

* `writes_agree`: a write to both ends in the same way.
-/

namespace ClipExchange

open Transaction

namespace MemoryClipboard

variable {memory : MemoryClipboard}

/-- The formats that are supported are HTML, plain text and PNG images. -/
def StandsFor (memory : MemoryClipboard) : Prop :=
  ∀ format, format ∈ memory.supported ↔ format = .html ∨ format = .plainText ∨ format = .png

theorem StandsFor.namePlaces (h : memory.StandsFor) : Format.NamePlaces memory.supported := by
  intro content
  rw [h, ← Desktop.namePlaces_supported content]
  simp [Desktop.supported]

/-- The clipboard after an item of a transaction was applied. -/
def applying (memory : MemoryClipboard) (tx : Transaction) (item : Content) : MemoryClipboard :=
  { memory with current := [item], applied := memory.applied ++ [⟨tx.id, item⟩] }

end MemoryClipboard

/-- The ways in which a write of a transaction to a clipboard in memory and to a desktop ends, with
the result and the state that each of them has then. -/
inductive SameEnd (tx : Transaction) (memory : MemoryClipboard) (desktop : Desktop) :
    Except ClipboardError Unit × MemoryClipboard → Except ClipboardError Unit × Desktop → Prop
  /-- There is nothing to write, and both are as they were. -/
  | nothing (hcontents : tx.contents = []) :
      SameEnd tx memory desktop (.ok (), memory) (.ok (), desktop)
  /-- Both refuse the same size. -/
  | tooLarge (hcontents : tx.contents ≠ []) (hsize : memory.maxSize < tx.size) :
      SameEnd tx memory desktop (.error (.tooLarge tx.size memory.maxSize), memory)
        (.error (.tooLarge tx.size memory.maxSize), desktop)
  /-- Neither takes any of the formats. -/
  | noPlace (hcontents : tx.contents ≠ []) (hsize : tx.size ≤ memory.maxSize)
      (hselect : (tx.select memory.supported).1 = none) :
      SameEnd tx memory desktop (.error .formatUnavailable, memory)
        (.error .formatUnavailable, desktop)
  /-- The selected item is applied by one and shown by the other. -/
  | applied {item : Content} {after : List Content} {shown : Desktop}
      (hsize : tx.size ≤ memory.maxSize) (hselect : (tx.select memory.supported).1 = some item)
      (hfirst : tx.FirstPlaced item after) (hfills : item.Fills after shown) :
      SameEnd tx memory desktop (.ok (), memory.applying tx item) (.ok (), shown)
  /-- The selected item is applied by one, and the other finds out that it is no image. -/
  | noImage {data : Bytes} {fault : Png.Fault} (hsize : tx.size ≤ memory.maxSize)
      (hselect : (tx.select memory.supported).1 = some (.png data))
      (hfault : Png.decode data = .error fault) :
      SameEnd tx memory desktop (.ok (), memory.applying tx (.png data))
        (.error (.image fault), desktop)

/-- **A clipboard in memory ends a write as a desktop does.** The desktop can be opened and set,
both have the same limit, and the clipboard in memory supports what the desktop has places for. -/
theorem writes_agree (tx : Transaction) (memory : MemoryClipboard) (desktop : Desktop)
    (hformats : memory.StandsFor) (hopen : desktop.openError = none)
    (hset : desktop.setError = none) :
    SameEnd tx memory desktop (memory.write tx)
      (SystemClipboard.write ⟨memory.maxSize⟩ tx desktop) := by
  obtain ⟨result, desktop', hends⟩ := SystemClipboard.exists_writeEnds ⟨memory.maxSize⟩ tx desktop
  rw [hends.write_eq]
  cases hends with
  | nothing hcontents =>
    rw [MemoryClipboard.write_of_nil hcontents]
    exact .nothing hcontents
  | tooLarge hcontents hsize =>
    rw [MemoryClipboard.write_of_lt hcontents hsize]
    exact .tooLarge hcontents hsize
  | noPlace hcontents hsize hnone =>
    have hselect := select_eq_none_of_no_place hnone hformats.namePlaces
    rw [MemoryClipboard.write_of_select_eq_none hcontents hsize hselect]
    exact .noPlace hcontents hsize hselect
  | noImage hsize hfirst hfault =>
    have hselect := hfirst.select hformats.namePlaces
    rw [MemoryClipboard.write_of_select_eq_some hsize hselect]
    exact .noImage hsize hselect hfault
  | put hsize hfirst hfills =>
    have hselect := hfirst.select hformats.namePlaces
    rw [MemoryClipboard.write_of_select_eq_some hsize hselect]
    exact .applied hsize hselect hfirst hfills
  | notOpened _ _ _ hclosed => cases hopen.symm.trans hclosed
  | notSet _ _ _ _ hrefused => cases hset.symm.trans hrefused

/-- A clipboard in memory for what desktops have places for, with two of the formats named twice. -/
def desktopLike : MemoryClipboard :=
  .make [.png, .plainText, .html, .plainText, .png] 22

/-- It applies the page that the desktop shows. -/
theorem writes_agree_page :
    let before : Desktop :=
      { openError := none, setError := none, html := none, text := some (.ok "before"),
        image := none }
    let page : Desktop :=
      { openError := none, setError := none, html := some (.ok "<p>note</p>"),
        text := some (.ok "note"), image := none }
    desktopLike.StandsFor ∧ before.openError = none ∧ before.setError = none ∧
      SameEnd SystemClipboard.pageTransaction desktopLike before
        (.ok (), desktopLike.applying SystemClipboard.pageTransaction (.html "<p>note</p>"))
        (.ok (), page) := by
  intro before page
  have hformats : desktopLike.StandsFor := by
    intro format
    simp only [desktopLike, MemoryClipboard.make, List.mem_cons, List.not_mem_nil, or_false]
    tauto
  refine ⟨hformats, rfl, rfl, ?_⟩
  exact writes_agree SystemClipboard.pageTransaction desktopLike before hformats rfl rfl

end ClipExchange
