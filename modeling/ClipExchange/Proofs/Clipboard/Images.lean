import Mathlib
import ClipExchange.Proofs.Clipboard.DesktopReads
import ClipExchange.Proofs.Png.Files

/-!
# Images on a desktop

A read takes the image of a desktop over as a PNG file behind everything else, or leaves it out. It
is left out if its dimensions cannot be written, or if its buffer is too short for them. From the
file the same dimensions and the pixels that they announce are read. Nobody refuses a buffer that is
too long, whose octets beyond these pixels are lost.

## Main definitions

* `Image.Fits`: the dimensions can be written, and the buffer is long enough for them.
* `Image.cut`: an image without the octets beyond its dimensions.

## Main results

* `SystemClipboard.read_image`: **which images are read, and how**.
* `SystemClipboard.read_cuts_image`: an image that is read without a part of its buffer.
-/

namespace ClipExchange

namespace Image

variable {image : Image}

/-- The dimensions are positive and fit in 32 bits, and the buffer holds the pixels that they
announce. -/
structure Fits (image : Image) : Prop where
  width : 0 < image.width ∧ image.width < 2 ^ 32
  height : 0 < image.height ∧ image.height < 2 ^ 32
  area : image.area ≤ image.rgba.length

/-- An image without the octets beyond its dimensions. -/
def cut (image : Image) : Image :=
  { image with rgba := image.rgba.take image.area }

theorem cut_eq_self_iff (harea : image.area ≤ image.rgba.length) :
    image.cut = image ↔ image.IsWhole := by
  constructor
  · intro h
    have hlength : (image.rgba.take image.area).length = image.rgba.length :=
      congrArg (fun image => image.rgba.length) h
    rw [List.length_take_of_le harea] at hlength
    exact hlength.symm
  · intro h
    rw [cut, List.take_of_length_le (Nat.le_of_eq h)]

theorem fits_iff : image.Fits ↔
    Png.isDimension image.width ∧ Png.isDimension image.height ∧
      image.area ≤ image.rgba.length := by
  rw [Png.isDimension_iff, Png.isDimension_iff]
  exact ⟨fun h => ⟨h.width, h.height, h.area⟩, fun ⟨hwidth, hheight, harea⟩ =>
    ⟨hwidth, hheight, harea⟩⟩

/-- An image that fits has a file, from which it is read without the octets that do not belong to
it. -/
theorem Fits.exists_file (h : image.Fits) :
    ∃ file, Png.encode? image = some file ∧ Png.decode file = .ok image.cut := by
  have hencode := Png.encode?_eq_some_iff.2 ⟨fits_iff.1 h, rfl⟩
  exact ⟨Png.encode image, hencode, Png.decode_encode hencode⟩

theorem encode?_of_not_fits (h : ¬ image.Fits) : Png.encode? image = none :=
  if_neg (fits_iff.not.1 h)

end Image

namespace Desktop

variable {desktop : Desktop} {image : Image}

/-- The HTML and the text on a desktop. -/
def words (desktop : Desktop) : List Content :=
  (desktop.html.value?.map Content.html).toList ++ (desktop.text.value?.map Content.text).toList

theorem png_not_mem_words (data : Bytes) : .png data ∉ desktop.words := by
  simp [words]

theorem converted_of_image (h : desktop.image = some (.ok image)) :
    desktop.converted = desktop.words ++ ((Png.encode? image).map Content.png).toList := by
  rw [converted, h]
  rfl

theorem eq_converted_of_contents {items : List Content} (h : desktop.contents = .ok items) :
    items = desktop.converted := by
  cases hrefusals : desktop.refusals with
  | nil =>
    rw [contents_of_no_refusals hrefusals] at h
    cases h
    rfl
  | cons e others =>
    rw [contents_of_refusals (congrArg List.head? hrefusals)] at h
    cases h

end Desktop

namespace SystemClipboard

variable {clipboard : SystemClipboard} {desktop : Desktop} {tx : Transaction} {ids ids' : IdSource}

theorem eq_converted_of_contents {items : List Content} (h : contents desktop = .ok items) :
    items = desktop.converted := by
  cases hopen : desktop.openError with
  | none =>
    rw [contents_of_openError_eq_none hopen] at h
    exact Desktop.eq_converted_of_contents h
  | some e =>
    simp only [contents, Desktop.open?, hopen] at h
    cases h

/-- A read that succeeds gives all that can be had. -/
theorem contents_of_read (h : clipboard.read desktop ids = (.ok tx, ids')) :
    tx.contents = desktop.converted := by
  cases hcontents : contents desktop with
  | error e =>
    rw [read_of_error hcontents] at h
    cases h
  | ok items =>
    by_cases hsize : (items.map Content.size).sum ≤ clipboard.maxSize
    · rw [read_of_le hcontents hsize] at h
      cases h
      exact eq_converted_of_contents hcontents
    · rw [read_of_lt hcontents (not_le.1 hsize)] at h
      cases h

/-- **Which images are read, and how.** On a desktop with an image whose places can all be read, a
read that succeeds gives the image as the only PNG file behind everything else, if its dimensions
can be written and its buffer is long enough for them; else it leaves the image out. The file is
read as the same dimensions and the pixels that they announce, which is the image itself exactly if
it is whole. -/
theorem read_image {image : Image} (himage : desktop.image = some (.ok image))
    (hread : clipboard.read desktop ids = (.ok tx, ids')) :
    (image.Fits → ∃ before file, tx.contents = before ++ [.png file] ∧
      (∀ data, .png data ∉ before) ∧ Png.decode file = .ok image.cut ∧
      (Png.decode file = .ok image ↔ image.IsWhole)) ∧
    (¬ image.Fits → ∀ data, .png data ∉ tx.contents) := by
  rw [contents_of_read hread, Desktop.converted_of_image himage]
  refine ⟨fun h => ?_, fun h data => ?_⟩
  · obtain ⟨file, hencode, hdecode⟩ := h.exists_file
    refine ⟨desktop.words, file, by rw [hencode]; rfl, Desktop.png_not_mem_words, hdecode, ?_⟩
    rw [hdecode, Except.ok.injEq, Image.cut_eq_self_iff h.area]
  · rw [Image.encode?_of_not_fits h, Option.map_none, Option.toList_none, List.append_nil]
    exact Desktop.png_not_mem_words data

/-- A desktop with a text and an image of one pixel. -/
def pixelDesktop : Desktop :=
  { Desktop.empty with text := some (.ok "note"), image := some (.ok ⟨1, 1, [1, 2, 3, 4]⟩) }

/-- The image of one pixel is read whole behind the text, and an image without a column is left
out. -/
theorem read_image_pixel :
    let pixel : Image := ⟨1, 1, [1, 2, 3, 4]⟩
    let ids := IdSource.counting 40
    let tx := Transaction.ofContents (.ofNat 40) [.text "note", .png (Png.encode pixel)]
    (pixelDesktop.image = some (.ok pixel) ∧ read ⟨1000⟩ pixelDesktop ids = (.ok tx, ids.draw.2) ∧
      pixel.Fits ∧ ∃ before file, tx.contents = before ++ [.png file] ∧
        Png.decode file = .ok pixel) ∧
    (plainDesktop.image = some (.ok ⟨0, 1, []⟩) ∧ ¬ (Image.mk 0 1 []).Fits ∧
      read ⟨4⟩ plainDesktop ids = (.ok (.ofContents (.ofNat 40) [.text "note"]), ids.draw.2) ∧
      ∀ data, .png data ∉ [Content.text "note"]) := by
  intro pixel ids tx
  have hfits : pixel.Fits := ⟨by decide, by decide, by decide⟩
  have hsize : (Content.png (Png.encode pixel)).size ≤ 996 := by decide +kernel
  have hread : read ⟨1000⟩ pixelDesktop ids = (.ok tx, ids.draw.2) :=
    read_of_le rfl (Nat.add_le_add_left hsize 4)
  obtain ⟨before, file, hcontents, -, -, hdecode⟩ := (read_image rfl hread).1 hfits
  have hvoid : ¬ (Image.mk 0 1 []).Fits := fun h => absurd h.width.1 (by decide)
  have hplain : read ⟨4⟩ plainDesktop ids =
      (.ok (.ofContents (.ofNat 40) [.text "note"]), ids.draw.2) := read_of_le rfl (by decide)
  exact ⟨⟨rfl, hread, hfits, before, file, hcontents, hdecode.2 rfl⟩, rfl, hvoid, hplain,
    (read_image rfl hplain).2 hvoid⟩

/-- **An image that is read without a part of its buffer.** The dimensions announce four octets and
the buffer holds eight. The image is read all the same, and its file holds the first four octets. -/
theorem read_cuts_image :
    let image : Image := ⟨1, 1, [1, 2, 3, 4, 5, 6, 7, 8]⟩
    let desktop : Desktop := { Desktop.empty with image := some (.ok image) }
    image.rgba.length ≠ 4 * image.width * image.height ∧
      (read ⟨1000⟩ desktop (.counting 40)).1 =
        .ok (.ofContents (.ofNat 40) [.png (Png.encode image)]) ∧
      Png.decode (Png.encode image) = .ok ⟨1, 1, [1, 2, 3, 4]⟩ ∧
      Png.decode (Png.encode image) ≠ .ok image := by
  intro image desktop
  have hsize : (Content.png (Png.encode image)).size ≤ 1000 := by decide +kernel
  have hdecode : Png.decode (Png.encode image) = .ok ⟨1, 1, [1, 2, 3, 4]⟩ :=
    Png.decode_encode (Png.encode?_eq_some_iff.2 ⟨by decide, rfl⟩)
  have hread : read ⟨1000⟩ desktop (.counting 40) =
      (.ok (.ofContents (.ofNat 40) [.png (Png.encode image)]), (IdSource.counting 40).draw.2) :=
    read_of_le rfl hsize
  refine ⟨by decide, congrArg Prod.fst hread, hdecode, ?_⟩
  rw [hdecode]
  decide

end SystemClipboard

end ClipExchange
