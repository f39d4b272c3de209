import Mathlib
import ClipExchange.Clipboard.System
import ClipExchange.Proofs.Clipboard.Writes

/-!
# Reads of a desktop

A read looks at the places of a desktop in a fixed order. What a place holds is taken over, and a
place that says that it has nothing is passed over, as is an image that cannot be written as a PNG
file. Any other refusal ends the read, also that of a place whose content cannot be converted, so
that such a place hides what the others hold.

## Main definitions

* `Slot.value?`, `Slot.refusal?`: what a place holds, or why it cannot be read.
* `Desktop.converted`: the representations on a desktop that can be had.
* `Desktop.refusals`: why places cannot be read, in the order in which they are looked at.
* `Desktop.FailsToConvert`: some place has a content that cannot be converted.

## Main results

* `Desktop.contents_of_refusals`, `Desktop.contents_of_no_refusals`: the first refusal, or all that
  can be had.
* `SystemClipboard.read_of_error`, `SystemClipboard.read_of_lt`, `SystemClipboard.read_of_le`: what
  becomes of it in a read.
* `SystemClipboard.read_converted_iff`: a read gives all that can be had exactly if no place fails
  to convert its content.
-/

namespace ClipExchange

/-! ### One place -/

namespace Slot

variable {α : Type} {slot : Slot α} {e : DesktopError}

/-- What a place holds. -/
def value? : Slot α → Option α
  | some (.ok value) => some value
  | _ => none

/-- Why a place cannot be read, unless it says that it has nothing. -/
def refusal? : Slot α → Option DesktopError
  | some (.error .contentNotAvailable) => none
  | some (.error e) => some e
  | _ => none

theorem get_of_refusal? (h : slot.refusal? = some e) : slot.get = .error e.toClipboardError := by
  rcases slot with - | e' | value
  · cases h
  · cases e' with
    | contentNotAvailable => cases h
    | notSupported | occupied | conversion | unknown => cases h; rfl
  · cases h

theorem get_of_refusal?_eq_none (h : slot.refusal? = none) : slot.get = .ok slot.value? := by
  rcases slot with - | e' | value
  · rfl
  · cases e' with
    | contentNotAvailable => rfl
    | notSupported | occupied | conversion | unknown => cases h
  · rfl

/-- The content of a place cannot be converted. -/
def FailsToConvert (slot : Slot α) : Prop :=
  slot = some (.error .conversion)

/-- A place holds something or nothing, or its content cannot be converted. -/
def FailsOnlyToConvert (slot : Slot α) : Prop :=
  ∀ e, slot = some (.error e) → e = .contentNotAvailable ∨ e = .conversion

theorem refusal?_of_failsToConvert (h : slot.FailsToConvert) :
    slot.refusal? = some .conversion := by
  rw [h]
  rfl

theorem FailsOnlyToConvert.refusal?_eq_none (h : slot.FailsOnlyToConvert)
    (hconverts : ¬ slot.FailsToConvert) : slot.refusal? = none := by
  rcases slot with - | e | value
  · rfl
  · rcases h e rfl with rfl | rfl
    · rfl
    · exact absurd rfl hconverts
  · rfl

theorem FailsOnlyToConvert.eq_conversion (h : slot.FailsOnlyToConvert)
    (hrefusal : slot.refusal? = some e) : e = .conversion := by
  by_cases hconverts : slot.FailsToConvert
  · rw [refusal?_of_failsToConvert hconverts] at hrefusal
    exact (Option.some.inj hrefusal).symm
  · rw [h.refusal?_eq_none hconverts] at hrefusal
    cases hrefusal

end Slot

/-! ### All places -/

namespace Desktop

variable {desktop : Desktop} {e : DesktopError}

/-- The representations on a desktop that can be had, most preferred first: what the places hold,
without an image that cannot be written as a PNG file. -/
def converted (desktop : Desktop) : List Content :=
  (desktop.html.value?.map Content.html).toList ++ (desktop.text.value?.map Content.text).toList ++
    ((desktop.image.value?.bind Png.encode?).map Content.png).toList

/-- Why places cannot be read, in the order in which they are looked at. -/
def refusals (desktop : Desktop) : List DesktopError :=
  desktop.html.refusal?.toList ++ desktop.text.refusal?.toList ++ desktop.image.refusal?.toList

/-- The first place that refuses ends the look at the others. -/
theorem contents_of_refusals (h : desktop.refusals.head? = some e) :
    desktop.contents = .error e.toClipboardError := by
  cases hhtml : desktop.html.refusal? with
  | some e' =>
    obtain rfl : e' = e := by simpa [refusals, hhtml] using h
    rw [contents, Slot.get_of_refusal? hhtml]
    rfl
  | none =>
    cases htext : desktop.text.refusal? with
    | some e' =>
      obtain rfl : e' = e := by simpa [refusals, hhtml, htext] using h
      rw [contents, Slot.get_of_refusal?_eq_none hhtml, Slot.get_of_refusal? htext]
      rfl
    | none =>
      have himage : desktop.image.refusal? = some e := by
        simpa [refusals, hhtml, htext] using h
      rw [contents, Slot.get_of_refusal?_eq_none hhtml, Slot.get_of_refusal?_eq_none htext,
        Slot.get_of_refusal? himage]
      rfl

/-- Where no place refuses, all that can be had is there. -/
theorem contents_of_no_refusals (h : desktop.refusals = []) :
    desktop.contents = .ok desktop.converted := by
  simp only [refusals, List.append_eq_nil_iff, Option.toList_eq_nil_iff] at h
  obtain ⟨⟨hhtml, htext⟩, himage⟩ := h
  rw [contents, Slot.get_of_refusal?_eq_none hhtml, Slot.get_of_refusal?_eq_none htext,
    Slot.get_of_refusal?_eq_none himage]
  rfl

/-- The content of some place cannot be converted. -/
def FailsToConvert (desktop : Desktop) : Prop :=
  desktop.html.FailsToConvert ∨ desktop.text.FailsToConvert ∨ desktop.image.FailsToConvert

/-- Every place holds something or nothing, or its content cannot be converted. -/
structure FailsOnlyToConvert (desktop : Desktop) : Prop where
  html : desktop.html.FailsOnlyToConvert
  text : desktop.text.FailsOnlyToConvert
  image : desktop.image.FailsOnlyToConvert

theorem FailsOnlyToConvert.refusals_eq_nil (h : desktop.FailsOnlyToConvert)
    (hconverts : ¬ desktop.FailsToConvert) : desktop.refusals = [] := by
  obtain ⟨hhtml, htext, himage⟩ : ¬ desktop.html.FailsToConvert ∧ ¬ desktop.text.FailsToConvert ∧
      ¬ desktop.image.FailsToConvert := by
    simpa only [FailsToConvert, not_or] using hconverts
  rw [refusals, h.html.refusal?_eq_none hhtml, h.text.refusal?_eq_none htext,
    h.image.refusal?_eq_none himage]
  rfl

theorem FailsOnlyToConvert.head?_refusals (h : desktop.FailsOnlyToConvert)
    (hfails : desktop.FailsToConvert) : desktop.refusals.head? = some .conversion := by
  have hsome : .conversion ∈ desktop.refusals := by
    simp only [refusals, List.mem_append, Option.mem_toList]
    rcases hfails with hfails | hfails | hfails
    · exact .inl (.inl (Slot.refusal?_of_failsToConvert hfails))
    · exact .inl (.inr (Slot.refusal?_of_failsToConvert hfails))
    · exact .inr (Slot.refusal?_of_failsToConvert hfails)
  have hall (e : DesktopError) (he : e ∈ desktop.refusals) : e = .conversion := by
    simp only [refusals, List.mem_append, Option.mem_toList] at he
    rcases he with (he | he) | he
    · exact h.html.eq_conversion he
    · exact h.text.eq_conversion he
    · exact h.image.eq_conversion he
  cases hrefusals : desktop.refusals with
  | nil => simp [hrefusals] at hsome
  | cons e others => rw [List.head?_cons, hall e (by simp [hrefusals])]

end Desktop

/-! ### Reading -/

namespace SystemClipboard

open Transaction

variable {clipboard : SystemClipboard} {desktop : Desktop} {ids : IdSource} {items : List Content}

theorem contents_of_openError_eq_none (h : desktop.openError = none) :
    contents desktop = desktop.contents := by
  simp only [contents, Desktop.open?, h]
  rfl

/-- What cannot be had makes no transaction. -/
theorem read_of_error {e : ClipboardError} (h : contents desktop = .error e) :
    clipboard.read desktop ids = (.error e, ids) := by
  simp only [read, h]

/-- What can be had is read in an open transaction with the next identifier. -/
theorem read_of_le (h : contents desktop = .ok items)
    (hsize : (items.map Content.size).sum ≤ clipboard.maxSize) :
    clipboard.read desktop ids = (.ok (.ofContents ids.draw.1 items), ids.draw.2) := by
  simp only [read, h, checkSize_ofContents_of_le _ hsize]
  rfl

/-- There is more on the desktop than may be read. -/
theorem read_of_lt (h : contents desktop = .ok items)
    (hsize : clipboard.maxSize < (items.map Content.size).sum) :
    clipboard.read desktop ids =
      (.error (.tooLarge (items.map Content.size).sum clipboard.maxSize), ids.draw.2) := by
  simp only [read, h, checkSize_ofContents_of_lt _ hsize]
  rfl

/-- **When a read gives all that can be had.** On a desktop that can be opened, every place of which
holds something or nothing or fails to convert its content, and with a limit that all that can be
had fits in, a read gives exactly this, in order, if and only if no place fails to convert its
content. If one does, the read fails, whatever the other places hold. -/
theorem read_converted_iff (clipboard : SystemClipboard) (desktop : Desktop) (ids : IdSource)
    (hopen : desktop.openError = none) (hplaces : desktop.FailsOnlyToConvert)
    (hsize : (desktop.converted.map Content.size).sum ≤ clipboard.maxSize) :
    (clipboard.read desktop ids = (.ok (.ofContents ids.draw.1 desktop.converted), ids.draw.2) ↔
      ¬ desktop.FailsToConvert) ∧
    (desktop.FailsToConvert →
      clipboard.read desktop ids = (.error (.desktop "conversion failure"), ids)) := by
  have hfails (h : desktop.FailsToConvert) :
      clipboard.read desktop ids = (.error (.desktop "conversion failure"), ids) := by
    refine read_of_error ?_
    rw [contents_of_openError_eq_none hopen,
      Desktop.contents_of_refusals (hplaces.head?_refusals h)]
    rfl
  refine ⟨⟨fun hread h => ?_, fun h => ?_⟩, hfails⟩
  · rw [hfails h] at hread
    cases congrArg Prod.fst hread
  · refine read_of_le ?_ hsize
    rw [contents_of_openError_eq_none hopen,
      Desktop.contents_of_no_refusals (hplaces.refusals_eq_nil h)]

/-- A desktop with a text, with an image that cannot be written, and without HTML. -/
def plainDesktop : Desktop :=
  { Desktop.empty with
    html := some (.error .contentNotAvailable)
    text := some (.ok "note")
    image := some (.ok ⟨0, 1, []⟩) }

/-- The text is read, and nothing else is there to be had. With HTML that cannot be converted in
place of what says that there is none, the read fails. -/
theorem read_converted_iff_plain :
    let ids := IdSource.counting 40
    let broken := { plainDesktop with html := some (.error .conversion) }
    (plainDesktop.openError = none ∧ plainDesktop.FailsOnlyToConvert ∧
      (plainDesktop.converted.map Content.size).sum ≤ 4 ∧ ¬ plainDesktop.FailsToConvert ∧
      read ⟨4⟩ plainDesktop ids = (.ok (.ofContents (.ofNat 40) [.text "note"]), ids.draw.2)) ∧
    (broken.openError = none ∧ broken.FailsOnlyToConvert ∧
      (broken.converted.map Content.size).sum ≤ 4 ∧ broken.FailsToConvert ∧
      read ⟨4⟩ broken ids = (.error (.desktop "conversion failure"), ids)) := by
  intro ids broken
  have hplain : plainDesktop.FailsOnlyToConvert :=
    ⟨fun e h => .inl (by cases h; rfl), nofun, nofun⟩
  have hbroken : broken.FailsOnlyToConvert := ⟨fun e h => .inr (by cases h; rfl), nofun, nofun⟩
  have hconverts : ¬ plainDesktop.FailsToConvert := by
    rintro (h | h | h) <;> cases h
  have hfails : broken.FailsToConvert := .inl rfl
  have hplainSize : (plainDesktop.converted.map Content.size).sum ≤ 4 := by decide
  have hbrokenSize : (broken.converted.map Content.size).sum ≤ 4 := by decide
  have hread := (read_converted_iff ⟨4⟩ plainDesktop ids rfl hplain hplainSize).1.2 hconverts
  have hfailure := (read_converted_iff ⟨4⟩ broken ids rfl hbroken hbrokenSize).2 hfails
  exact ⟨⟨rfl, hplain, hplainSize, hconverts, hread⟩, rfl, hbroken, hbrokenSize, hfails, hfailure⟩

/-- **A text that is hidden.** A desktop has HTML that cannot be converted and a text that can be
had. Reading it does not give the text. -/
theorem conversion_hides_text :
    let desktop : Desktop :=
      { Desktop.empty with html := some (.error .conversion), text := some (.ok "note") }
    let ids := IdSource.counting 40
    desktop.openError = none ∧ desktop.FailsOnlyToConvert ∧ desktop.converted = [.text "note"] ∧
      (desktop.converted.map Content.size).sum ≤ 4 ∧
      (read ⟨4⟩ desktop ids).1 = .error (.desktop "conversion failure") ∧
      (read ⟨4⟩ desktop ids).1 ≠ .ok (.ofContents ids.draw.1 desktop.converted) := by
  intro desktop ids
  have hplaces : desktop.FailsOnlyToConvert := ⟨fun e h => .inr (by cases h; rfl), nofun, nofun⟩
  exact ⟨rfl, hplaces, rfl, by decide, rfl, nofun⟩

end SystemClipboard

end ClipExchange
