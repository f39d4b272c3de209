import Mathlib
import ClipExchange.Clipboard.System
import ClipExchange.Proofs.Clipboard.Writes

/-!
# Writes to a desktop

A desktop has places for HTML, for plain text and for an image, and a write fills them from the
first item of a transaction that belongs into one of them. HTML takes the first plain text behind
it along. No plain text stands before that HTML, since it would have been the first item itself, so
selecting a plain text from the whole transaction finds the same one.

A write ends in one of seven ways. Whatever is found out about the transaction comes before the
desktop is opened, and only the last way changes the desktop.

## Main definitions

* `Content.HasPlace`: the representations that a desktop has a place for.
* `Content.Fills`: what a representation, with those behind it, leaves in the places of a desktop.
* `Content.Puts`: what they select for a desktop.
* `Format.NamePlaces`: the lists of formats that name the places of a desktop.
* `Transaction.FirstPlaced`: the first item with a place, and the items behind it.
* `SystemClipboard.WriteEnds`: the ways in which a write ends.

## Main results

* `SystemClipboard.selection_of_none`, `SystemClipboard.selection_of_fault`,
  `SystemClipboard.selection_of_puts`: what a transaction puts on a desktop.
* `SystemClipboard.write_ends_iff`: a write ends in exactly one way.
* `SystemClipboard.write_outcome`: the same, with what does not happen.
-/

namespace ClipExchange

open Transaction

/-! ### Places on a desktop -/

namespace Content

variable {content : Content} {after : List Content}

/-- A desktop has places for HTML, for plain text and for an image. -/
def HasPlace : Content → Prop
  | html _ | text _ | png _ => True
  | richText _ | bitmap _ | fileList _ | other _ _ => False

instance : DecidablePred HasPlace
  | html _ | text _ | png _ => isTrue trivial
  | richText _ | bitmap _ | fileList _ | other _ _ => isFalse id

/-- The plain text that a representation is. -/
def plainText? : Content → Option String
  | text s => some s
  | _ => none

/-- What a representation, and those behind it in the transaction, leave in the places of a desktop:
HTML with the first plain text behind it, plain text alone, or the pixels of an image. The places of
anything else are empty, whatever they held before. -/
inductive Fills : Content → List Content → Desktop → Prop
  | html (html : String) (after : List Content) : Fills (.html html) after
      { openError := none, setError := none, html := some (.ok html),
        text := (after.findSome? plainText?).map .ok, image := none }
  | text (text : String) (after : List Content) : Fills (.text text) after
      { openError := none, setError := none, html := none, text := some (.ok text), image := none }
  | image {data : Bytes} {image : Image} (hdecode : Png.decode data = .ok image)
      (after : List Content) : Fills (.png data) after
      { openError := none, setError := none, html := none, text := none,
        image := some (.ok image) }

/-- What a representation, and those behind it in the transaction, select for a desktop. -/
inductive Puts : Content → List Content → Selection → Prop
  | html (html : String) (after : List Content) :
      Puts (.html html) after (.html html (after.findSome? plainText?))
  | text (text : String) (after : List Content) : Puts (.text text) after (.text text)
  | image {data : Bytes} {image : Image} (hdecode : Png.decode data = .ok image)
      (after : List Content) : Puts (.png data) after (.image image)

/-- What is selected fills the places of the desktop that holds it. -/
theorem Puts.fills {selected : Selection} (h : content.Puts after selected) :
    content.Fills after (.holding selected) := by
  cases h with
  | html html => exact .html html after
  | text text => exact .text text after
  | image hdecode => exact .image hdecode after

/-- Places are filled by what a selection puts there. -/
theorem Fills.exists_puts {desktop : Desktop} (h : content.Fills after desktop) :
    ∃ selected, content.Puts after selected ∧ desktop = .holding selected := by
  cases h with
  | html html => exact ⟨_, .html html after, rfl⟩
  | text text => exact ⟨_, .text text after, rfl⟩
  | image hdecode => exact ⟨_, .image hdecode after, rfl⟩

/-- What has a place is put there, unless it is no image although it is meant to be one. -/
theorem HasPlace.puts_or_fault (h : content.HasPlace) (after : List Content) :
    (∃ selection, content.Puts after selection) ∨
      ∃ data fault, content = .png data ∧ Png.decode data = .error fault := by
  cases content with
  | html html => exact .inl ⟨_, .html html after⟩
  | text text => exact .inl ⟨_, .text text after⟩
  | png data =>
    cases hdecode : Png.decode data with
    | ok image => exact .inl ⟨_, .image hdecode after⟩
    | error fault => exact .inr ⟨data, fault, rfl, hdecode⟩
  | richText | bitmap | fileList | other => exact h.elim

/-- Selecting a plain text from a list finds the first one. -/
theorem bind_find?_plainText (contents : List Content) :
    ((contents.find? fun content => [Format.plainText].contains content.format).bind text?) =
      contents.findSome? plainText? := by
  induction contents with
  | nil => rfl
  | cons content contents ih =>
    cases content with
    | text => rfl
    | html | richText | png | bitmap | fileList | other => exact ih

end Content

/-- Some formats are the tags of exactly those representations that a desktop has a place for. -/
def Format.NamePlaces (formats : List Format) : Prop :=
  ∀ content : Content, content.format ∈ formats ↔ content.HasPlace

theorem Desktop.namePlaces_supported : Format.NamePlaces Desktop.supported := by
  intro content
  cases content <;> simp [Content.format, Desktop.supported, Content.HasPlace]

namespace Transaction

variable {tx : Transaction} {item : Content} {after : List Content} {formats : List Format}

/-- An item is the first one of a transaction with a place on a desktop, and some items are
behind it. -/
def FirstPlaced (tx : Transaction) (item : Content) (after : List Content) : Prop :=
  ∃ before, tx.contents = before ++ item :: after ∧ item.HasPlace ∧
    ∀ other ∈ before, ¬ other.HasPlace

/-- Formats that name the places of a desktop prefer the first item with a place. -/
theorem prefers_iff_firstPlaced (hformats : Format.NamePlaces formats) :
    tx.Prefers formats item ↔ ∃ after, tx.FirstPlaced item after := by
  have hplace (content : Content) : content.format ∈ formats ↔ content.HasPlace :=
    hformats content
  simp only [Prefers, FirstPlaced, hplace]
  exact exists_comm

/-- By such formats the first item with a place is selected. -/
theorem FirstPlaced.select (h : tx.FirstPlaced item after) (hformats : Format.NamePlaces formats) :
    (tx.select formats).1 = some item :=
  select_eq_some_iff.2 ((prefers_iff_firstPlaced hformats).2 ⟨after, h⟩)

/-- By such formats nothing is selected where no item has a place. -/
theorem select_eq_none_of_no_place (hnone : ∀ item ∈ tx.contents, ¬ item.HasPlace)
    (hformats : Format.NamePlaces formats) : (tx.select formats).1 = none :=
  select_eq_none fun item hitem => (hformats item).not.2 (hnone item hitem)

theorem FirstPlaced.hasPlace (h : tx.FirstPlaced item after) : item.HasPlace := by
  obtain ⟨-, -, hplace, -⟩ := h
  exact hplace

theorem FirstPlaced.contents_ne_nil (h : tx.FirstPlaced item after) : tx.contents ≠ [] := by
  obtain ⟨before, hcontents, -⟩ := h
  simp [hcontents]

/-- Nothing in a transaction has a place, or there is a first item that has one. -/
theorem none_or_firstPlaced (tx : Transaction) :
    (∀ item ∈ tx.contents, ¬ item.HasPlace) ∨ ∃ item after, tx.FirstPlaced item after := by
  cases hselect : (tx.select Desktop.supported).1 with
  | none =>
    refine .inl fun item hitem => (Desktop.namePlaces_supported item).not.1 ?_
    exact select_eq_none_iff.1 hselect item hitem
  | some item =>
    have hprefers := select_eq_some_iff.1 hselect
    exact .inr ⟨item, (prefers_iff_firstPlaced Desktop.namePlaces_supported).1 hprefers⟩

/-- The plain text that is selected along with HTML is the first one behind it, since none stands
before it. -/
theorem FirstPlaced.alternative {html : String} (h : tx.FirstPlaced (.html html) after) :
    (tx.select [.plainText]).1.bind Content.text? = after.findSome? Content.plainText? := by
  obtain ⟨before, hcontents, -, hbefore⟩ := h
  have hnone : before.findSome? Content.plainText? = none := by
    refine List.findSome?_eq_none_iff.2 fun other hother => ?_
    cases other with
    | text => exact absurd trivial (hbefore _ hother)
    | html | richText | png | bitmap | fileList | other => rfl
  calc (tx.select [.plainText]).1.bind Content.text?
      = tx.contents.findSome? Content.plainText? := Content.bind_find?_plainText _
    _ = after.findSome? Content.plainText? := by
      rw [hcontents, List.findSome?_append, hnone, Option.none_or]
      rfl

end Transaction

namespace SystemClipboard

variable {clipboard : SystemClipboard} {tx : Transaction} {desktop desktop' : Desktop}
  {item : Content} {after : List Content} {selected : Selection}
  {result : Except ClipboardError Unit}

/-! ### What a transaction puts on a desktop -/

theorem selection_of_none (h : ∀ item ∈ tx.contents, ¬ item.HasPlace) :
    selection tx = .error .formatUnavailable := by
  simp only [selection, select_eq_none_of_no_place h Desktop.namePlaces_supported]

theorem selection_of_fault {data : Bytes} {fault : Png.Fault}
    (hfirst : tx.FirstPlaced (.png data) after) (hfault : Png.decode data = .error fault) :
    selection tx = .error (.image fault) := by
  simp only [selection, hfirst.select Desktop.namePlaces_supported, hfault]

theorem selection_of_puts (hfirst : tx.FirstPlaced item after)
    (hputs : item.Puts after selected) : selection tx = .ok selected := by
  have hselect := hfirst.select Desktop.namePlaces_supported
  cases hputs with
  | html => simp only [selection, hselect, hfirst.alternative]
  | text => simp only [selection, hselect]
  | image hdecode => simp only [selection, hselect, hdecode]

/-! ### How a write ends -/

/-- The ways in which a write to a desktop ends, with the result and the desktop that is left. They
are given in the order in which they are found out: each one has what the earlier ones lack. -/
inductive WriteEnds (clipboard : SystemClipboard) (tx : Transaction) (desktop : Desktop) :
    Except ClipboardError Unit → Desktop → Prop
  /-- There is nothing to write, and nobody asks whether the desktop can be opened. -/
  | nothing (hcontents : tx.contents = []) : WriteEnds clipboard tx desktop (.ok ()) desktop
  /-- The payloads exceed the limit. -/
  | tooLarge (hcontents : tx.contents ≠ []) (hsize : clipboard.maxSize < tx.size) :
      WriteEnds clipboard tx desktop (.error (.tooLarge tx.size clipboard.maxSize)) desktop
  /-- No item has a place. -/
  | noPlace (hcontents : tx.contents ≠ []) (hsize : tx.size ≤ clipboard.maxSize)
      (hnone : ∀ item ∈ tx.contents, ¬ item.HasPlace) :
      WriteEnds clipboard tx desktop (.error .formatUnavailable) desktop
  /-- The first item with a place is meant to be an image and is none. -/
  | noImage {data : Bytes} {after : List Content} {fault : Png.Fault}
      (hsize : tx.size ≤ clipboard.maxSize) (hfirst : tx.FirstPlaced (.png data) after)
      (hfault : Png.decode data = .error fault) :
      WriteEnds clipboard tx desktop (.error (.image fault)) desktop
  /-- The desktop cannot be opened. -/
  | notOpened {item : Content} {after : List Content} {shown : Desktop} {e : DesktopError}
      (hsize : tx.size ≤ clipboard.maxSize) (hfirst : tx.FirstPlaced item after)
      (hfills : item.Fills after shown) (hopen : desktop.openError = some e) :
      WriteEnds clipboard tx desktop (.error e.toClipboardError) desktop
  /-- The desktop refuses what is put on it. -/
  | notSet {item : Content} {after : List Content} {shown : Desktop} {e : DesktopError}
      (hsize : tx.size ≤ clipboard.maxSize) (hfirst : tx.FirstPlaced item after)
      (hfills : item.Fills after shown) (hopen : desktop.openError = none)
      (hset : desktop.setError = some e) :
      WriteEnds clipboard tx desktop (.error e.toClipboardError) desktop
  /-- The first item with a place fills the places of the desktop, instead of all that was there. -/
  | put {item : Content} {after : List Content} {shown : Desktop}
      (hsize : tx.size ≤ clipboard.maxSize) (hfirst : tx.FirstPlaced item after)
      (hfills : item.Fills after shown) (hopen : desktop.openError = none)
      (hset : desktop.setError = none) :
      WriteEnds clipboard tx desktop (.ok ()) shown

/-- A write of something does what applying it does, and a failure leaves the desktop. -/
theorem write_of_ne_nil (hcontents : tx.contents ≠ []) :
    clipboard.write tx desktop =
      match clipboard.apply tx desktop with
      | .ok desktop' => (.ok (), desktop')
      | .error e => (.error e, desktop) :=
  if_neg (not_isEmpty_iff.2 hcontents)

/-- What is wrong with a transaction is found out before the desktop is opened. -/
theorem write_of_selection_error {e : ClipboardError} (hcontents : tx.contents ≠ [])
    (hsize : tx.size ≤ clipboard.maxSize) (h : selection tx = .error e) :
    clipboard.write tx desktop = (.error e, desktop) := by
  have happly : clipboard.apply tx desktop = .error e := by
    simp only [apply, checkSize_of_le hsize, h]
    rfl
  rw [write_of_ne_nil hcontents, happly]

/-- What the first item with a place puts on the desktop is left to the desktop. -/
theorem write_of_puts (hsize : tx.size ≤ clipboard.maxSize) (hfirst : tx.FirstPlaced item after)
    (hputs : item.Puts after selected) :
    clipboard.write tx desktop =
      match desktop.open?.bind fun () => desktop.set selected with
      | .ok desktop' => (.ok (), desktop')
      | .error e => (.error e, desktop) := by
  have happly : clipboard.apply tx desktop =
      desktop.open?.bind fun () => desktop.set selected := by
    simp only [apply, checkSize_of_le hsize, selection_of_puts hfirst hputs]
    rfl
  rw [write_of_ne_nil hfirst.contents_ne_nil, happly]

/-- Each way to end is what a write does. -/
theorem WriteEnds.write_eq (h : WriteEnds clipboard tx desktop result desktop') :
    clipboard.write tx desktop = (result, desktop') := by
  cases h with
  | nothing hcontents => rw [write, if_pos (by rw [isEmpty, hcontents]; rfl)]
  | tooLarge hcontents hsize =>
    have happly : clipboard.apply tx desktop =
        .error (.tooLarge tx.size clipboard.maxSize) := by
      simp only [apply, checkSize_of_lt hsize]
      rfl
    rw [write_of_ne_nil hcontents, happly]
  | noPlace hcontents hsize hnone =>
    exact write_of_selection_error hcontents hsize (selection_of_none hnone)
  | noImage hsize hfirst hfault =>
    exact write_of_selection_error hfirst.contents_ne_nil hsize (selection_of_fault hfirst hfault)
  | notOpened hsize hfirst hfills hopen =>
    obtain ⟨selected, hputs, -⟩ := hfills.exists_puts
    rw [write_of_puts hsize hfirst hputs]
    simp only [Desktop.open?, hopen, Except.bind]
  | notSet hsize hfirst hfills hopen hset =>
    obtain ⟨selected, hputs, -⟩ := hfills.exists_puts
    rw [write_of_puts hsize hfirst hputs]
    simp only [Desktop.open?, Desktop.set, hopen, hset, Except.bind]
  | put hsize hfirst hfills hopen hset =>
    obtain ⟨selected, hputs, rfl⟩ := hfills.exists_puts
    rw [write_of_puts hsize hfirst hputs]
    simp only [Desktop.open?, Desktop.set, hopen, hset, Except.bind]

/-- There is a way to end for every write. -/
theorem exists_writeEnds (clipboard : SystemClipboard) (tx : Transaction) (desktop : Desktop) :
    ∃ result desktop', WriteEnds clipboard tx desktop result desktop' := by
  by_cases hcontents : tx.contents = []
  · exact ⟨_, _, .nothing hcontents⟩
  by_cases hsize : clipboard.maxSize < tx.size
  · exact ⟨_, _, .tooLarge hcontents hsize⟩
  have hsize := not_lt.1 hsize
  obtain hnone | ⟨item, after, hfirst⟩ := tx.none_or_firstPlaced
  · exact ⟨_, _, .noPlace hcontents hsize hnone⟩
  obtain ⟨selected, hputs⟩ | ⟨data, fault, rfl, hfault⟩ := hfirst.hasPlace.puts_or_fault after
  · cases hopen : desktop.openError with
    | some e => exact ⟨_, _, .notOpened hsize hfirst hputs.fills hopen⟩
    | none =>
      cases hset : desktop.setError with
      | some e => exact ⟨_, _, .notSet hsize hfirst hputs.fills hopen hset⟩
      | none => exact ⟨_, _, .put hsize hfirst hputs.fills hopen hset⟩
  · exact ⟨_, _, .noImage hsize hfirst hfault⟩

/-- **A write ends in exactly one way.** -/
theorem write_ends_iff :
    clipboard.write tx desktop = (result, desktop') ↔
      WriteEnds clipboard tx desktop result desktop' := by
  refine ⟨fun h => ?_, WriteEnds.write_eq⟩
  obtain ⟨result', desktop'', hends⟩ := exists_writeEnds clipboard tx desktop
  obtain ⟨rfl, rfl⟩ := Prod.mk.inj (hends.write_eq.symm.trans h)
  exact hends

/-- Only a write that succeeds with something to write can change the desktop. -/
theorem WriteEnds.eq_ok_of_ne (h : WriteEnds clipboard tx desktop result desktop')
    (hne : desktop' ≠ desktop) : result = .ok () ∧ tx.contents ≠ [] := by
  cases h with
  | put _ hfirst => exact ⟨rfl, hfirst.contents_ne_nil⟩
  | nothing | tooLarge | noPlace | noImage | notOpened | notSet => exact absurd rfl hne

/-- **How a write to a desktop ends.** It ends in exactly one of the seven ways, on whatever
desktop. Only a write that succeeds with something to write changes the desktop. Something that is
selected for a desktop is always HTML, plain text or an image, so that a write finds no format
available only if nothing was selected. -/
theorem write_outcome (clipboard : SystemClipboard) (tx : Transaction) (desktop : Desktop) :
    (∀ result desktop', clipboard.write tx desktop = (result, desktop') ↔
      WriteEnds clipboard tx desktop result desktop') ∧
    ((clipboard.write tx desktop).2 ≠ desktop →
      (clipboard.write tx desktop).1 = .ok () ∧ tx.contents ≠ []) ∧
    (∀ item, (tx.select Desktop.supported).1 = some item →
      item.HasPlace ∧ selection tx ≠ .error .formatUnavailable) := by
  refine ⟨fun _ _ => write_ends_iff, fun hne => ?_, fun item hselect => ?_⟩
  · have hends : WriteEnds clipboard tx desktop _ _ := write_ends_iff.1 rfl
    exact hends.eq_ok_of_ne hne
  · obtain ⟨after, hfirst⟩ :=
      (prefers_iff_firstPlaced Desktop.namePlaces_supported).1 (select_eq_some_iff.1 hselect)
    refine ⟨hfirst.hasPlace, ?_⟩
    obtain ⟨selected, hputs⟩ | ⟨data, fault, rfl, hfault⟩ := hfirst.hasPlace.puts_or_fault after
    · rw [selection_of_puts hfirst hputs]
      nofun
    · rw [selection_of_fault hfirst hfault]
      nofun

/-- A page with its text and a later text, among payloads that go by the names of formats. -/
def pageTransaction : Transaction :=
  ⟨.ofNat 7, [.other "text/plain" [0], .html "<p>note</p>", .other "text/html" [1], .text "note",
    .text "later"], .finalized⟩

/-- The page takes the text behind it along, in the place of the text that was on the desktop. -/
theorem write_outcome_page :
    let before : Desktop :=
      { openError := none, setError := none, html := none, text := some (.ok "before"),
        image := none }
    let page : Desktop :=
      { openError := none, setError := none, html := some (.ok "<p>note</p>"),
        text := some (.ok "note"), image := none }
    (pageTransaction.select Desktop.supported).1 = some (.html "<p>note</p>") ∧
      (Content.html "<p>note</p>").HasPlace ∧
      selection pageTransaction ≠ .error .formatUnavailable ∧
      write ⟨22⟩ pageTransaction before = (.ok (), page) ∧
      page ≠ before ∧ pageTransaction.contents ≠ [] := by
  intro before page
  have hfirst : pageTransaction.FirstPlaced (.html "<p>note</p>")
      [.other "text/html" [1], .text "note", .text "later"] :=
    ⟨[.other "text/plain" [0]], rfl, trivial, by decide⟩
  have hne : page ≠ before := fun h => by cases congrArg Desktop.html h
  have hselect := hfirst.select Desktop.namePlaces_supported
  obtain ⟨hends, hchanged, hselected⟩ := write_outcome ⟨22⟩ pageTransaction before
  have hwrite : write ⟨22⟩ pageTransaction before = (.ok (), page) :=
    (hends _ _).2 (.put (by decide) hfirst (.html _ _) rfl rfl)
  rw [hwrite] at hchanged
  obtain ⟨hplace, havailable⟩ := hselected _ hselect
  exact ⟨hselect, hplace, havailable, hwrite, hne, (hchanged hne).2⟩

end SystemClipboard

end ClipExchange
