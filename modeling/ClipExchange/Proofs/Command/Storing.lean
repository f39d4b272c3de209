import Mathlib
import ClipExchange.Command.Arguments
import ClipExchange.Proofs.Clipboard.DesktopReads
import ClipExchange.Proofs.Format.Names
import ClipExchange.Proofs.Stream.Delivery

/-!
# Commands that store a transaction

Two commands store a transaction in a file. They make the transaction first, from items or from
what is on the desktop, and nothing is touched as long as this may fail. Then the file is made, and
only then it turns out whether the transaction fits in a frame. If it does not, the file is left
empty, whatever was in it before.

## Main definitions

* `Command.storing?`: where a command stores what, if it stores anything.
* `Command.Unmade`: why there is no transaction to store.
* `Command.TooLong`: the transaction that is to be stored does not fit in a frame.

## Main results

* `Files.entry?_put_self`, `Files.entry?_put_of_ne`, `Files.eq_put_of_create`: what paths name after
  a file was made.
* `Command.unmade_iff`: the causes are those for which no transaction is made.
* `Command.output_after_failure`: when a failure leaves the output as it was.
-/

namespace ClipExchange

open Wire

/-! ### Files -/

namespace Files

variable {files files' : Files} {path other : String} {data : Bytes}

theorem entry?_put_self (files : Files) (path : String) (data : Bytes) :
    Files.entry? (files.put path data) path = some (.file data) := by
  simp [put, Files.entry?]

theorem entry?_put_of_ne (files : Files) (data : Bytes) (h : other ≠ path) :
    Files.entry? (files.put path data) other = files.entry? other := by
  have hne : (other == path) = false := beq_false_of_ne h
  simp only [put, Files.entry?, List.lookup_cons, hne]
  induction files.entries with
  | nil => rfl
  | cons entry entries ih =>
    by_cases hpath : entry.1 = path
    · rw [List.filter_cons_of_neg (by simpa using hpath), ih, List.lookup_cons, hpath, hne]
    · rw [List.filter_cons_of_pos (by simpa using hpath), List.lookup_cons, List.lookup_cons, ih]

/-- A file that was made is empty. -/
theorem eq_put_of_create (h : files.create path = .ok files') : files' = files.put path [] := by
  rw [create] at h
  split at h
  · exact (Except.ok.inj h).symm
  · cases h
  · split_ifs at h
    exact (Except.ok.inj h).symm

end Files

/-! ### Items in order -/

section MapM

variable {α β ε : Type} {f : α → Except ε β}

/-- A result for each item in order, or the failure of some item. -/
theorem mapM_eq_ok_iff {items : List α} {results : List β} : items.mapM f = .ok results ↔
    List.Forall₂ (fun item result => f item = .ok result) items results := by
  induction items generalizing results with
  | nil => cases results <;> simp [pure, Except.pure]
  | cons item items ih =>
    simp only [List.mapM_cons, List.forall₂_cons_left_iff, ← ih]
    cases hitem : f item with
    | error e => simp [bind, Except.bind]
    | ok result =>
      cases items.mapM f with
      | error e => simp [bind, Except.bind]
      | ok others => simp [bind, Except.bind, pure, Except.pure, eq_comm]

theorem exists_mapM_eq_error_iff {items : List α} :
    (∃ e, items.mapM f = .error e) ↔ ∃ item ∈ items, ∃ e, f item = .error e := by
  induction items with
  | nil => simp [pure, Except.pure]
  | cons item items ih =>
    rw [List.mapM_cons, List.exists_mem_cons_iff, ← ih]
    cases hitem : f item with
    | error e => simp [bind, Except.bind]
    | ok result =>
      cases items.mapM f <;> simp [bind, Except.bind, pure, Except.pure]

end MapM

namespace Command

variable {config : Config} {command : Command} {around : Surroundings} {path : String}
  {made : Except Failure Transaction} {tx : Transaction} {files files' : Files}

/-- The path under which a command stores a transaction, with the transaction or the reason why it
was not made. -/
def storing? (config : Config) (around : Surroundings) :
    Command → Option (String × Except Failure Transaction)
  | pack output items => some (output, packed config around.files around.ids.draw.1 items)
  | copy output => some (output, copied config around.desktop around.ids)
  | inspect _ | select _ _ | paste _ => none

theorem exists_storing (config : Config) (around : Surroundings)
    (h : command.writtenPath? = some path) : ∃ made,
      command.storing? config around = some (path, made) := by
  cases command <;> cases h <;> exact ⟨_, rfl⟩

/-- Such a command does nothing but store. -/
theorem run_of_storing (h : command.storing? config around = some (path, made)) :
    command.run config around =
      ((store path made around.files).1,
        { around with files := (store path made around.files).2, ids := around.ids.draw.2 }) := by
  cases command <;> cases h <;> rfl

/-! ### The transaction that is stored -/

/-- Why a command has no transaction to store. -/
inductive Unmade (config : Config) (around : Surroundings) : Command → Prop
  /-- An item is not of the right form, or its file cannot be read or does not hold what it is
  said to hold. -/
  | item {output item : String} {items : List String} {failure : Failure} (hitem : item ∈ items)
      (hfailure : Content.ofItem around.files item = .error failure) :
      Unmade config around (.pack output items)
  /-- The items are together larger than allowed. -/
  | itemsTooLarge {output : String} {items : List String} {contents : List Content}
      (hcontents : List.Forall₂ (fun item content => Content.ofItem around.files item = .ok content)
        items contents)
      (hsize : config.clipboard.maxSize < (contents.map Content.size).sum) :
      Unmade config around (.pack output items)
  /-- The configuration says that the clipboard is not shared. -/
  | disabled {output : String} (h : config.clipboard.enabled = false) :
      Unmade config around (.copy output)
  /-- The desktop cannot be read. -/
  | unread {output : String} {e : ClipboardError}
      (hcontents : SystemClipboard.contents around.desktop = .error e) :
      Unmade config around (.copy output)
  /-- What is on the desktop is larger than allowed. -/
  | copyTooLarge {output : String} {contents : List Content}
      (hcontents : SystemClipboard.contents around.desktop = .ok contents)
      (hsize : config.clipboard.maxSize < (contents.map Content.size).sum) :
      Unmade config around (.copy output)

/-- The transaction that a command is to store does not fit in a frame, and its file can be made. -/
def TooLong (config : Config) (around : Surroundings) (command : Command) : Prop :=
  ∃ path tx files, command.storing? config around = some (path, .ok tx) ∧
    around.files.create path = .ok files ∧ maxPayload < (Codec.put tx.data).length

section Packing

variable {id : TransactionId} {items : List String} {contents : List Content}

theorem packed_of_error {failure : Failure}
    (h : items.mapM (Content.ofItem files) = .error failure) :
    packed config files id items = .error failure := by
  rw [packed, h]
  rfl

theorem packed_of_lt (h : items.mapM (Content.ofItem files) = .ok contents)
    (hsize : config.clipboard.maxSize < (contents.map Content.size).sum) :
    packed config files id items = .error (.ofClipboard
      (.tooLarge (contents.map Content.size).sum config.clipboard.maxSize)) := by
  rw [packed, h]
  simp only [bind, Except.bind, Transaction.checkSize_ofContents_of_lt _ hsize]
  rfl

theorem packed_of_le (h : items.mapM (Content.ofItem files) = .ok contents)
    (hsize : (contents.map Content.size).sum ≤ config.clipboard.maxSize) :
    packed config files id items = .ok (.ofContents id contents) := by
  rw [packed, h]
  simp only [bind, Except.bind, Transaction.checkSize_ofContents_of_le _ hsize]
  rfl

/-- No transaction is made of items exactly if one of them fails or they are too large. -/
theorem unmade_pack_iff {output : String} : Unmade config around (.pack output items) ↔
    ∃ failure, packed config around.files id items = .error failure := by
  constructor
  · intro h
    cases h with
    | item hitem hfailure =>
      obtain ⟨failure, h⟩ := exists_mapM_eq_error_iff.2 ⟨_, hitem, _, hfailure⟩
      exact ⟨failure, packed_of_error h⟩
    | itemsTooLarge hcontents hsize => exact ⟨_, packed_of_lt (mapM_eq_ok_iff.2 hcontents) hsize⟩
  · rintro ⟨failure, h⟩
    cases hitems : items.mapM (Content.ofItem around.files) with
    | error failure =>
      obtain ⟨item, hitem, failure, hfailure⟩ := exists_mapM_eq_error_iff.1 ⟨failure, hitems⟩
      exact .item hitem hfailure
    | ok contents =>
      refine .itemsTooLarge (mapM_eq_ok_iff.1 hitems) (not_le.1 fun hsize => ?_)
      rw [packed_of_le hitems hsize] at h
      cases h

end Packing

section Copying

variable {desktop : Desktop} {ids : IdSource} {contents : List Content}

theorem copied_of_disabled (h : config.clipboard.enabled = false) :
    copied config desktop ids =
      .error (.plain "clipboard sharing is disabled in the configuration") := by
  rw [copied, ensureEnabled, h]
  rfl

theorem copied_of_enabled (h : config.clipboard.enabled = true) :
    copied config desktop ids =
      ((SystemClipboard.mk config.clipboard.maxSize).read desktop ids).1.mapError .ofClipboard := by
  rw [copied, ensureEnabled, if_pos h]
  simp only [bind, Except.bind]
  rcases (SystemClipboard.mk config.clipboard.maxSize).read desktop ids with ⟨_ | _, _⟩ <;> rfl

/-- No transaction is made of what is on the desktop exactly if it may not be read, cannot be read
or is too large. -/
theorem unmade_copy_iff {output : String} : Unmade config around (.copy output) ↔
    ∃ failure, copied config around.desktop around.ids = .error failure := by
  cases henabled : config.clipboard.enabled with
  | false => exact iff_of_true (.disabled henabled) ⟨_, copied_of_disabled henabled⟩
  | true =>
    rw [copied_of_enabled henabled]
    constructor
    · intro h
      cases h with
      | disabled h => cases henabled.symm.trans h
      | unread hcontents =>
        rw [SystemClipboard.read_of_error hcontents]
        exact ⟨_, rfl⟩
      | copyTooLarge hcontents hsize =>
        rw [SystemClipboard.read_of_lt hcontents hsize]
        exact ⟨_, rfl⟩
    · rintro ⟨failure, h⟩
      cases hcontents : SystemClipboard.contents around.desktop with
      | error e => exact .unread hcontents
      | ok contents =>
        refine .copyTooLarge hcontents (not_le.1 fun hsize => ?_)
        rw [SystemClipboard.read_of_le hcontents hsize] at h
        cases h

end Copying

/-- The causes are those for which no transaction is made. -/
theorem unmade_iff (h : command.storing? config around = some (path, made)) :
    Unmade config around command ↔ ∃ failure, made = .error failure := by
  cases command with
  | pack output items =>
    cases h
    exact unmade_pack_iff
  | copy output =>
    cases h
    exact unmade_copy_iff
  | inspect | select | paste => cases h

/-! ### The file that is written -/

theorem store_of_create_error {cause : StreamFailure} (hcreate : files.create path = .error cause) :
    store path (.ok tx) files = (.failed (.ofStream ("creating " ++ path) cause), files) := by
  simp only [store, writeTransaction, hcreate]

theorem store_of_le (hcreate : files.create path = .ok files')
    (h : (Codec.put tx.data).length ≤ maxPayload) :
    store path (.ok tx) files =
      (.silent, (files.put path []).put path (framed (Codec.put tx.data))) := by
  simp only [store, writeTransaction, hcreate, frame_of_le h, Files.eq_put_of_create hcreate]

theorem store_of_lt (hcreate : files.create path = .ok files')
    (h : maxPayload < (Codec.put tx.data).length) :
    store path (.ok tx) files =
      (.failed (.ofTransfer (.frameTooLarge (Codec.put tx.data).length maxPayload)),
        files.put path []) := by
  simp only [store, writeTransaction, hcreate, frame_of_lt h, Files.eq_put_of_create hcreate]

theorem tooLong_iff (h : command.storing? config around = some (path, made)) :
    TooLong config around command ↔ ∃ tx files, made = .ok tx ∧
      around.files.create path = .ok files ∧ maxPayload < (Codec.put tx.data).length := by
  constructor
  · rintro ⟨path', tx, files, hstoring, hcreate, hlong⟩
    obtain ⟨rfl, rfl⟩ := Prod.mk.inj (Option.some.inj (h.symm.trans hstoring))
    exact ⟨tx, files, rfl, hcreate, hlong⟩
  · rintro ⟨tx, files, rfl, hcreate, hlong⟩
    exact ⟨path, tx, files, h, hcreate, hlong⟩

/-- **A command that stores a transaction ends in one of four ways.** -/
theorem run_cases (config : Config) (around : Surroundings)
    (hpath : command.writtenPath? = some path) :
    let ended := command.run config around
    -- There is no transaction.
    (Unmade config around command ∧ ¬ TooLong config around command ∧
      ended.1.failure.isSome ∧ ended.2.files = around.files) ∨
    -- The file cannot be made.
    (¬ Unmade config around command ∧ ¬ TooLong config around command ∧
      ended.1.failure.isSome ∧ ended.2.files = around.files) ∨
    -- The file is made, and the frame is too long for it.
    (¬ Unmade config around command ∧ TooLong config around command ∧
      (∃ size, maxPayload < size ∧
        ended.1 = .failed (.ofTransfer (.frameTooLarge size maxPayload))) ∧
      ended.2.files = around.files.put path []) ∨
    -- The frame is in the file.
    (¬ Unmade config around command ∧ ¬ TooLong config around command ∧
      ended.1.failure = none ∧
      ∃ frame, ended.2.files = (around.files.put path []).put path frame) := by
  intro ended
  obtain ⟨made, hstoring⟩ := exists_storing config around hpath
  have hended : ended = _ := run_of_storing hstoring
  rw [unmade_iff hstoring, tooLong_iff hstoring, hended]
  cases made with
  | error failure => exact .inl ⟨⟨failure, rfl⟩, nofun, rfl, rfl⟩
  | ok tx =>
    refine .inr ?_
    cases hcreate : around.files.create path with
    | error cause =>
      rw [store_of_create_error hcreate]
      exact .inl ⟨nofun, nofun, rfl, rfl⟩
    | ok files =>
      refine .inr ?_
      by_cases hlong : maxPayload < (Codec.put tx.data).length
      · rw [store_of_lt hcreate hlong]
        exact .inl ⟨nofun, ⟨tx, files, rfl, rfl, hlong⟩, ⟨_, hlong, rfl⟩, rfl⟩
      · rw [store_of_le hcreate (not_lt.1 hlong)]
        refine .inr ⟨nofun, ?_, rfl, _, rfl⟩
        rintro ⟨tx, files, hmade, -, hlong'⟩
        cases hmade
        exact hlong hlong'

/-- **When a failure leaves the output as it was.** A command that stores a transaction fails
without touching any file if it has no transaction to store. If the transaction does not fit in a
frame it fails with an empty output. So the output of a command that fails is as it was exactly if
the transaction did fit in a frame, or was not made, or the output was an empty file before. Other
files are never touched. -/
theorem output_after_failure (config : Config) (command : Command) (around : Surroundings)
    (path : String) (hpath : command.writtenPath? = some path) :
    let ended := command.run config around
    (Unmade config around command → ended.1.failure.isSome ∧ ended.2.files = around.files) ∧
    (TooLong config around command →
      (∃ size, maxPayload < size ∧
        ended.1 = .failed (.ofTransfer (.frameTooLarge size maxPayload))) ∧
      ended.2.files.entry? path = some (.file [])) ∧
    (ended.1.failure.isSome →
      (ended.2.files.entry? path = around.files.entry? path ↔
        (TooLong config around command → around.files.entry? path = some (.file []))) ∧
      ∀ other, other ≠ path → ended.2.files.entry? other = around.files.entry? other) := by
  intro ended
  obtain ⟨hunmade, hfits, hfails, hfiles⟩ | ⟨hmade, hfits, hfails, hfiles⟩ |
      ⟨hmade, hlong, hfails, hfiles⟩ | ⟨hmade, hfits, hsucceeds, -⟩ :=
    run_cases config around hpath
  · refine ⟨fun _ => ⟨hfails, hfiles⟩, (absurd · hfits), fun _ => ?_⟩
    rw [hfiles]
    exact ⟨iff_of_true rfl (absurd · hfits), fun _ _ => rfl⟩
  · refine ⟨(absurd · hmade), (absurd · hfits), fun _ => ?_⟩
    rw [hfiles]
    exact ⟨iff_of_true rfl (absurd · hfits), fun _ _ => rfl⟩
  · have hempty : ended.2.files.entry? path = some (.file []) := by
      rw [hfiles, Files.entry?_put_self]
    refine ⟨(absurd · hmade), fun _ => ⟨hfails, hempty⟩, fun _ => ⟨?_, fun other hother => ?_⟩⟩
    · rw [hempty]
      exact ⟨fun h _ => h.symm, fun h => (h hlong).symm⟩
    · rw [hfiles, Files.entry?_put_of_ne _ _ hother]
  · refine ⟨(absurd · hmade), (absurd · hfits), fun hfails => ?_⟩
    rw [hsucceeds] at hfails
    cases hfails

/-- An output that is there already, and a file to be packed as an image. -/
def packingFiles (data : Bytes) : Files :=
  ⟨[("out.bin", .file [1, 2, 3]), ("big.png", .file data)]⟩

/-- An item that is not of the right form leaves the output, although the one before it is. -/
theorem output_after_failure_note :
    let around : Surroundings := ⟨packingFiles [], .empty, .counting 40⟩
    let packing := pack "out.bin" ["text=note", "note"]
    let ended := packing.run .default around
    packing.writtenPath? = some "out.bin" ∧ Unmade .default around packing ∧
      ended.1.failure.isSome ∧ ended.2.files = around.files := by
  intro around packing ended
  have hunmade : Unmade .default around packing := .item (.tail _ (.head _)) rfl
  obtain ⟨hrefused, -, -⟩ := output_after_failure .default packing around "out.bin" rfl
  obtain ⟨hfails, hfiles⟩ := hrefused hunmade
  exact ⟨rfl, hunmade, hfails, hfiles⟩

/-- An item that names the file is the image in it. -/
theorem ofItem_packingFiles (data : Bytes) :
    Content.ofItem (packingFiles data) "png=@big.png" = .ok (.png data) := by
  have hcut : Text.cutAt? '=' "png=@big.png" = some ("png", "@big.png") := by decide
  have hformat : Format.ofText "png" = .png := Format.ofText_of_mem_aliases (by decide)
  simp only [Content.ofItem, hcut, hformat]
  rfl

/-- Packing an image that is as long as the largest payload empties the output, since the frame
needs some more octets. -/
theorem run_pack_image (data : Bytes) (hdata : data.length = maxPayload) :
    let config : Config := { Config.default with clipboard := ⟨true, 20000000, []⟩ }
    let around : Surroundings := ⟨packingFiles data, .empty, .counting 40⟩
    let ended := (pack "out.bin" ["png=@big.png"]).run config around
    ended.1 = .failed (.ofTransfer (.frameTooLarge (maxPayload + 25) maxPayload)) ∧
      around.files.entry? "out.bin" = some (.file [1, 2, 3]) ∧
      ended.2.files.entry? "out.bin" = some (.file []) := by
  intro config around ended
  let tx := Transaction.ofContents around.ids.draw.1 [.png data]
  have hpacked : packed config around.files around.ids.draw.1 ["png=@big.png"] = .ok tx := by
    refine packed_of_le (mapM_eq_ok_iff.2 (.cons (ofItem_packingFiles data) .nil)) ?_
    rw [List.map_singleton, List.sum_singleton]
    exact hdata.trans_le (by decide)
  have hstoring : (pack "out.bin" ["png=@big.png"]).storing? config around =
      some ("out.bin", .ok tx) :=
    congrArg (fun made => some ("out.bin", made)) hpacked
  have hcreate : around.files.create "out.bin" = .ok (around.files.put "out.bin" []) := rfl
  have hlength : (Codec.put tx.data).length = maxPayload + 25 := by
    rw [← hdata]
    exact Session.length_payload_imageParcel around.ids.draw.1 (by rw [hdata]; decide)
      (by rw [hdata]; decide)
  have hended : ended = _ := run_of_storing hstoring
  rw [hended, store_of_lt hcreate (by omega), hlength]
  exact ⟨rfl, rfl, Files.entry?_put_self _ _ _⟩

/-- **An output that is emptied.** An image of sixteen mebibytes is packed under a limit that it is
within. It does not fit in a frame, and the octets that were in the output are gone. -/
theorem long_image_empties_output :
    let config : Config := { Config.default with clipboard := ⟨true, 20000000, []⟩ }
    let around : Surroundings :=
      ⟨packingFiles (List.replicate maxPayload 0), .empty, .counting 40⟩
    let ended := (pack "out.bin" ["png=@big.png"]).run config around
    ended.1 = .failed (.ofTransfer (.frameTooLarge (maxPayload + 25) maxPayload)) ∧
      around.files.entry? "out.bin" = some (.file [1, 2, 3]) ∧
      ended.2.files.entry? "out.bin" = some (.file []) :=
  run_pack_image (List.replicate maxPayload 0) List.length_replicate

end Command

end ClipExchange
