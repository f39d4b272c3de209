import Mathlib
import ClipExchange.Config
import ClipExchange.Proofs.Text.Canonical

/-!
# Settings are settled one by one

A setting is written in one form, and has a default that holds where it is not written. What is
written of one setting decides nothing about another: a document is refused just when one of its
settings is written in no form, and otherwise each has what is written or its default. The defaults
stand in two places, for a table that is missing and for a setting missing from a table, and they
are the same there.

## Main definitions

* `Setting.Form`: how a setting is written, what is meant by it, and its default.
* `Config.Written`: what a document says of the settings.
* `Config.Written.WellFormed`, `Config.Written.Settles`: when a document is accepted, and what it
  settles.

## Main results

* `Setting.Form.orDefault_eq_some_iff`: reading a setting that may be absent.
* `Config.ofEntries?_eq_some_iff`: the settings of a document, each for itself.
* `Config.load_settles`: the settings of a file.
-/

namespace ClipExchange

namespace Setting

/-- How a setting is written, what is meant by it, and what holds where it is not written. -/
structure Form (Given Value : Type) where
  node : Given → Toml.Node
  value : Given → Value
  default : Value

/-- The level of messages is written as a string. -/
def logLevel : Form String String :=
  ⟨.text, id, "info"⟩

/-- Whether there is an exchange is written as a truth value. -/
def enabled : Form Bool Bool :=
  ⟨.boolean, id, true⟩

/-- The greatest size is written as a number that is not negative, and is ten mebibytes. -/
def maxSize : Form Nat Nat :=
  ⟨fun n => .integer n, id, 10 * 1024 * 1024⟩

/-- What is accepted is written as a list of names. -/
def accept : Form (List String) (List Format) :=
  ⟨fun names => .list (names.map .text), List.map Format.ofText, [.plainText, .html]⟩

namespace Form

variable {Given Value : Type}

/-- A setting is absent, or written in its form. -/
def Fits (form : Form Given Value) (node? : Option Toml.Node) : Prop :=
  ∀ node, node? = some node → ∃ given, node = form.node given

/-- A setting has what is meant by what is written, or its default. -/
inductive Settles (form : Form Given Value) : Option Toml.Node → Value → Prop
  | absent : Settles form none form.default
  | written (given : Given) : Settles form (some (form.node given)) (form.value given)

/-- A setting is read from what is written in its form, and from nothing else. -/
def ReadBy (form : Form Given Value) (read : Toml.Node → Option Value) : Prop :=
  ∀ node value, read node = some value ↔ ∃ given, node = form.node given ∧ form.value given = value

variable {form : Form Given Value} {node? : Option Toml.Node} {value : Value}

theorem settles_none_iff : form.Settles none value ↔ value = form.default := by
  constructor
  · rintro ⟨⟩
    rfl
  · rintro rfl
    exact .absent

theorem settles_some_iff {node : Toml.Node} :
    form.Settles (some node) value ↔
      ∃ given, node = form.node given ∧ form.value given = value := by
  constructor
  · rintro ⟨⟩
    exact ⟨_, rfl, rfl⟩
  · rintro ⟨given, rfl, rfl⟩
    exact .written given

/-- A setting that is absent or in its form has a value, and no other has one. -/
theorem exists_settles_iff : (∃ value, form.Settles node? value) ↔ form.Fits node? := by
  cases node? with
  | none => exact iff_of_true ⟨_, .absent⟩ nofun
  | some node =>
    simp only [settles_some_iff, Fits, Option.some.injEq, forall_eq']
    exact ⟨fun ⟨_, given, hnode, _⟩ => ⟨given, hnode⟩, fun ⟨given, hnode⟩ => ⟨_, given, hnode, rfl⟩⟩

/-- Reading a setting that may be absent gives what the setting has. -/
theorem orDefault_eq_some_iff {read : Toml.Node → Option Value} (hread : form.ReadBy read) :
    orDefault form.default read node? = some value ↔ form.Settles node? value := by
  cases node? with
  | none => rw [settles_none_iff, orDefault, Option.some.injEq, eq_comm]
  | some node => rw [settles_some_iff, orDefault, hread]

end Form

theorem text?_eq_some_iff {node : Toml.Node} {s : String} :
    text? node = some s ↔ node = .text s := by
  cases node <;> simp [text?]

theorem readBy_text? : logLevel.ReadBy text? := by
  intro node s
  rw [text?_eq_some_iff]
  exact ⟨fun h => ⟨s, h, rfl⟩, fun ⟨_, hnode, hs⟩ => hs ▸ hnode⟩

theorem readBy_boolean? : enabled.ReadBy boolean? := by
  intro node b
  cases node <;> simp [boolean?, enabled]

theorem readBy_natural? : maxSize.ReadBy natural? := by
  intro node n
  cases node with
  | integer i =>
    simp only [natural?, maxSize, Toml.Node.integer.injEq, id, exists_eq_right,
      Option.ite_none_right_eq_some, Option.some.injEq]
    omega
  | _ => simp [natural?, maxSize]

/-- A list is read as names just when each item is one. -/
theorem mapM_name_eq_some_iff {items : List Toml.Node} {formats : List Format} :
    (items.mapM fun item => (text? item).map Format.ofText) = some formats ↔
      ∃ names : List String, items = names.map .text ∧ names.map Format.ofText = formats := by
  induction items generalizing formats with
  | nil => simp [eq_comm]
  | cons item items ih =>
    simp only [List.mapM_cons, Option.bind_eq_bind, Option.bind_eq_some_iff, Option.map_eq_some_iff,
      text?_eq_some_iff, ih]
    constructor
    · rintro ⟨_, ⟨name, rfl, rfl⟩, _, ⟨names, rfl, rfl⟩, ⟨⟩⟩
      exact ⟨name :: names, rfl, rfl⟩
    · rintro ⟨_ | ⟨name, names⟩, ⟨⟩, rfl⟩
      exact ⟨_, ⟨name, rfl, rfl⟩, _, ⟨names, rfl, rfl⟩, rfl⟩

theorem readBy_formats? : accept.ReadBy formats? := by
  intro node formats
  cases node with
  | list items =>
    simp only [formats?, mapM_name_eq_some_iff, accept, Toml.Node.list.injEq]
  | _ => simp [formats?, accept]

end Setting

/-- The settings of the clipboard, each for itself. -/
theorem ClipboardConfig.ofNodes?_eq_some_iff {enabled maxSize accept : Option Toml.Node}
    {clipboard : ClipboardConfig} :
    ofNodes? enabled maxSize accept = some clipboard ↔
      Setting.enabled.Settles enabled clipboard.enabled ∧
        Setting.maxSize.Settles maxSize clipboard.maxSize ∧
        Setting.accept.Settles accept clipboard.accept := by
  rw [← Setting.Form.orDefault_eq_some_iff Setting.readBy_boolean?,
    ← Setting.Form.orDefault_eq_some_iff Setting.readBy_natural?,
    ← Setting.Form.orDefault_eq_some_iff Setting.readBy_formats?]
  simp only [ofNodes?, Option.bind_eq_bind, Option.bind_eq_some_iff]
  constructor
  · rintro ⟨_, henabled, _, hmaxSize, _, haccept, ⟨⟩⟩
    exact ⟨henabled, hmaxSize, haccept⟩
  · rintro ⟨henabled, hmaxSize, haccept⟩
    exact ⟨_, henabled, _, hmaxSize, _, haccept, rfl⟩

namespace Config

/-- What a document says of the settings. -/
structure Written where
  logLevel : Option Toml.Node
  enabled : Option Toml.Node
  maxSize : Option Toml.Node
  accept : Option Toml.Node

/-- The entries of the table for the clipboard, which may be missing. -/
def clipboardEntries (entries : Toml.Entries) : Toml.Entries :=
  match entries.lookup "clipboard" with
  | some (.table _ inner) => inner
  | _ => []

/-- What the entries of a document say of the settings. -/
def written (entries : Toml.Entries) : Written :=
  let inner := clipboardEntries entries
  ⟨entries.lookup "log_level", inner.lookup "enabled", inner.lookup "max_size",
    inner.lookup "accept"⟩

/-- The settings of the clipboard are missing or stand in a table. -/
def IsTabular (entries : Toml.Entries) : Prop :=
  ∀ node, entries.lookup "clipboard" = some node → ∃ kind inner, node = .table kind inner

/-- Each setting is absent or written in its form. -/
structure Written.WellFormed (written : Written) : Prop where
  logLevel : Setting.logLevel.Fits written.logLevel
  enabled : Setting.enabled.Fits written.enabled
  maxSize : Setting.maxSize.Fits written.maxSize
  accept : Setting.accept.Fits written.accept

/-- Each setting has what is written, or its default. -/
structure Written.Settles (written : Written) (config : Config) : Prop where
  logLevel : Setting.logLevel.Settles written.logLevel config.logLevel
  enabled : Setting.enabled.Settles written.enabled config.clipboard.enabled
  maxSize : Setting.maxSize.Settles written.maxSize config.clipboard.maxSize
  accept : Setting.accept.Settles written.accept config.clipboard.accept

theorem Written.exists_settles_iff {written : Written} :
    (∃ config, written.Settles config) ↔ written.WellFormed := by
  constructor
  · rintro ⟨config, h⟩
    exact ⟨Setting.Form.exists_settles_iff.1 ⟨_, h.logLevel⟩,
      Setting.Form.exists_settles_iff.1 ⟨_, h.enabled⟩,
      Setting.Form.exists_settles_iff.1 ⟨_, h.maxSize⟩,
      Setting.Form.exists_settles_iff.1 ⟨_, h.accept⟩⟩
  · intro h
    obtain ⟨level, hlevel⟩ := Setting.Form.exists_settles_iff.2 h.logLevel
    obtain ⟨enabled, henabled⟩ := Setting.Form.exists_settles_iff.2 h.enabled
    obtain ⟨maxSize, hmaxSize⟩ := Setting.Form.exists_settles_iff.2 h.maxSize
    obtain ⟨accept, haccept⟩ := Setting.Form.exists_settles_iff.2 h.accept
    exact ⟨⟨level, enabled, maxSize, accept⟩, hlevel, henabled, hmaxSize, haccept⟩

variable {entries : Toml.Entries} {config : Config}

/-- A missing table gives what an empty one gives. -/
theorem orDefault_clipboard (htable : IsTabular entries) :
    Setting.orDefault ClipboardConfig.default ClipboardConfig.ofNode?
        (entries.lookup "clipboard") =
      ClipboardConfig.ofNodes? (written entries).enabled (written entries).maxSize
        (written entries).accept := by
  cases hclipboard : entries.lookup "clipboard" with
  | none =>
    simp only [written, clipboardEntries, hclipboard]
    rfl
  | some node =>
    obtain ⟨kind, inner, rfl⟩ := htable node hclipboard
    simp only [written, clipboardEntries, hclipboard]
    rfl

/-- The settings of a document, each for itself. -/
theorem ofEntries?_eq_some_iff (htable : IsTabular entries) :
    ofEntries? entries = some config ↔ (written entries).Settles config := by
  simp only [ofEntries?, orDefault_clipboard htable, Option.bind_eq_bind, Option.bind_eq_some_iff]
  constructor
  · rintro ⟨level, hlevel, clipboard, hclipboard, ⟨⟩⟩
    obtain ⟨henabled, hmaxSize, haccept⟩ := ClipboardConfig.ofNodes?_eq_some_iff.1 hclipboard
    exact ⟨(Setting.Form.orDefault_eq_some_iff Setting.readBy_text?).1 hlevel, henabled, hmaxSize,
      haccept⟩
  · intro h
    exact ⟨_, (Setting.Form.orDefault_eq_some_iff Setting.readBy_text?).2 h.logLevel, _,
      ClipboardConfig.ofNodes?_eq_some_iff.2 ⟨h.enabled, h.maxSize, h.accept⟩, rfl⟩

/-! ### Files -/

variable {files : Files} {path s : String} {isExplicit : Bool}

/-- A path names a file with a document of these entries. -/
def HoldsDocument (files : Files) (path : String) (entries : Toml.Entries) : Prop :=
  ∃ s, files.entry? path = some (.file (Utf8.encode s)) ∧ Toml.parse? s = some entries

/-- A document in a file is accepted as its entries are, however the file was asked for. -/
theorem load_of_holdsDocument (hfile : HoldsDocument files path entries) :
    load files path isExplicit =
      match ofEntries? entries with
      | none => .error (parsingFailure path)
      | some config => .ok config := by
  obtain ⟨s, hentry, hparse⟩ := hfile
  have hdecode : Utf8.decode? (Utf8.encode s) = some s := Utf8.decode?_eq_some_iff.2 rfl
  have hread : ofText? s = ofEntries? entries := by
    rw [ofText?, hparse]
    rfl
  cases hsettings : ofEntries? entries <;>
    simp only [load, Files.read, hentry, ofBytes, hdecode, hread, hsettings]

/-- The settings in a file that holds a document. -/
theorem load_eq_ok_iff (hfile : HoldsDocument files path entries) (htable : IsTabular entries) :
    load files path isExplicit = .ok config ↔ (written entries).Settles config := by
  rw [load_of_holdsDocument hfile, ← ofEntries?_eq_some_iff htable]
  cases ofEntries? entries <;> simp

/-- A document that is refused is refused for what is written in it. -/
theorem load_of_not_wellFormed (hfile : HoldsDocument files path entries)
    (htable : IsTabular entries) (hform : ¬ (written entries).WellFormed) :
    load files path isExplicit = .error (parsingFailure path) := by
  have hnone : ofEntries? entries = none := by
    refine Option.eq_none_iff_forall_ne_some.2 fun config hconfig => hform ?_
    exact Written.exists_settles_iff.1 ⟨config, (ofEntries?_eq_some_iff htable).1 hconfig⟩
  rw [load_of_holdsDocument hfile, hnone]

/-- Of a document only what it says of the settings decides. -/
theorem ofEntries?_congr {entries' : Toml.Entries} (htable : IsTabular entries)
    (htable' : IsTabular entries') (hwritten : written entries' = written entries) :
    ofEntries? entries' = ofEntries? entries := by
  refine Option.ext fun config => ?_
  rw [ofEntries?_eq_some_iff htable', ofEntries?_eq_some_iff htable, hwritten]

/-- Where nothing is written of the clipboard, its settings are the defaults. -/
theorem Written.Settles.clipboard_eq_default (h : (written entries).Settles config)
    (hempty : clipboardEntries entries = []) : config.clipboard = .default := by
  obtain ⟨-, henabled, hmaxSize, haccept⟩ := h
  simp only [written, hempty, List.lookup_nil, Setting.Form.settles_none_iff]
    at henabled hmaxSize haccept
  obtain ⟨level, enabled, maxSize, accept⟩ := config
  cases henabled
  cases hmaxSize
  cases haccept
  rfl

/-- An empty file holds a document that says nothing. -/
theorem holdsDocument_of_empty (hempty : files.entry? path = some (.file [])) :
    HoldsDocument files path [] :=
  ⟨"", hempty, by cbv⟩

/-- A file that is there is loaded in the same way whether or not it was asked for. -/
theorem load_explicit (hthere : files.entry? path ≠ none) :
    load files path true = load files path false := by
  match hentry : files.entry? path with
  | none => exact absurd hentry hthere
  | some .directory =>
    simp only [load, Files.read, hentry]
    rfl
  | some (.file data) => simp only [load, Files.read, hentry]

/-- **Settings are settled one by one.** A document whose clipboard settings are missing or stand
in a table is accepted just when each setting is absent or written in its form, and is refused as a
document otherwise. Each setting of an accepted one has what is written, or its default, whatever is
written of the others, and other keys change nothing. A missing table, an empty one, an empty file
and a missing file that was not asked for give the same settings of the clipboard, and asking for a
file makes a difference only when it is missing. -/
theorem load_settles (files : Files) (path : String) :
    (∀ entries isExplicit, HoldsDocument files path entries → IsTabular entries →
      ((∃ config, load files path isExplicit = .ok config) ↔ (written entries).WellFormed) ∧
        (∀ config, load files path isExplicit = .ok config ↔ (written entries).Settles config) ∧
        (¬ (written entries).WellFormed →
          load files path isExplicit = .error (parsingFailure path)) ∧
        (∀ files' entries', HoldsDocument files' path entries' → IsTabular entries' →
          written entries' = written entries →
          load files' path isExplicit = load files path isExplicit) ∧
        (clipboardEntries entries = [] → ∀ config, load files path isExplicit = .ok config →
          config.clipboard = default.clipboard)) ∧
      (files.entry? path = some (.file []) → ∀ isExplicit,
        load files path isExplicit = .ok default) ∧
      (files.entry? path = none → load files path false = .ok default ∧
        load files path true =
          .error (readingFailure path "No such file or directory (os error 2)")) ∧
      (files.entry? path ≠ none → load files path true = load files path false) := by
  refine ⟨fun entries isExplicit hfile htable => ⟨?_, fun _ => load_eq_ok_iff hfile htable,
    load_of_not_wellFormed hfile htable, ?_, ?_⟩, ?_, ?_, load_explicit⟩
  · simp only [load_eq_ok_iff hfile htable, Written.exists_settles_iff]
  · intro files' entries' hfile' htable' hwritten
    rw [load_of_holdsDocument hfile', load_of_holdsDocument hfile,
      ofEntries?_congr htable htable' hwritten]
  · intro hempty config hload
    exact ((load_eq_ok_iff hfile htable).1 hload).clipboard_eq_default hempty
  · intro hempty isExplicit
    rw [load_of_holdsDocument (holdsDocument_of_empty hempty)]
    rfl
  · intro hmissing
    simp only [load, Files.read, hmissing]
    exact ⟨rfl, rfl⟩

/-- A document with unknown keys that leaves out a setting and repeats a name. -/
theorem load_settles_partial :
    let document :=
      "colour = 3\n[clipboard]\nmax_size = 4096\naccept = [\"text/html\", \"x\", \"text/html\"]\n"
    let files : Files := ⟨[("config.toml", .file (Utf8.encode document))]⟩
    let entries : Toml.Entries := [
      ("clipboard", .table .named [
        ("accept", .list [.text "text/html", .text "x", .text "text/html"]),
        ("max_size", .integer 4096)]),
      ("colour", .integer 3)]
    HoldsDocument files "config.toml" entries ∧ IsTabular entries ∧
      load files "config.toml" true =
        .ok ⟨"info", true, 4096, [.html, .other "x", .html]⟩ := by
  intro document files entries
  have hfile : HoldsDocument files "config.toml" entries := by
    refine ⟨document, rfl, ?_⟩
    subst document entries
    cbv
  have htable : IsTabular entries := by
    rintro node ⟨⟩
    exact ⟨_, _, rfl⟩
  have hsettles := ((load_settles files "config.toml").1 entries true hfile htable).2.1
  have haccept : ["text/html", "x", "text/html"].map Format.ofText =
      [.html, .other "x", .html] := by
    cbv
  refine ⟨hfile, htable, (hsettles _).2 ⟨.absent, .absent, .written 4096, ?_⟩⟩
  exact haccept ▸ .written ["text/html", "x", "text/html"]

end Config

end ClipExchange
