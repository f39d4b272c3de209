import ClipExchange.Command.Files
import ClipExchange.Toml.Document

/-!
# Configuration

The configuration is a TOML document. Every setting has a default that holds when the document
does not mention it, and so has the table of the clipboard. Unknown keys are passed over, and a
setting of another type refuses the document. The settings of the clipboard may also stand in a
list, in the order of their declaration.

## Main definitions

* `Config`: the settings, with `Config.default`.
* `Config.ofEntries?`: the settings of a document.
* `Config.load`: the settings of a file.
-/

namespace ClipExchange

/-- The settings of clipboard exchange. -/
structure ClipboardConfig where
  enabled : Bool
  maxSize : Nat
  accept : List Format
deriving DecidableEq, Repr

/-- The settings. -/
structure Config where
  logLevel : String
  clipboard : ClipboardConfig
deriving DecidableEq, Repr

namespace Setting

/-- The level of messages where none is written. -/
def defaultLogLevel : String :=
  "info"

/-- A switch that is on where it is not written. -/
def defaultTrue : Bool :=
  true

/-- Ten mebibytes may be exchanged where no greatest size is written. -/
def defaultMaxSize : Nat :=
  10 * 1024 * 1024

/-- Plain text and HTML are accepted where nothing is written. -/
def defaultAccept : List Format :=
  [.plainText, .html]

/-- A string. -/
def text? : Toml.Node → Option String
  | .text s => some s
  | _ => none

/-- A truth value. -/
def boolean? : Toml.Node → Option Bool
  | .boolean b => some b
  | _ => none

/-- A number that is not negative. -/
def natural? : Toml.Node → Option Nat
  | .integer n => if 0 ≤ n then some n.toNat else none
  | _ => none

/-- A list of format names. -/
def formats? : Toml.Node → Option (List Format)
  | .list items => items.mapM fun item => (text? item).map Format.ofText
  | _ => none

/-- A setting that may be absent. -/
def orDefault {α : Type} (default : α) (read : Toml.Node → Option α) :
    Option Toml.Node → Option α
  | none => some default
  | some node => read node

end Setting

/-- The settings of the clipboard where there is no table for them. -/
def ClipboardConfig.default : ClipboardConfig :=
  ⟨true, Setting.defaultMaxSize, Setting.defaultAccept⟩

/-- The settings where there is no file for them. -/
def Config.default : Config :=
  ⟨Setting.defaultLogLevel, ClipboardConfig.default⟩

namespace ClipboardConfig

/-- The settings from their nodes. -/
def ofNodes? (enabled maxSize accept : Option Toml.Node) : Option ClipboardConfig := do
  let enabled ← Setting.orDefault Setting.defaultTrue Setting.boolean? enabled
  let maxSize ← Setting.orDefault Setting.defaultMaxSize Setting.natural? maxSize
  let accept ← Setting.orDefault Setting.defaultAccept Setting.formats? accept
  return ⟨enabled, maxSize, accept⟩

/-- The settings from a table, or from a list in which later ones may be missing. A date has
no settings, so it stands for the defaults. -/
def ofNode? : Toml.Node → Option ClipboardConfig
  | .table _ entries =>
    ofNodes? (entries.lookup "enabled") (entries.lookup "max_size") (entries.lookup "accept")
  | .list items => ofNodes? items[0]? items[1]? items[2]?
  | .dateTime => some default
  | _ => none

end ClipboardConfig

namespace Config

/-- The settings of a document. -/
def ofEntries? (entries : Toml.Entries) : Option Config := do
  let logLevel ← Setting.orDefault Setting.defaultLogLevel Setting.text?
    (entries.lookup "log_level")
  let clipboard ← Setting.orDefault ClipboardConfig.default ClipboardConfig.ofNode?
    (entries.lookup "clipboard")
  return ⟨logLevel, clipboard⟩

/-- The settings of a text. -/
def ofText? (s : String) : Option Config := do
  let entries ← Toml.parse? s
  ofEntries? entries

/-- What is said about a file that cannot be read. -/
def readingFailure (path cause : String) : Failure :=
  ⟨"reading config " ++ path, some cause⟩

/-- What is said about a file that is no configuration. -/
def parsingFailure (path : String) : Failure :=
  ⟨"parsing config " ++ path, some "invalid configuration"⟩

/-- The settings in the octets of a file. -/
def ofBytes (path : String) (data : Bytes) : Except Failure Config :=
  match Utf8.decode? data with
  | none => .error (readingFailure path "stream did not contain valid UTF-8")
  | some s =>
    match ofText? s with
    | none => .error (parsingFailure path)
    | some config => .ok config

/-- Where the configuration is by default, in the directory for configurations. -/
def defaultPath (directory : String) : String :=
  directory ++ "/cliprelay/config.toml"

/-- The settings of a file. It may be missing unless it was asked for explicitly. -/
def load (files : Files) (path : String) (isExplicit : Bool) : Except Failure Config :=
  match files.read path with
  | .ok data => ofBytes path data
  | .error cause =>
    if cause.kind = .notFound ∧ !isExplicit then .ok default
    else .error (readingFailure path cause.text)

end Config

end ClipExchange
