import ClipExchange.Clipboard.System
import ClipExchange.Command.Item
import ClipExchange.Command.Lines
import ClipExchange.Config
import ClipExchange.Stream.Frames

/-!
# Commands

A command turns what it finds around it into lines of output and what it leaves behind. One
that fails has printed its lines up to then.

## Main definitions

* `Command`: the commands with their operands.
* `Surroundings`: files, the desktop, and identifiers for new transactions.
* `Outcome`: the lines and the failure of a command.
* `Command.run`: what a command does.
-/

namespace ClipExchange

/-- A command with its operands. -/
inductive Command where
  /-- Build a transaction from items and write it to a file. -/
  | pack (output : String) (items : List String)
  /-- Print every transaction of a file. -/
  | inspect (input : String)
  /-- Print what a consumer would take from each transaction of a file. -/
  | select (input : String) (accept : Option (List Format))
  /-- Write what is on the desktop's clipboard to a file. -/
  | copy (output : String)
  /-- Put the first transaction of a file on the desktop's clipboard. -/
  | paste (input : String)
deriving DecidableEq, Repr

/-- What a command finds around it. -/
structure Surroundings where
  files : Files
  desktop : Desktop
  ids : IdSource

/-- The lines and the failure of a command. -/
structure Outcome where
  lines : List String
  failure : Option Failure
deriving DecidableEq, Repr

namespace Outcome

/-- Success without output. -/
def silent : Outcome :=
  ⟨[], none⟩

/-- Failure without output. -/
def failed (failure : Failure) : Outcome :=
  ⟨[], some failure⟩

/-- The text on standard output. -/
def output (outcome : Outcome) : String :=
  String.join (outcome.lines.map fun line => line ++ "\n")

/-- The text on standard error. -/
def errorOutput (outcome : Outcome) : String :=
  match outcome.failure with
  | some failure => failure.report
  | none => ""

/-- The exit status. -/
def status (outcome : Outcome) : Nat :=
  if outcome.failure.isSome then 1 else 0

end Outcome

namespace Failure

/-- A failure of a clipboard. -/
def ofClipboard (e : ClipboardError) : Failure :=
  .plain e.message

/-- A failure of a transfer. -/
def ofTransfer (e : TransferError) : Failure :=
  .plain e.message

end Failure

namespace Command

/-- Refuse to touch the clipboard if the configuration says so. -/
def ensureEnabled (config : Config) : Except Failure Unit :=
  if config.clipboard.enabled then .ok ()
  else .error (.plain "clipboard sharing is disabled in the configuration")

/-- Open a file of frames. -/
def openFrames (files : Files) (path : String) : Except Failure Pipe :=
  match files.openStream path with
  | .ok pipe => .ok pipe
  | .error cause => .error (.ofStream ("opening " ++ path) cause)

/-- Write a transaction as the only frame of a file. The file is made before the frame, so one
that is too long leaves it empty. -/
def writeTransaction (path : String) (tx : Transaction) (files : Files) :
    Except Failure Unit × Files :=
  match files.create path with
  | .error cause => (.error (.ofStream ("creating " ++ path) cause), files)
  | .ok files =>
    match Wire.frame tx.data with
    | .error e => (.error (.ofTransfer e), files)
    | .ok frame => (.ok (), files.put path frame)

/-- The transaction of some items, if it is not too large. -/
def packed (config : Config) (files : Files) (id : TransactionId) (items : List String) :
    Except Failure Transaction := do
  let contents ← items.mapM (Content.ofItem files)
  let tx := Transaction.ofContents id contents
  match tx.checkSize config.clipboard.maxSize with
  | .ok () => return tx
  | .error e => throw (.ofClipboard e)

/-- The transaction on the desktop's clipboard. -/
def copied (config : Config) (desktop : Desktop) (ids : IdSource) : Except Failure Transaction := do
  ensureEnabled config
  match (SystemClipboard.mk config.clipboard.maxSize).read desktop ids with
  | (.ok tx, _) => return tx
  | (.error e, _) => throw (.ofClipboard e)

/-- The transaction in the first frame of a file. -/
def firstTransaction (files : Files) (path : String) : Except Failure Transaction := do
  let pipe ← openFrames files path
  match (pipe.receive Message).1 with
  | .error e => throw (.ofTransfer e)
  | .ok none => throw (.plain (path ++ " contains no frames"))
  | .ok (some message) =>
    match message.toTransaction with
    | .ok tx => return tx
    | .error e => throw (.ofTransfer (.unexpected e))

/-- Print lines for the messages of a file, in order. -/
def report (files : Files) (path : String) (lines : Message → List String) : Outcome :=
  match openFrames files path with
  | .error failure => .failed failure
  | .ok pipe =>
    let (messages, failure) := pipe.messages
    ⟨messages.flatMap lines, failure.map .ofTransfer⟩

/-- Store the transaction that was made, or report why there is none. -/
def store (path : String) (made : Except Failure Transaction) (files : Files) :
    Outcome × Files :=
  match made with
  | .error failure => (.failed failure, files)
  | .ok tx =>
    match writeTransaction path tx files with
    | (.ok (), files) => (.silent, files)
    | (.error failure, files) => (.failed failure, files)

/-- Put the first transaction of a file on the desktop. -/
def pasteFile (config : Config) (path : String) (around : Surroundings) : Outcome × Surroundings :=
  let found := do
    ensureEnabled config
    firstTransaction around.files path
  match found with
  | .error failure => (.failed failure, around)
  | .ok tx =>
    let (result, desktop) :=
      (SystemClipboard.mk config.clipboard.maxSize).write tx around.desktop
    let outcome := match result with
      | .ok () => Outcome.silent
      | .error e => .failed (.ofClipboard e)
    (outcome, { around with desktop := desktop })

/-- What a command does. -/
def run (config : Config) (command : Command) (around : Surroundings) : Outcome × Surroundings :=
  match command with
  | pack output items =>
    let (id, ids) := around.ids.draw
    let (outcome, files) := store output (packed config around.files id items) around.files
    (outcome, { around with files := files, ids := ids })
  | inspect input => (report around.files input Message.lines, around)
  | select input accept =>
    let accept := accept.getD config.clipboard.accept
    (report around.files input fun message => (message.selectionLine? accept).toList, around)
  | copy output =>
    let made := copied config around.desktop around.ids
    let (outcome, files) := store output made around.files
    (outcome, { around with files := files, ids := around.ids.draw.2 })
  | paste input => pasteFile config input around

end Command

end ClipExchange
