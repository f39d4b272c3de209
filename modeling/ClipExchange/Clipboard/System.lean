import ClipExchange.Clipboard.Desktop
import ClipExchange.Png.Decode
import ClipExchange.Png.Encode

/-!
# Transactions on the desktop's clipboard

Reading takes HTML, plain text and the image, in that order; the image becomes a PNG file, and
one that cannot be written as such is left out. Writing puts on the desktop the first of these
formats in the transaction's order; plain text goes along with HTML as what to fall back on.

## Main definitions

* `SystemClipboard`: the limit on size.
* `SystemClipboard.read`, `SystemClipboard.formats`, `SystemClipboard.write`.
-/

namespace ClipExchange

/-- The formats that a desktop takes. -/
def Desktop.supported : List Format :=
  [.html, .plainText, .png]

/-- Every representation on an opened desktop, most preferred first. -/
def Desktop.contents (desktop : Desktop) : Except ClipboardError (List Content) := do
  let html ← desktop.html.get
  let text ← desktop.text.get
  let image ← desktop.image.get
  return (html.map Content.html).toList ++ (text.map Content.text).toList ++
    ((image.bind Png.encode?).map Content.png).toList

/-- The clipboard of the local desktop. -/
structure SystemClipboard where
  maxSize : Nat
deriving DecidableEq, Repr

namespace SystemClipboard

/-- Every representation on the desktop. -/
def contents (desktop : Desktop) : Except ClipboardError (List Content) := do
  desktop.open?
  desktop.contents

/-- Everything on the desktop in a fresh transaction, if it is not too large. -/
def read (clipboard : SystemClipboard) (desktop : Desktop) (ids : IdSource) :
    Except ClipboardError Transaction × IdSource :=
  match contents desktop with
  | .error e => (.error e, ids)
  | .ok contents =>
    let (id, ids) := ids.draw
    let tx := Transaction.ofContents id contents
    ((tx.checkSize clipboard.maxSize).map fun () => tx, ids)

/-- The formats on the desktop, in order, whatever their size. -/
def formats (desktop : Desktop) : Except ClipboardError (List Format) :=
  (contents desktop).map fun contents => contents.map Content.format

/-- What a transaction puts on a desktop. -/
def selection (tx : Transaction) : Except ClipboardError Selection :=
  match (tx.select Desktop.supported).1 with
  | some (.html html) =>
    let alternative := (tx.select [.plainText]).1
    .ok (.html html (alternative.bind Content.text?))
  | some (.text text) => .ok (.text text)
  | some (.png data) =>
    match Png.decode data with
    | .ok image => .ok (.image image)
    | .error fault => .error (.image fault)
  | _ => .error .formatUnavailable

/-- What a transaction with content does to the desktop. -/
def apply (clipboard : SystemClipboard) (tx : Transaction) (desktop : Desktop) :
    Except ClipboardError Desktop := do
  tx.checkSize clipboard.maxSize
  let selection ← selection tx
  desktop.open?
  desktop.set selection

/-- Put the transaction on the desktop. One without content changes nothing, and one that
fails neither. -/
def write (clipboard : SystemClipboard) (tx : Transaction) (desktop : Desktop) :
    Except ClipboardError Unit × Desktop :=
  if tx.isEmpty then (.ok (), desktop)
  else
    match clipboard.apply tx desktop with
    | .ok desktop => (.ok (), desktop)
    | .error e => (.error e, desktop)

end SystemClipboard

end ClipExchange
