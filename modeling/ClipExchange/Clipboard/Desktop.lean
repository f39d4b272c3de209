import ClipExchange.Clipboard.Error
import ClipExchange.Image

/-!
# The desktop's clipboard

A desktop has one place each for HTML, plain text and an image. A place is empty, holds a
value, or cannot be converted. Putting something on the desktop replaces all that was there,
or fails and changes nothing.

## Main definitions

* `DesktopError`: why the desktop refused.
* `Desktop`: the places, and what opening the desktop and setting it meet.
* `Selection`: what can be put on a desktop.
-/

namespace ClipExchange

/-- Why the desktop refused. -/
inductive DesktopError where
  | contentNotAvailable
  | notSupported
  | occupied
  | conversion
  | unknown (name : String)
deriving DecidableEq, Repr

namespace DesktopError

/-- The failure of the clipboard that a refusal amounts to. -/
def toClipboardError : DesktopError → ClipboardError
  | contentNotAvailable => .formatUnavailable
  | notSupported => .unavailable
  | occupied => .accessDenied
  | conversion => .desktop "conversion failure"
  | unknown name => .desktop ("unknown: " ++ name)

end DesktopError

/-- One place of a desktop: empty, refused, or filled. -/
abbrev Slot (α : Type) := Option (Except DesktopError α)

/-- What reading a place gives. An empty place, or one that says so, holds nothing. -/
def Slot.get {α : Type} (slot : Slot α) : Except ClipboardError (Option α) :=
  match slot with
  | none => .ok none
  | some (.ok value) => .ok (some value)
  | some (.error .contentNotAvailable) => .ok none
  | some (.error e) => .error e.toClipboardError

/-- The clipboard of a desktop. -/
structure Desktop where
  openError : Option DesktopError
  setError : Option DesktopError
  html : Slot String
  text : Slot String
  image : Slot Image

/-- What can be put on a desktop. -/
inductive Selection where
  /-- HTML with the plain text to fall back on. -/
  | html (html : String) (alternative : Option String)
  | text (text : String)
  | image (image : Image)
deriving DecidableEq

namespace Desktop

/-- A desktop without content. -/
def empty : Desktop :=
  ⟨none, none, none, none, none⟩

/-- The desktop that holds a selection and nothing else. -/
def holding : Selection → Desktop
  | .html html alternative => { empty with html := some (.ok html), text := alternative.map .ok }
  | .text text => { empty with text := some (.ok text) }
  | .image image => { empty with image := some (.ok image) }

/-- Open the desktop. -/
def open? (desktop : Desktop) : Except ClipboardError Unit :=
  match desktop.openError with
  | some e => .error e.toClipboardError
  | none => .ok ()

/-- Put a selection in the place of all that an opened desktop holds. -/
def set (desktop : Desktop) (selection : Selection) : Except ClipboardError Desktop :=
  match desktop.setError with
  | some e => .error e.toClipboardError
  | none => .ok (holding selection)

end Desktop

end ClipExchange
