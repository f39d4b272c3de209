import ClipExchange.Png.Fault
import ClipExchange.Transaction

/-!
# Failures of a clipboard, and the limit on size

## Main definitions

* `ClipboardError`: why a clipboard was not read or written.
* `Transaction.checkSize`: refuse a transaction whose payloads exceed a limit.
-/

namespace ClipExchange

/-- Why a clipboard was not read or written. -/
inductive ClipboardError where
  /-- Another application holds the clipboard. -/
  | accessDenied
  /-- The clipboard takes none of the formats. -/
  | formatUnavailable
  /-- The payloads together have more octets than are allowed. -/
  | tooLarge (size max : Nat)
  /-- There is no such clipboard here. -/
  | unavailable
  /-- A picture is no PNG file. -/
  | image (fault : Png.Fault)
  /-- The desktop gave another reason. -/
  | desktop (reason : String)
deriving DecidableEq, Repr

/-- What is said about a failure of a clipboard. -/
def ClipboardError.message : ClipboardError → String
  | accessDenied => "clipboard access denied"
  | formatUnavailable => "requested format not available"
  | tooLarge size max =>
    "clipboard content too large: " ++ toString size ++ " bytes (max " ++ toString max ++
      " bytes)"
  | unavailable => "backend not available on this platform"
  | image fault => fault.message
  | desktop reason => reason

/-- Refuse a transaction whose payloads together have more than `max` octets. -/
def Transaction.checkSize (tx : Transaction) (max : Nat) : Except ClipboardError Unit :=
  let size := tx.size
  if max < size then .error (.tooLarge size max) else .ok ()

end ClipExchange
