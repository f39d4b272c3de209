import ClipExchange.Format
import ClipExchange.Text.Lines
import ClipExchange.Text.Utf8

/-!
# Clipboard content

One representation of a clipboard event: its format together with a payload of the kind that
the format fixes. A payload given as octets fits a textual format only if it is UTF-8; a file
list is given by its lines, empty ones left out.

## Main definitions

* `Content`: the representations.
* `Content.format`: the tag of a representation; a name of its own is brought to lower case.
* `Content.size`: the octets of the payload, with one separator for each path of a list.
* `Content.ofBytes?`: the representation with a given format and payload.
-/

namespace ClipExchange

/-- One typed representation of a clipboard event. -/
inductive Content where
  | text (text : String)
  | html (text : String)
  | richText (text : String)
  | png (data : Bytes)
  | bitmap (data : Bytes)
  | fileList (paths : List String)
  | other (name : String) (data : Bytes)
deriving DecidableEq

namespace Content

/-- The tag of a representation. -/
def format : Content → Format
  | text _ => .plainText
  | html _ => .html
  | richText _ => .richText
  | png _ => .png
  | bitmap _ => .bitmap
  | fileList _ => .fileList
  | other name _ => .other (Text.lowercase name)

/-- The payload of a textual representation. -/
def text? : Content → Option String
  | text s | html s | richText s => some s
  | _ => none

/-- The number of octets of the payload. -/
def size : Content → Nat
  | text s | html s | richText s => s.utf8ByteSize
  | png data | bitmap data | other _ data => data.length
  | fileList paths => paths.foldr (fun path rest => path.utf8ByteSize + 1 + rest) 0

/-- The paths of a file list that is given as lines. -/
def pathsOfLines (s : String) : List String :=
  (Text.lines s).filter fun line => !line.isEmpty

/-- The representation with the given format and payload, if the payload fits the format. -/
def ofBytes? (format : Format) (data : Bytes) : Option Content :=
  match format with
  | .plainText => (Utf8.decode? data).map text
  | .html => (Utf8.decode? data).map html
  | .richText => (Utf8.decode? data).map richText
  | .png => some (png data)
  | .bitmap => some (bitmap data)
  | .fileList => (Utf8.decode? data).map fun s => fileList (pathsOfLines s)
  | .other name => some (other name data)

end Content

end ClipExchange
