import ClipExchange.Text.Blank

/-!
# Format tags

A tag says in which format one representation of a clipboard event is given. Six formats have
tags of their own, each with a canonical name; any other tag is carried by its name. Reading a
tag from text drops the blanks at its ends, ignores the case of ASCII letters and knows some
further names for the six formats.

## Main definitions

* `Format`: the tags.
* `Format.name`: the canonical name.
* `Format.aliases`: every name that is read as one of the six.
* `Format.ofText`: reading a tag.
-/

namespace ClipExchange

/-- The format of one representation. -/
inductive Format where
  | plainText
  | html
  | richText
  | png
  | bitmap
  | fileList
  | other (name : String)
deriving DecidableEq, Repr

namespace Format

/-- The canonical name of a format. -/
def name : Format → String
  | plainText => "text/plain"
  | html => "text/html"
  | richText => "text/rtf"
  | png => "image/png"
  | bitmap => "image/bmp"
  | fileList => "file-list"
  | other name => name

instance : ToString Format :=
  ⟨name⟩

/-- Payloads of these formats are text. -/
def isTextual : Format → Bool
  | plainText | html | richText => true
  | _ => false

/-- Every name, in lower case, that stands for one of the six known formats. -/
def aliases : List (String × Format) := [
  ("text/plain", plainText), ("text", plainText), ("utf8", plainText),
  ("utf8_string", plainText),
  ("text/html", html), ("html", html),
  ("text/rtf", richText), ("application/rtf", richText), ("rtf", richText),
  ("image/png", png), ("png", png),
  ("image/bmp", bitmap), ("bmp", bitmap), ("dib", bitmap),
  ("file-list", fileList), ("files", fileList), ("text/uri-list", fileList)]

/-- The format that a tag in lower case and without outer blanks stands for. -/
def ofTag (tag : String) : Format :=
  (aliases.lookup tag).getD (other tag)

/-- The format that a text names. -/
def ofText (s : String) : Format :=
  ofTag (Text.lowercase (Text.trim s))

end Format

end ClipExchange
