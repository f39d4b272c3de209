import ClipExchange.Text.Hex
import ClipExchange.Text.Unprintable
import ClipExchange.Text.GraphemeExtend

/-!
# Quoted texts

A text is shown between double quotes. The quote, the backslash and four control characters
have short escapes; a character without a visible form of its own, or one that is drawn on
its predecessor, is written by its code point between braces. So a quoted text stays on one
line, whatever characters it holds.

## Main definitions

* `Text.escaped`: how one character is shown.
* `Text.quoted`: how a text is shown.
-/

namespace ClipExchange

namespace Text

/-- A character by its code point. -/
def byCodePoint (c : Char) : List Char :=
  "\\u\x7b".toList ++ Hex.ofNat c.toNat ++ "\x7d".toList

/-- A character as it stands between quotes. -/
def escaped (c : Char) : List Char :=
  if c = '\x00' then "\\0".toList
  else if c = '\t' then "\\t".toList
  else if c = '\r' then "\\r".toList
  else if c = '\n' then "\\n".toList
  else if c = '"' then "\\\"".toList
  else if c = '\\' then "\\\\".toList
  else if extendsGrapheme c || isUnprintable c then byCodePoint c
  else [c]

/-- A text between quotes. -/
def quoted (s : String) : String :=
  String.ofList ('"' :: s.toList.flatMap escaped ++ ['"'])

end Text

end ClipExchange
