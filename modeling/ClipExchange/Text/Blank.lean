/-!
# Blank characters and letter case

Tags are compared after the blank characters at both ends are dropped and the ASCII letters
are brought to lower case. Blank means the Unicode property White_Space; no other letter is
folded, so a dotted capital I or a Kelvin sign stays what it is.

## Main definitions

* `isBlank`: the White_Space property.
* `trim`: a text without the blanks at its ends.
* `lowercase`: a text with its ASCII letters in lower case.
-/

namespace ClipExchange

namespace Text

/-- The characters with the Unicode property White_Space. -/
def isBlank (c : Char) : Bool :=
  let n := c.toNat
  (9 ≤ n && n ≤ 13) || n == 0x20 || n == 0x85 || n == 0xA0 || n == 0x1680 ||
    (0x2000 ≤ n && n ≤ 0x200A) || n == 0x2028 || n == 0x2029 || n == 0x202F ||
    n == 0x205F || n == 0x3000

/-- Characters without the blanks at both ends. -/
def trimChars (cs : List Char) : List Char :=
  ((cs.dropWhile isBlank).reverse.dropWhile isBlank).reverse

/-- A text without the blanks at both ends. -/
def trim (s : String) : String :=
  String.ofList (trimChars s.toList)

/-- A text with its ASCII letters in lower case. -/
def lowercase (s : String) : String :=
  s.map Char.toLower

@[simp]
theorem toList_trim (s : String) : (trim s).toList = trimChars s.toList := by
  simp [trim]

@[simp]
theorem toList_lowercase (s : String) : (lowercase s).toList = s.toList.map Char.toLower := by
  simp [lowercase]

end Text

end ClipExchange
