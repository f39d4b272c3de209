/-!
# Lines and separated parts

A line ends at a line feed, and a carriage return right before that line feed belongs to the
terminator. The last line needs no terminator, and then keeps its carriage return. A text cut
at a separator has one part more than it has separators, so the empty text has one part.

## Main definitions

* `Text.lines`: the lines of a text without their terminators.
* `Text.parts`: the parts of a text between separators.
* `Text.cutAt?`: the text before and after the first separator.
-/

namespace ClipExchange

namespace Text

/-- A finished line, given last character first, without the carriage return at its end. -/
def closeLine : List Char → List Char
  | '\r' :: cs => cs.reverse
  | cs => cs.reverse

/-- Collect lines; `done` and the characters of `line` are given last one first. -/
def linesFrom (done : List (List Char)) (line : List Char) : List Char → List (List Char)
  | [] => if line.isEmpty then done.reverse else (line.reverse :: done).reverse
  | '\n' :: cs => linesFrom (closeLine line :: done) [] cs
  | c :: cs => linesFrom done (c :: line) cs

/-- The lines of a text without their terminators. -/
def lines (s : String) : List String :=
  (linesFrom [] [] s.toList).map String.ofList

/-- Collect parts; `done` and the characters of `part` are given last one first. -/
def partsFrom (separator : Char) (done : List (List Char)) (part : List Char) :
    List Char → List (List Char)
  | [] => (part.reverse :: done).reverse
  | c :: cs =>
    if c = separator then partsFrom separator (part.reverse :: done) [] cs
    else partsFrom separator done (c :: part) cs

/-- The parts of a text between separators; at least one. -/
def parts (separator : Char) (s : String) : List String :=
  (partsFrom separator [] [] s.toList).map String.ofList

/-- The text before and after the first separator. -/
def cutAt? (separator : Char) (s : String) : Option (String × String) :=
  let before := s.toList.takeWhile (· ≠ separator)
  match s.toList.drop before.length with
  | [] => none
  | _ :: after => some (String.ofList before, String.ofList after)

end Text

end ClipExchange
