import ClipExchange.Png.Fault
import ClipExchange.Png.Filter

/-!
# Rows

Each row begins with the number of its filter, and the rest of it are the octets that the
filter has left. The row above the first one counts as zero.

## Main definitions

* `Png.rowsFrom`: the rows of an image or of one pass.
* `Png.filteredRows`: the rows of an image as a writer filters them.
* `Png.plainRows`: the rows of an image without filters.
-/

namespace ClipExchange

namespace Png

/-- Read a number of rows of the same length and restore them, and leave the rest. -/
def rowsFrom (distance length : Nat) (upper : Array UInt8) :
    Nat → Bytes → Except Fault (List Bytes × Bytes)
  | 0, data => .ok ([], data)
  | count + 1, data =>
    match data with
    | [] => .error .truncated
    | number :: data =>
      let row := data.take length
      if row.length = length then
        match Filter.ofNumber? number with
        | none => .error .filter
        | some filter => do
          let row := filter.restored distance upper row
          let (rows, rest) ← rowsFrom distance length row count (data.drop length)
          return (row.toList :: rows, rest)
      else .error .truncated

/-- Cut octets into a number of rows of the same length, and filter each as a writer chooses. -/
def filteredRows (distance length : Nat) (upper : Array UInt8) : Nat → Bytes → List Bytes
  | 0, _ => []
  | count + 1, data =>
    let row := data.take length
    let filter := Filter.choose distance upper row
    (filter.number :: filter.filtered distance upper row) ::
      filteredRows distance length row.toArray count (data.drop length)

/-- Cut octets into a number of rows of the same length, without filters. -/
def plainRows (length : Nat) : Nat → Bytes → List Bytes
  | 0, _ => []
  | count + 1, data =>
    (Filter.plain.number :: data.take length) :: plainRows length count (data.drop length)

end Png

end ClipExchange
