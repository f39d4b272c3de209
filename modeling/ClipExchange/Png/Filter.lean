import ClipExchange.Bytes

/-!
# Filters

A filter replaces each octet of a row by its difference from a prediction, which is made from
the octet before it, the one above it and the one above the one before. The octet before is the
one at the same place in the pixel before. Octets outside the image count as zero.

A writer is free to choose the filter of each row. It takes the one with the least sum of
differences, where a difference above 127 counts as a negative number.

## Main definitions

* `Png.Filter`: the filters, with their numbers and predictions.
* `Png.Filter.restored`: a row before it was filtered.
* `Png.Filter.filtered`: a row after it was filtered.
* `Png.Filter.choose`: the filter that a writer takes for a row.
-/

namespace ClipExchange

namespace Png

/-- The filters. -/
inductive Filter where
  /-- Every octet stays as it is. -/
  | plain
  /-- Differences from the octet before. -/
  | before
  /-- Differences from the octet above. -/
  | above
  /-- Differences from the mean of both. -/
  | mean
  /-- Differences from whichever octet is closest to the linear estimate. -/
  | closest
deriving DecidableEq, Repr

namespace Filter

/-- The number of a filter. -/
def number : Filter → UInt8
  | plain => 0
  | before => 1
  | above => 2
  | mean => 3
  | closest => 4

/-- The filter with a number. -/
def ofNumber? : UInt8 → Option Filter
  | 0 => some plain
  | 1 => some before
  | 2 => some above
  | 3 => some mean
  | 4 => some closest
  | _ => none

/-- Whichever of three octets is closest to their linear estimate; the left one wins a tie,
then the upper one. -/
def closestOf (left up corner : UInt8) : UInt8 :=
  let estimate : Int := left.toNat + up.toNat - corner.toNat
  let a := (estimate - left.toNat).natAbs
  let b := (estimate - up.toNat).natAbs
  let c := (estimate - corner.toNat).natAbs
  if a ≤ b ∧ a ≤ c then left else if b ≤ c then up else corner

/-- The prediction from the octets to the left, above, and above to the left. -/
def predict (filter : Filter) (left up corner : UInt8) : UInt8 :=
  match filter with
  | plain => 0
  | before => left
  | above => up
  | mean => UInt8.ofNat ((left.toNat + up.toNat) / 2)
  | closest => closestOf left up corner

/-- The octet that stands some distance before the place `i`. -/
def behind (distance : Nat) (row : Array UInt8) (i : Nat) : UInt8 :=
  if distance ≤ i then row.getD (i - distance) 0 else 0

/-- The prediction of the octet that follows `done`, in a row below `upper`. -/
def predictNext (filter : Filter) (distance : Nat) (upper done : Array UInt8) : UInt8 :=
  let i := done.size
  filter.predict (behind distance done i) (upper.getD i 0) (behind distance upper i)

/-- Restore the octets of a row that follow `done`. -/
def restoreFrom (filter : Filter) (distance : Nat) (upper done : Array UInt8) :
    Bytes → Array UInt8
  | [] => done
  | b :: rest =>
    let value := b + filter.predictNext distance upper done
    filter.restoreFrom distance upper (done.push value) rest

/-- A row before it was filtered. -/
def restored (filter : Filter) (distance : Nat) (upper : Array UInt8) (row : Bytes) :
    Array UInt8 :=
  filter.restoreFrom distance upper #[] row

/-- Filter the octets of a row that follow `done`; their differences follow `differences`. -/
def filterFrom (filter : Filter) (distance : Nat) (upper done differences : Array UInt8) :
    Bytes → Array UInt8
  | [] => differences
  | b :: rest =>
    let difference := b - filter.predictNext distance upper done
    filter.filterFrom distance upper (done.push b) (differences.push difference) rest

/-- A row after it was filtered. -/
def filtered (filter : Filter) (distance : Nat) (upper : Array UInt8) (row : Bytes) : Bytes :=
  (filter.filterFrom distance upper #[] #[] row).toList

/-- The sum of differences without their signs. -/
def total (differences : Bytes) : Nat :=
  differences.foldl (fun sum b => sum + min b.toNat (256 - b.toNat)) 0

/-- The better of two filters for a row; the second one wins a tie. -/
def better (distance : Nat) (upper : Array UInt8) (row : Bytes) (first second : Filter) :
    Filter :=
  if total (second.filtered distance upper row) ≤ total (first.filtered distance upper row) then
    second
  else first

/-- The filter that a writer takes for a row. -/
def choose (distance : Nat) (upper : Array UInt8) (row : Bytes) : Filter :=
  [above, mean, closest].foldl (better distance upper row) before

end Filter

end Png

end ClipExchange
