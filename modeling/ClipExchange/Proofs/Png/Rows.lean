import Mathlib
import ClipExchange.Png.Interlace

/-!
# Reading rows that were written

A filter is undone by adding the same predictions, since these are made from octets that are
restored already. So rows are read back whichever filter each of them has, and a writer's two ways
of writing rows are the same but for the choice of the filters (`Png.rowsWith`). With four samples
of eight bits a row consists of the octets of its pixels, so the pixels that are read are those that
were written.

## Main definitions

* `Png.rowsWith`: rows with filters that are chosen in any way.
* `Png.rowsOf`: rows before they are filtered.

## Main results

* `Png.Filter.restored_filtered`: a filter is undone.
* `Png.rowsFrom_rowsWith`: rows are read back.
* `Png.Coloring.flatMap_octets_row`: the octets of the pixels of a row.
* `Png.plainPixels_rowsWith`: the octets of an image are read back.
-/

namespace ClipExchange

namespace Png

/-! ### Filters -/

namespace Filter

variable (filter : Filter) (distance : Nat) (upper : Array UInt8)

theorem ofNumber?_number : ofNumber? filter.number = some filter := by
  cases filter <;> rfl

/-- The differences of a row come behind those that were there before. -/
theorem toList_filterFrom (done differences : Array UInt8) (row : Bytes) :
    (filter.filterFrom distance upper done differences row).toList =
      differences.toList ++ (filter.filterFrom distance upper done #[] row).toList := by
  induction row generalizing done differences with
  | nil => simp [filterFrom]
  | cons b rest ih =>
    simp only [filterFrom]
    rw [ih _ (differences.push _), ih _ (Array.push #[] _)]
    simp

/-- Octets are restored one by one, as the prediction of each is made from those before it. -/
theorem restoreFrom_filterFrom (done : Array UInt8) (row : Bytes) :
    filter.restoreFrom distance upper done (filter.filterFrom distance upper done #[] row).toList =
      done ++ row := by
  induction row generalizing done with
  | nil => simp [filterFrom, restoreFrom]
  | cons b rest ih =>
    have hvalue : b - filter.predictNext distance upper done +
        filter.predictNext distance upper done = b := UInt8.sub_add_cancel _ _
    simp only [filterFrom]
    rw [toList_filterFrom]
    simp only [Array.toList_push, List.nil_append, List.cons_append, restoreFrom]
    rw [hvalue, ih]
    simp

/-- **A filter is undone.** -/
theorem restored_filtered (row : Bytes) :
    (filter.restored distance upper (filter.filtered distance upper row)).toList = row := by
  rw [restored, filtered, restoreFrom_filterFrom]
  simp

theorem length_filtered (row : Bytes) :
    (filter.filtered distance upper row).length = row.length := by
  suffices hsize : ∀ done : Array UInt8,
      (filter.filterFrom distance upper done #[] row).toList.length = row.length from hsize #[]
  induction row with
  | nil => exact fun _ => rfl
  | cons b rest ih =>
    intro done
    rw [filterFrom, toList_filterFrom, List.length_append, ih, List.length_cons]
    simp [Nat.add_comm]

/-- Without a filter every octet stays as it is. -/
theorem filtered_plain (row : Bytes) : plain.filtered distance upper row = row := by
  suffices hrow : ∀ done : Array UInt8,
      (plain.filterFrom distance upper done #[] row).toList = row from hrow #[]
  induction row with
  | nil => exact fun _ => rfl
  | cons b rest ih =>
    intro done
    have hvalue : b - plain.predictNext distance upper done = b := UInt8.sub_zero b
    rw [filterFrom, toList_filterFrom, ih, hvalue]
    rfl

end Filter

/-! ### Rows -/

/-- Cut octets into a number of rows of the same length. -/
def rowsOf (length : Nat) : Nat → Bytes → List Bytes
  | 0, _ => []
  | count + 1, data => data.take length :: rowsOf length count (data.drop length)

/-- Cut octets into a number of rows of the same length, and filter each with the filter that is
chosen for it and the row above it. -/
def rowsWith (choose : Array UInt8 → Bytes → Filter) (distance length : Nat)
    (upper : Array UInt8) : Nat → Bytes → List Bytes
  | 0, _ => []
  | count + 1, data =>
    let row := data.take length
    let filter := choose upper row
    (filter.number :: filter.filtered distance upper row) ::
      rowsWith choose distance length row.toArray count (data.drop length)

variable {choose : Array UInt8 → Bytes → Filter} {distance length count : Nat}
  {upper : Array UInt8} {data : Bytes}

theorem filteredRows_eq_rowsWith (distance length count : Nat) (upper : Array UInt8)
    (data : Bytes) :
    filteredRows distance length upper count data =
      rowsWith (Filter.choose distance) distance length upper count data := by
  induction count generalizing upper data with
  | zero => rfl
  | succ count ih =>
    rw [filteredRows, rowsWith, ih]

theorem plainRows_eq_rowsWith (distance length count : Nat) (upper : Array UInt8)
    (data : Bytes) :
    plainRows length count data =
      rowsWith (fun _ _ => Filter.plain) distance length upper count data := by
  induction count generalizing upper data with
  | zero => rfl
  | succ count ih =>
    rw [plainRows, rowsWith, Filter.filtered_plain, ← ih]

theorem flatten_rowsOf (length count : Nat) (data : Bytes) :
    (rowsOf length count data).flatten = data.take (count * length) := by
  induction count generalizing data with
  | zero => simp [rowsOf]
  | succ count ih =>
    rw [rowsOf, List.flatten_cons, ih, Nat.succ_mul, Nat.add_comm, List.take_add]

theorem length_of_mem_rowsOf (h : count * length ≤ data.length) :
    ∀ row ∈ rowsOf length count data, row.length = length := by
  induction count generalizing data with
  | zero => exact fun _ hrow => nomatch hrow
  | succ count ih =>
    rw [Nat.succ_mul] at h
    refine List.forall_mem_cons.2 ⟨List.length_take_of_le (by omega), ih ?_⟩
    rw [List.length_drop]
    omega

theorem length_flatten_rowsWith (h : count * length ≤ data.length) :
    (rowsWith choose distance length upper count data).flatten.length = count * (1 + length) := by
  induction count generalizing upper data with
  | zero => simp [rowsWith]
  | succ count ih =>
    rw [Nat.succ_mul] at h
    have hdrop : count * length ≤ (data.drop length).length := by
      rw [List.length_drop]
      omega
    rw [rowsWith, List.flatten_cons, List.length_append, ih hdrop, List.length_cons,
      Filter.length_filtered, List.length_take_of_le (by omega), Nat.succ_mul]
    omega

/-- A row is read back with any filter, and the others follow. -/
theorem rowsFrom_cons {row rest : Bytes} (filter : Filter) (hrow : row.length = length)
    {rows : List Bytes} {more : Bytes}
    (hrows : rowsFrom distance length row.toArray count rest = .ok (rows, more)) :
    rowsFrom distance length upper (count + 1)
      (filter.number :: (filter.filtered distance upper row ++ rest)) =
      .ok (row :: rows, more) := by
  have hlength : (filter.filtered distance upper row).length = length :=
    (filter.length_filtered distance upper row).trans hrow
  have hrestored := filter.restored_filtered distance upper row
  have harray : filter.restored distance upper (filter.filtered distance upper row) =
      row.toArray := by
    rw [← hrestored, Array.toArray_toList, hrestored]
  simp only [rowsFrom, List.take_left' hlength, List.drop_left' hlength, hlength, if_true,
    Filter.ofNumber?_number, harray, hrows]
  rfl

/-- **Rows are read back,** whichever filter each of them has. -/
theorem rowsFrom_rowsWith (h : count * length ≤ data.length) (more : Bytes) :
    rowsFrom distance length upper count
      ((rowsWith choose distance length upper count data).flatten ++ more) =
      .ok (rowsOf length count data, more) := by
  induction count generalizing upper data with
  | zero => rfl
  | succ count ih =>
    rw [Nat.succ_mul] at h
    have hdrop : count * length ≤ (data.drop length).length := by
      rw [List.length_drop]
      omega
    rw [rowsWith, rowsOf, List.flatten_cons, List.append_assoc, List.cons_append]
    exact rowsFrom_cons _ (List.length_take_of_le (by omega)) (ih hdrop)

/-! ### Pixels -/

/-- A sample of eight bits is an octet. -/
theorem toOctet_toNat (b : UInt8) : toOctet 8 b.toNat = b := by
  simp [toOctet]

namespace Coloring

variable {width : Nat} {row : Bytes}

/-- With four samples of eight bits a row consists of the octets of its pixels. -/
theorem flatMap_octets_row (key : Key) (palette : Array Pixel) (h : row.length = 4 * width) :
    ((Coloring.mk .rgba 8 key palette).row width row).flatMap Pixel.octets = row := by
  have hsamples (row : Bytes) : samplesOf 8 row = row.map UInt8.toNat := rfl
  unfold Coloring.row
  dsimp only
  rw [hsamples]
  induction width generalizing row with
  | zero =>
    obtain rfl := List.length_eq_zero_iff.1 h
    rfl
  | succ width ih =>
    match row, h with
    | r :: g :: b :: a :: row, h =>
      have hrow : row.length = 4 * width := by
        simp only [List.length_cons] at h
        omega
      simp only [List.map_cons, pixels, next?, toOctet_toNat, List.flatMap_cons, ih hrow]
      rfl

end Coloring

/-- The header of an image with four samples of eight bits, row after row. -/
def rgbaHeader (width height : Nat) : Header :=
  ⟨width, height, 8, .rgba, false⟩

variable {width height : Nat}

theorem rowLength_rgbaHeader (width height width' : Nat) :
    (rgbaHeader width height).rowLength width' = 4 * width' := by
  change (width' * 32 + 7) / 8 = _
  omega

theorem filterDistance_rgbaHeader (width height : Nat) :
    (rgbaHeader width height).filterDistance = 4 := by
  simp [Header.filterDistance, Header.pixelBits, ColorType.samples, rgbaHeader]

theorem dataLength_rgbaHeader (width height : Nat) :
    dataLength (rgbaHeader width height) = height * (1 + 4 * width) := by
  rw [← rowLength_rgbaHeader width height width]
  rfl

/-- **The octets of an image are read back,** whichever filter each row has. -/
theorem plainPixels_rowsWith (choose : Array UInt8 → Bytes → Filter) (key : Key)
    (palette : Array Pixel) (h : 4 * (width * height) ≤ data.length) :
    ∃ pixels, plainPixels (rgbaHeader width height) ⟨.rgba, 8, key, palette⟩
        (rowsWith choose 4 (4 * width) #[] height data).flatten = .ok pixels ∧
      pixels.flatMap Pixel.octets = data.take (4 * (width * height)) := by
  have harea : height * (4 * width) = 4 * (width * height) := by
    rw [mul_left_comm, mul_comm height]
  rw [← harea] at h ⊢
  let coloring : Coloring := ⟨.rgba, 8, key, palette⟩
  have hrows : rowsFrom 4 (4 * width) #[] height
      ((rowsWith choose 4 (4 * width) #[] height data).flatten ++ []) = _ := rowsFrom_rowsWith h []
  rw [List.append_nil] at hrows
  refine ⟨((rowsOf (4 * width) height data).map (coloring.row width)).flatten, ?_, ?_⟩
  · rw [plainPixels, grid, rowLength_rgbaHeader, filterDistance_rgbaHeader]
    dsimp only [rgbaHeader]
    rw [hrows]
    rfl
  · have hoctets : ∀ row ∈ rowsOf (4 * width) height data,
        (coloring.row width row).flatMap Pixel.octets = row := fun row hrow =>
      Coloring.flatMap_octets_row key palette (length_of_mem_rowsOf h row hrow)
    have hall := (List.map_congr_left hoctets).trans (List.map_id' _)
    rw [← flatten_rowsOf, List.flatMap_def, List.map_flatten, List.map_map, List.flatten_flatten,
      List.map_map]
    exact congrArg List.flatten hall

end Png

end ClipExchange
