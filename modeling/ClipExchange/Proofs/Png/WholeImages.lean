import Mathlib
import ClipExchange.Bytes.Lemmas
import ClipExchange.Png.Decode
import ClipExchange.Proofs.Png.Files

/-!
# Images that were read

Whatever a file holds, the image that is read from it is whole: its dimensions are positive and can
be written, and its buffer holds exactly the pixels that they announce. A row gives one pixel for
each column, as it has as many samples as these take, and rows in passes only replace pixels of an
image that is whole. So an image that was read has a file of its own, from which it is read again.

## Main definitions

* `Png.Header.IsSound`: the dimensions can be written, and the depth is one of the colour type's.

## Main results

* `Png.le_length_samplesOf`, `Png.Coloring.length_pixels`: a row gives one pixel for each column.
* `Png.length_of_pixels`: the pixels of an image.
* `Png.isWhole_of_decode`: **an image that was read is whole**.
* `Png.exists_encode?_of_decode`: it is read again from a file of its own.
-/

namespace ClipExchange

namespace Png

theorem exists_of_bind_ok {ε α β : Type} {x : Except ε α} {f : α → Except ε β} {y : β}
    (h : (x >>= f) = .ok y) : ∃ a, x = .ok a ∧ f a = .ok y := by
  cases x with
  | error e => cases h
  | ok a => exact ⟨a, rfl, h⟩

/-! ### The header -/

/-- The dimensions can be written, and the depth is one of the colour type's. -/
structure Header.IsSound (header : Header) : Prop where
  width : isDimension header.width
  height : isDimension header.height
  depth : header.depth ∈ header.color.depths

variable {header : Header} {preamble preamble' : Preamble} {data : Bytes}

theorem ofBigEndian_take_lt (data : Bytes) : Bytes.ofBigEndian (data.take 4) < 256 ^ 4 := by
  refine (Bytes.ofLittleEndian_lt _).trans_le (Nat.pow_le_pow_right (by decide) ?_)
  rw [List.length_reverse]
  exact List.length_take_le _ _

theorem Header.isSound_of_ofBytes? (h : Header.ofBytes? data = some header) :
    header.IsSound := by
  unfold Header.ofBytes? at h
  split at h
  · simp only [Header.make?, Option.bind_eq_bind, Option.bind_eq_some_iff,
      Option.ite_none_right_eq_some, Option.some.injEq] at h
    obtain ⟨color, -, ⟨hwidth, hheight, hdepth, -⟩, rfl⟩ := h
    exact ⟨isDimension_iff.2 ⟨hwidth, ofBigEndian_take_lt _⟩,
      isDimension_iff.2 ⟨hheight, ofBigEndian_take_lt _⟩, hdepth⟩
  · cases h

theorem isSound_of_start {file rest : Bytes} (h : start file = .ok (header, rest)) :
    header.IsSound := by
  unfold start at h
  split_ifs at h
  split at h
  · cases h
  · split_ifs at h
    split at h
    · rename_i hheader
      cases h
      exact Header.isSound_of_ofBytes? hheader
    · cases h

namespace Preamble

theorem header_addKey (preamble : Preamble) (data : Bytes) :
    (preamble.addKey data).header = preamble.header := by
  unfold addKey
  split_ifs <;> rfl

theorem header_of_addPalette (h : preamble.addPalette data = .ok preamble') :
    preamble'.header = preamble.header := by
  unfold addPalette at h
  split_ifs at h
  cases h
  rfl

theorem header_of_addColorSpace (h : preamble.addColorSpace data = .ok preamble') :
    preamble'.header = preamble.header := by
  unfold addColorSpace at h
  split at h
  · split_ifs at h <;> cases h <;> rfl
  · cases h
    rfl

theorem header_of_addFrame (h : preamble.addFrame data = .ok preamble') :
    preamble'.header = preamble.header := by
  unfold addFrame at h
  split at h
  · split_ifs at h
    cases h
    rfl
  · cases h

theorem header_of_addCritical {chunk : Chunk} (h : preamble.addCritical chunk = .ok preamble') :
    preamble'.header = preamble.header := by
  unfold addCritical at h
  split_ifs at h
  exact header_of_addPalette h

theorem eq_of_checkBackground {chunk : Chunk}
    (h : (do preamble.checkBackground chunk.data; return preamble) = Except.ok preamble') :
    preamble' = preamble := by
  obtain ⟨_, -, h⟩ := exists_of_bind_ok h
  cases h
  rfl

/-- No chunk changes the header. -/
theorem header_of_add {chunk : Chunk} (h : preamble.add chunk = .ok preamble') :
    preamble'.header = preamble.header := by
  unfold add at h
  split_ifs at h
  · exact header_of_addCritical h
  · cases h
    rfl
  · exact header_of_addFrame h
  · cases h
    exact header_addKey _ _
  · exact header_of_addColorSpace h
  · exact congrArg Preamble.header (eq_of_checkBackground h)
  · cases h
    rfl

/-- The pixels are made of the samples that the header tells. -/
theorem eq_of_coloring {coloring : Coloring} (h : preamble.coloring = .ok coloring) :
    coloring.color = preamble.header.color ∧ coloring.depth = preamble.header.depth := by
  unfold Preamble.coloring at h
  dsimp only at h
  split at h <;> cases h <;> exact ⟨rfl, rfl⟩

end Preamble

theorem header_of_preambleFrom {fuel : Nat} {input rest : Bytes} {tag : Tag}
    (h : preambleFrom fuel preamble input = .ok (preamble', tag, rest)) :
    preamble'.header = preamble.header := by
  induction fuel generalizing preamble input with
  | zero => cases h
  | succ fuel ih =>
    rw [preambleFrom] at h
    split_ifs at h
    · cases h
      rfl
    · cases h
      rfl
    · cases hchunk : Chunk.next? input with
      | none =>
        rw [hchunk] at h
        cases h
      | some p =>
        rw [hchunk] at h
        obtain ⟨added, hadd, h⟩ := exists_of_bind_ok h
        exact (ih h).trans (Preamble.header_of_add hadd)

/-! ### Rows and pixels -/

namespace Coloring

variable {coloring : Coloring} {samples : List Nat}

/-- A pixel takes as many samples as its colour type says. -/
theorem exists_next? (h : coloring.color.samples ≤ samples.length) :
    ∃ pixel, coloring.next? samples = some (pixel, samples.drop coloring.color.samples) := by
  obtain ⟨color, depth, key, palette⟩ := coloring
  cases color with
  | gray =>
    match samples, h with
    | _ :: _, _ => exact ⟨_, rfl⟩
  | indexed =>
    match samples, h with
    | _ :: _, _ => exact ⟨_, rfl⟩
  | grayAlpha =>
    match samples, h with
    | _ :: _ :: _, _ => exact ⟨_, rfl⟩
  | rgb =>
    match samples, h with
    | _ :: _ :: _ :: _, _ => exact ⟨_, rfl⟩
  | rgba =>
    match samples, h with
    | _ :: _ :: _ :: _ :: _, _ => exact ⟨_, rfl⟩

theorem length_pixels {count : Nat} (h : count * coloring.color.samples ≤ samples.length) :
    (coloring.pixels count samples).length = count := by
  induction count generalizing samples with
  | zero => rfl
  | succ count ih =>
    rw [Nat.succ_mul] at h
    obtain ⟨pixel, hnext⟩ := exists_next? (Nat.le_of_add_left_le h)
    have hrest : count * coloring.color.samples ≤
        (samples.drop coloring.color.samples).length := by
      rw [List.length_drop]
      omega
    rw [pixels, hnext, List.length_cons, ih hrest]

end Coloring

theorem length_wideSamples (row : Bytes) : (wideSamples row).length = row.length / 2 := by
  fun_induction wideSamples row with
  | case1 high low rest ih =>
    rw [List.length_cons, ih, List.length_cons, List.length_cons]
    omega
  | case2 row h =>
    match row, h with
    | [], _ => rfl
    | [_], _ => simp
    | high :: low :: rest, h => exact absurd rfl (h high low rest)

/-- An octet holds as many narrow samples as fit in it. -/
theorem length_samplesOf_narrow {depth : Nat} (hwide : depth ≠ 16) (height : depth ≠ 8)
    (row : Bytes) : (samplesOf depth row).length = row.length * (8 / depth) := by
  simp [samplesOf, hwide, height, List.length_flatMap, narrowSamples]

theorem mem_depths {depth : Nat} {color : ColorType} (h : depth ∈ color.depths) :
    depth ∈ [1, 2, 4, 8, 16] := by
  cases color <;> simp only [ColorType.depths, List.mem_cons, List.not_mem_nil, or_false] at h ⊢ <;>
    omega

/-- A row has enough samples for its pixels. -/
theorem le_length_samplesOf (hdepth : header.depth ∈ header.color.depths) {width : Nat}
    {row : Bytes} (hrow : row.length = header.rowLength width) :
    width * header.color.samples ≤ (samplesOf header.depth row).length := by
  have hbits : width * header.pixelBits = header.depth * (width * header.color.samples) := by
    rw [Header.pixelBits, Nat.mul_left_comm]
  rw [Header.rowLength, hbits] at hrow
  have hdepths := mem_depths hdepth
  generalize header.depth = depth at hdepths hrow ⊢
  simp only [List.mem_cons, List.not_mem_nil, or_false] at hdepths
  rcases hdepths with rfl | rfl | rfl | rfl | rfl
  · rw [length_samplesOf_narrow (by decide) (by decide)]
    omega
  · rw [length_samplesOf_narrow (by decide) (by decide)]
    omega
  · rw [length_samplesOf_narrow (by decide) (by decide)]
    omega
  · change _ ≤ (row.map UInt8.toNat).length
    rw [List.length_map]
    omega
  · change _ ≤ (wideSamples row).length
    rw [length_wideSamples]
    omega

theorem size_restoreFrom (filter : Filter) (distance : Nat) (upper done : Array UInt8)
    (row : Bytes) :
    (filter.restoreFrom distance upper done row).size = done.size + row.length := by
  induction row generalizing done with
  | nil => rfl
  | cons b rest ih =>
    rw [Filter.restoreFrom, ih, Array.size_push, List.length_cons]
    omega

/-- As many rows are read as were asked for, and each is as long as it was meant to be. -/
theorem length_of_rowsFrom {distance length count : Nat} {upper : Array UInt8} {rest : Bytes}
    {rows : List Bytes} (h : rowsFrom distance length upper count data = .ok (rows, rest)) :
    rows.length = count ∧ ∀ row ∈ rows, row.length = length := by
  induction count generalizing upper data rows with
  | zero =>
    cases h
    exact ⟨rfl, nofun⟩
  | succ count ih =>
    unfold rowsFrom at h
    split at h
    · cases h
    · dsimp only at h
      split_ifs at h with hlength
      split at h
      · cases h
      · rename_i number octets _ filter _
        obtain ⟨⟨others, behind⟩, hothers, h⟩ := exists_of_bind_ok h
        cases h
        obtain ⟨hcount, hall⟩ := ih hothers
        refine ⟨congrArg (· + 1) hcount, List.forall_mem_cons.2 ⟨?_, hall⟩⟩
        rw [Filter.restored, Array.length_toList, size_restoreFrom, hlength]
        exact Nat.zero_add _

theorem length_flatten_of_forall {α : Type} {lists : List (List α)} {length : Nat}
    (h : ∀ list ∈ lists, list.length = length) :
    lists.flatten.length = lists.length * length := by
  rw [List.length_flatten, List.map_congr_left h, List.map_const', List.sum_replicate, smul_eq_mul]

variable {coloring : Coloring} {width height : Nat}

/-- The pixels of some rows have one for each place. -/
theorem length_of_grid (hdepth : header.depth ∈ header.color.depths)
    (hcolor : coloring.color = header.color) (hcoloring : coloring.depth = header.depth)
    {rows : List (List Pixel)} {rest : Bytes}
    (h : grid header coloring width height data = .ok (rows, rest)) :
    rows.length = height ∧ ∀ row ∈ rows, row.length = width := by
  obtain ⟨⟨octets, behind⟩, hoctets, h⟩ := exists_of_bind_ok h
  cases h
  obtain ⟨hcount, hall⟩ := length_of_rowsFrom hoctets
  refine ⟨by rw [List.length_map, hcount], List.forall_mem_map.2 fun row hrow => ?_⟩
  refine Coloring.length_pixels ?_
  rw [hcolor, hcoloring]
  exact le_length_samplesOf hdepth (hall row hrow)

theorem length_of_plainPixels (hdepth : header.depth ∈ header.color.depths)
    (hcolor : coloring.color = header.color) (hcoloring : coloring.depth = header.depth)
    {ps : List Pixel} (h : plainPixels header coloring data = .ok ps) :
    ps.length = header.width * header.height := by
  unfold plainPixels at h
  cases hgrid : grid header coloring header.width header.height data with
  | error fault =>
    rw [hgrid] at h
    cases h
  | ok p =>
    obtain ⟨rows, rest⟩ := p
    rw [hgrid] at h
    cases h
    obtain ⟨hcount, hall⟩ := length_of_grid hdepth hcolor hcoloring hgrid
    rw [length_flatten_of_forall hall, hcount, Nat.mul_comm]

/-- Pixels that are placed replace others. -/
theorem size_foldl_setIfInBounds (placed : List (Nat × Pixel)) (image : Array Pixel) :
    (placed.foldl (fun image (i, pixel) => image.setIfInBounds i pixel) image).size =
      image.size := by
  induction placed generalizing image with
  | nil => rfl
  | cons p placed ih => rw [List.foldl_cons, ih, Array.size_setIfInBounds]

theorem length_of_passedPixels {ps : List Pixel}
    (h : passedPixels header coloring data = .ok ps) :
    ps.length = header.width * header.height := by
  obtain ⟨placed, -, h⟩ := exists_of_bind_ok h
  cases h
  rw [Array.length_toList, size_foldl_setIfInBounds, Array.size_replicate]

theorem length_of_pixels (hdepth : header.depth ∈ header.color.depths)
    (hcolor : coloring.color = header.color) (hcoloring : coloring.depth = header.depth)
    {ps : List Pixel} (h : pixels header coloring data = .ok ps) :
    ps.length = header.width * header.height := by
  unfold pixels at h
  split_ifs at h
  · exact length_of_passedPixels h
  · exact length_of_plainPixels hdepth hcolor hcoloring h

/-! ### Images -/

theorem length_flatMap_octets (ps : List Pixel) :
    (ps.flatMap Pixel.octets).length = 4 * ps.length := by
  have hlength : ∀ octets ∈ ps.map Pixel.octets, octets.length = 4 :=
    List.forall_mem_map.2 fun _ _ => rfl
  rw [List.flatMap_def, length_flatten_of_forall hlength, List.length_map, Nat.mul_comm]

/-- **An image that was read is whole,** and its dimensions can be written. -/
theorem isWhole_of_decode {file : Bytes} {image : Image} (h : decode file = .ok image) :
    image.IsWhole ∧ isDimension image.width ∧ isDimension image.height := by
  obtain ⟨⟨header, rest⟩, hstart, h⟩ := exists_of_bind_ok h
  obtain ⟨⟨preamble, tag, rest⟩, hpreamble, h⟩ := exists_of_bind_ok h
  obtain ⟨coloring, hcoloring, h⟩ := exists_of_bind_ok h
  obtain ⟨pieces, -, h⟩ := exists_of_bind_ok h
  obtain ⟨data, -, h⟩ := exists_of_bind_ok h
  obtain ⟨ps, hpixels, h⟩ := exists_of_bind_ok h
  cases h
  have hheader := isSound_of_start hstart
  obtain ⟨hcolor, hdepth⟩ := Preamble.eq_of_coloring hcoloring
  rw [header_of_preambleFrom hpreamble] at hcolor hdepth
  refine ⟨?_, hheader.width, hheader.height⟩
  change (ps.flatMap Pixel.octets).length = 4 * (header.width * header.height)
  rw [length_flatMap_octets, length_of_pixels hheader.depth hcolor hdepth hpixels]

/-- An image that was read has a file of its own, from which it is read again. -/
theorem exists_encode?_of_decode {file : Bytes} {image : Image} (h : decode file = .ok image) :
    ∃ file', encode? image = some file' ∧ decode file' = .ok image := by
  obtain ⟨hwhole, hwidth, hheight⟩ := isWhole_of_decode h
  have hencode := encode?_eq_some_iff.2 ⟨⟨hwidth, hheight, hwhole.ge⟩, rfl⟩
  refine ⟨encode image, hencode, ?_⟩
  rw [decode_encode hencode, List.take_of_length_le hwhole.le]

end Png

end ClipExchange
