import Mathlib
import ClipExchange.Bytes.Lemmas
import ClipExchange.Png.Decode
import ClipExchange.Png.Encode
import ClipExchange.Proofs.Png.Rows
import ClipExchange.Proofs.Png.StoredBlocks
import ClipExchange.Proofs.Png.ZeroRuns

/-!
# Reading files that were written

A file of an image is read as the image again, however its rows were compressed and wherever the
compressed data was cut into chunks. If the buffer of the image is longer than its dimensions
announce, the octets beyond them are left out, and nothing else is lost.

## Main results

* `Png.Zlib.decompress_zeroRunBlock`, `Png.Zlib.decompress_storedBlocks`: the two ways of
  compression.
* `Png.Chunk.next?_written`, `Png.dataFrom_written`: the chunks of a file.
* `Png.decode_encode`: **a file is read as its image**.
-/

namespace ClipExchange

namespace Png

open BitReader (bind_of_ok bitsOf)

/-! ### Compressed data -/

namespace Zlib

variable {pieces : List Bytes} {data checked : Bytes}

/-- The header of a stream that is written. -/
theorem header_of_zlibStream {input : BitInput} {more : Bytes}
    (h : input.octets = [0x78, 0x01] ++ more) :
    ∃ input', header input = .ok ((), input') ∧ input'.pending = [] ∧ input'.octets = more := by
  obtain ⟨input', hread, hpending, hmore⟩ := BitReader.octets_of_append h
  exact ⟨input', (bind_of_ok hread).trans rfl, hpending, hmore⟩

theorem foldl_length_eq (pieces : List Bytes) (size : Nat) :
    pieces.foldl (fun size piece => size + piece.length) size = size + pieces.flatten.length := by
  induction pieces generalizing size with
  | nil => rfl
  | cons piece pieces ih =>
    rw [List.foldl_cons, ih, List.flatten_cons, List.length_append, Nat.add_assoc]

/-- Octets that are read behind the header of a stream, however it is cut into pieces. The blocks
either give them before they end, or end with the last of them. -/
theorem decompress_of_blocksFrom {blocks : Bytes}
    (hpieces : pieces.flatten = zlibStream blocks checked)
    (hblocks : ∀ input : BitInput, input.pending = [] →
      input.octets = blocks ++ Bytes.bigEndian 4 (Checksum.adler32 checked).toNat →
      ∃ stop input', (stop = .inside ∨ stop = .behind) ∧
        Deflate.blocksFrom data.length (8 * pieces.flatten.length + 1) #[] input =
          .ok ((data.toArray, stop), input')) :
    decompress data.length pieces = .ok data := by
  have hoctets : (BitInput.ofPieces pieces).octets = [0x78, 0x01] ++
      (blocks ++ Bytes.bigEndian 4 (Checksum.adler32 checked).toNat) := by
    rw [BitInput.octets_ofPieces, hpieces]
    rfl
  obtain ⟨middle, hheader, hpending, hmiddle⟩ := header_of_zlibStream hoctets
  obtain ⟨stop, input', hstop, hread⟩ := hblocks middle hpending hmiddle
  have hcontents : contents data.length (8 * pieces.flatten.length + 1)
      (BitInput.ofPieces pieces) = .ok (data.toArray, input') := by
    refine (bind_of_ok hheader).trans ((bind_of_ok hread).trans ?_)
    rcases hstop with rfl | rfl
    · rfl
    · dsimp only
      rw [if_neg (List.size_toArray ▸ Nat.lt_irrefl _)]
      rfl
  rw [decompress, foldl_length_eq, Nat.zero_add]
  change (contents data.length _ _ >>= fun p => pure p.1.toList) = _
  rw [hcontents]
  rfl

/-- **Runs of zeros:** the block of some rows gives their octets. -/
theorem decompress_zeroRunBlock {rows : List Bytes}
    (hpieces : pieces.flatten = zlibStream (Deflate.zeroRunBlock rows) checked) :
    decompress rows.flatten.length pieces = .ok rows.flatten := by
  refine decompress_of_blocksFrom hpieces fun input hpending hoctets => ?_
  obtain ⟨padding, hbits⟩ := Deflate.exists_zeroRunBlock_bits rows
  have hfuel : (rows.flatMap Deflate.rowBits).length + 1 < 8 * pieces.flatten.length + 1 := by
    have hlength := congrArg List.length hbits
    rw [length_flatMap_bitsOf, List.length_append, List.length_append] at hlength
    rw [hpieces, zlibStream]
    simp only [List.length_cons, List.length_append]
    omega
  -- The checksum behind the block is as long as what a reader may look ahead.
  have hinput : input.bits = (Deflate.zeroRunHead ++ rows.flatMap Deflate.rowBits) ++
      (padding ++ (Bytes.bigEndian 4 (Checksum.adler32 checked).toNat).flatMap bitsOf) := by
    rw [BitInput.bits, hpending, hoctets, List.nil_append, List.flatMap_append, hbits]
    simp only [List.append_assoc]
  have hmargin : BitReader.margin ≤ (padding ++
      (Bytes.bigEndian 4 (Checksum.adler32 checked).toNat).flatMap bitsOf).length := by
    rw [List.length_append, length_flatMap_bitsOf, Bytes.length_bigEndian]
    exact Nat.le_add_left _ _
  obtain ⟨input', hread, -⟩ := Deflate.reads_blocksFrom rfl hfuel input _ hinput hmargin
  exact ⟨.inside, input', .inl rfl, hread⟩

/-- **Stored octets:** the blocks of some octets give these. -/
theorem decompress_storedBlocks (hdata : data ≠ [])
    (hpieces : pieces.flatten = zlibStream (Deflate.storedBlocks data) checked) :
    decompress data.length pieces = .ok data := by
  refine decompress_of_blocksFrom hpieces fun input hpending hoctets => ?_
  have hcut : (Bytes.cut Deflate.maxStored data).flatten = data := Bytes.flatten_cut _ _
  have hfuel : (Bytes.cut Deflate.maxStored data).length ≤ 8 * pieces.flatten.length + 1 := by
    have hlength := Deflate.length_le_blocksOfPieces (Bytes.cut Deflate.maxStored data)
    rw [hpieces, zlibStream, Deflate.storedBlocks]
    simp only [List.length_cons, List.length_append]
    omega
  have hparts : ∀ piece ∈ Bytes.cut Deflate.maxStored data,
      piece ≠ [] ∧ piece.length ≤ Deflate.maxStored := fun piece hpiece =>
    ⟨Bytes.ne_nil_of_mem_cut hdata piece hpiece,
      Bytes.length_le_of_mem_cut (by decide) piece hpiece⟩
  have hwanted : ([] : Bytes).length + (Bytes.cut Deflate.maxStored data).flatten.length =
      data.length := by rw [hcut, List.length_nil, Nat.zero_add]
  obtain ⟨input', hread⟩ := Deflate.blocksFrom_blocksOfPieces (Bytes.cut_ne_nil _ _) hparts
    hpending hoctets hwanted hfuel
  rw [hcut, List.nil_append] at hread
  exact ⟨.behind, input', .inr rfl, hread⟩

end Zlib

variable {image : Image} {pieces : List Bytes}

/-- Rows of positive number hold an octet at least. -/
theorem flatten_rowsWith_ne_nil {choose : Array UInt8 → Bytes → Filter} {upper : Array UInt8}
    {distance length count : Nat} {data : Bytes} (hcount : 0 < count) :
    (rowsWith choose distance length upper count data).flatten ≠ [] := by
  obtain ⟨count, rfl⟩ : ∃ n, count = n + 1 := ⟨count - 1, by omega⟩
  exact List.cons_ne_nil _ _

/-- The compressed data of an image gives its rows, with filters that were chosen in some way. -/
theorem decompress_imageData (hheight : 0 < image.height) (harea : image.area ≤ image.rgba.length)
    (hpieces : pieces.flatten = imageData image) :
    ∃ choose, Zlib.decompress (dataLength (rgbaHeader image.width image.height)) pieces =
      .ok (rowsWith choose 4 (4 * image.width) #[] image.height image.rgba).flatten := by
  have hrows : image.height * (4 * image.width) ≤ image.rgba.length := by
    rwa [mul_left_comm, mul_comm image.height]
  rw [imageData] at hpieces
  rw [dataLength_rgbaHeader]
  split_ifs at hpieces
  · refine ⟨fun _ _ => .plain, ?_⟩
    rw [plainRows_eq_rowsWith 4 _ _ #[]] at hpieces
    rw [← length_flatten_rowsWith hrows]
    exact Zlib.decompress_storedBlocks (flatten_rowsWith_ne_nil hheight) hpieces
  · refine ⟨Filter.choose 4, ?_⟩
    rw [filteredRows_eq_rowsWith] at hpieces
    rw [← length_flatten_rowsWith hrows]
    exact Zlib.decompress_zeroRunBlock hpieces

/-! ### Chunks -/

namespace Chunk

variable {tag : Tag} {data : Bytes}

/-- A chunk is read as it was written, if its length fits in four octets. -/
theorem next?_written (htag : tag.length = 4) (hdata : data.length < 256 ^ 4) (rest : Bytes) :
    next? (written tag data ++ rest) = some (⟨tag, data, true⟩, rest) := by
  let size := Bytes.bigEndian 4 data.length
  have hsize : size.length = 4 := Bytes.length_bigEndian _ _
  have hcheck : (checksum tag data).length = 4 := Bytes.length_bigEndian _ _
  have hinput : written tag data ++ rest =
      size ++ (tag ++ (data ++ (checksum tag data ++ rest))) := by
    simp only [written, List.append_assoc, size]
  have htag' : (size ++ (tag ++ (data ++ (checksum tag data ++ rest)))).drop 4 =
      tag ++ (data ++ (checksum tag data ++ rest)) := List.drop_left' hsize
  have hdata' : (size ++ (tag ++ (data ++ (checksum tag data ++ rest)))).drop 8 =
      data ++ (checksum tag data ++ rest) := by
    rw [← List.append_assoc]
    exact List.drop_left' (by rw [List.length_append, hsize, htag])
  have hrest : (size ++ (tag ++ (data ++ (checksum tag data ++ rest)))).drop (8 + data.length) =
      checksum tag data ++ rest := by
    rw [← List.drop_drop, hdata', List.drop_left]
  have hlength : Bytes.ofBigEndian size = data.length := Bytes.ofBigEndian_bigEndian hdata
  rw [next?, hinput]
  simp only [List.take_left' hsize, hlength, htag', List.take_left' htag, hdata', List.take_left,
    hrest, List.take_left' hcheck, hcheck, List.drop_left' hcheck, and_self, if_true,
    beq_self_eq_true]

end Chunk

theorem nextTag?_written {tag : Tag} (htag : tag.length = 4) (data rest : Bytes) :
    nextTag? (Chunk.written tag data ++ rest) = some tag := by
  have hlength : (Bytes.bigEndian 4 data.length).length = 4 := Bytes.length_bigEndian _ _
  rw [nextTag?, Chunk.written, List.append_assoc, List.append_assoc, List.drop_left' hlength,
    List.take_left' htag, if_pos htag]

/-- Nothing stands between the header and the image data. -/
theorem preambleFrom_written {fuel : Nat} (hfuel : 0 < fuel) (hpieces : pieces ≠ [])
    (preamble : Preamble) :
    preambleFrom fuel preamble
      ((pieces.map (Chunk.written Tag.data)).flatten ++ Chunk.written Tag.finish []) =
      .ok (preamble, Tag.data,
        (pieces.map (Chunk.written Tag.data)).flatten ++ Chunk.written Tag.finish []) := by
  obtain ⟨fuel, rfl⟩ : ∃ n, fuel = n + 1 := ⟨fuel - 1, by omega⟩
  obtain ⟨piece, pieces, rfl⟩ := List.exists_cons_of_ne_nil hpieces
  rw [List.map_cons, List.flatten_cons, List.append_assoc, preambleFrom, nextTag?_written rfl,
    if_pos rfl]

/-- The run of data chunks is read up to the chunk that ends the file. -/
theorem dataFrom_written {fuel : Nat} (hfuel : pieces.length < fuel)
    (hpieces : ∀ piece ∈ pieces, piece.length < 256 ^ 4) (number : Nat) (done : List Bytes) :
    dataFrom Tag.data fuel number done
      ((pieces.map (Chunk.written Tag.data)).flatten ++ Chunk.written Tag.finish []) =
      .ok (done.reverse ++ pieces) := by
  induction pieces generalizing fuel number done with
  | nil =>
    obtain ⟨fuel, rfl⟩ : ∃ n, fuel = n + 1 := ⟨fuel - 1, by omega⟩
    have hnext : nextTag? (Chunk.written Tag.finish []) = some Tag.finish := by
      rw [← List.append_nil (Chunk.written _ _), nextTag?_written rfl]
    rw [List.map_nil, List.flatten_nil, List.nil_append, dataFrom, hnext, List.append_nil]
    rfl
  | cons piece pieces ih =>
    obtain ⟨hpiece, hpieces⟩ := List.forall_mem_cons.1 hpieces
    obtain ⟨fuel, rfl⟩ : ∃ n, fuel = n + 1 := ⟨fuel - 1, by omega⟩
    rw [List.map_cons, List.flatten_cons, List.append_assoc, dataFrom, nextTag?_written rfl,
      Chunk.next?_written rfl hpiece]
    refine (ih (Nat.lt_of_succ_lt_succ hfuel) hpieces (number + 1) (piece :: done)).trans ?_
    rw [List.reverse_cons, List.append_assoc, List.singleton_append]

/-! ### Whole files -/

variable {width height : Nat}

theorem isDimension_iff {n : Nat} : isDimension n ↔ 0 < n ∧ n < 256 ^ 4 := by
  rw [isDimension, Bool.and_eq_true, decide_eq_true_eq, decide_eq_true_eq]
  norm_num

/-- An image has a file if its dimensions can be written and its buffer is long enough. -/
theorem encode?_eq_some_iff {file : Bytes} :
    encode? image = some file ↔
      (isDimension image.width ∧ isDimension image.height ∧ image.area ≤ image.rgba.length) ∧
        encode image = file := by
  rw [encode?, Option.ite_none_right_eq_some, Option.some.injEq]

/-- The header of a file. -/
theorem ofBytes?_written (hwidth : isDimension width) (hheight : isDimension height) :
    Header.ofBytes? (Header.written width height) = some (rgbaHeader width height) := by
  rw [isDimension_iff] at hwidth hheight
  have hfirst : (Bytes.bigEndian 4 width).length = 4 := Bytes.length_bigEndian _ _
  have hsecond : (Bytes.bigEndian 4 height).length = 4 := Bytes.length_bigEndian _ _
  have hrest : (Header.written width height).drop 8 = [8, 6, 0, 0, 0] := by
    rw [Header.written, ← List.append_assoc]
    exact List.drop_left' (by rw [List.length_append, hfirst, hsecond])
  rw [Header.ofBytes?, hrest]
  simp only [Header.written, List.take_left' hfirst, List.drop_left' hfirst,
    List.take_left' hsecond, Bytes.ofBigEndian_bigEndian hwidth.2,
    Bytes.ofBigEndian_bigEndian hheight.2]
  simp [Header.make?, ColorType.ofNat?, ColorType.depths, hwidth.1, hheight.1, rgbaHeader]

theorem start_written (hwidth : isDimension width) (hheight : isDimension height) (rest : Bytes) :
    start (signature ++ (Chunk.written Tag.header (Header.written width height) ++ rest)) =
      .ok (rgbaHeader width height, rest) := by
  have hlength : (Header.written width height).length < 256 ^ 4 := by
    simp [Header.written]
  rw [start, List.take_left, if_pos rfl, List.drop_left, Chunk.next?_written rfl hlength]
  simp only [if_true, ofBytes?_written hwidth hheight]

/-- A chunk has an octet at least. -/
theorem length_cut_lt_length_encode (image : Image) :
    (Bytes.cut maxChunk (imageData image)).length < (encode image).length := by
  let chunks := (Bytes.cut maxChunk (imageData image)).map (Chunk.written Tag.data)
  have hchunks : chunks.length ≤ chunks.flatten.length :=
    Bytes.length_le_length_flatten fun chunk hchunk => by
      obtain ⟨piece, -, rfl⟩ := List.mem_map.1 hchunk
      exact List.cons_ne_nil _ _
  have hencode : encode image = signature ++ (Chunk.written Tag.header
      (Header.written image.width image.height) ++
        (chunks.flatten ++ Chunk.written Tag.finish [])) := rfl
  have hsignature : 0 < signature.length := by decide
  rw [List.length_map] at hchunks
  rw [hencode]
  simp only [List.length_append]
  omega

/-- The image of a file is put together from what is read of it, part by part. -/
theorem decode_of_parts {file rest others data : Bytes} {header : Header} {preamble : Preamble}
    {tag : Tag} {coloring : Coloring} {ps : List Pixel} (hstart : start file = .ok (header, rest))
    (hpreamble : preambleFrom file.length (Preamble.ofHeader header) rest =
      .ok (preamble, tag, others))
    (hcoloring : preamble.coloring = .ok coloring)
    (hdata : dataFrom tag file.length preamble.frames [] others = .ok pieces)
    (hdecompress : Zlib.decompress (dataLength header) pieces = .ok data)
    (hpixels : pixels header coloring data = .ok ps) :
    decode file = .ok ⟨header.width, header.height, ps.flatMap Pixel.octets⟩ := by
  simp only [decode, hstart, hpreamble, hcoloring, hdata, hdecompress, hpixels, bind, Except.bind]
  rfl

/-- **A file is read as its image.** The octets that the buffer holds beyond the dimensions of the
image are left out. -/
theorem decode_encode {file : Bytes} (h : encode? image = some file) :
    decode file = .ok { image with rgba := image.rgba.take image.area } := by
  obtain ⟨⟨hwidth, hheight, harea⟩, rfl⟩ := encode?_eq_some_iff.1 h
  have hpieces : ∀ piece ∈ Bytes.cut maxChunk (imageData image), piece.length < 256 ^ 4 :=
    fun piece hpiece =>
      (Bytes.length_le_of_mem_cut (by decide) piece hpiece).trans_lt (by decide)
  have hfuel := length_cut_lt_length_encode image
  have hstart : start (encode image) = .ok (rgbaHeader image.width image.height, _) :=
    start_written hwidth hheight _
  have hpreamble := preambleFrom_written (Nat.zero_lt_of_lt hfuel)
    (Bytes.cut_ne_nil maxChunk (imageData image))
    (Preamble.ofHeader (rgbaHeader image.width image.height))
  have hdata := dataFrom_written hfuel hpieces 0 []
  rw [List.reverse_nil, List.nil_append] at hdata
  obtain ⟨choose, hdecompress⟩ :=
    decompress_imageData (isDimension_iff.1 hheight).1 harea (Bytes.flatten_cut maxChunk _)
  obtain ⟨ps, hplain, hps⟩ := plainPixels_rowsWith choose .nothing #[] harea
  have hpixels : pixels (rgbaHeader image.width image.height) ⟨.rgba, 8, .nothing, #[]⟩
      (rowsWith choose 4 (4 * image.width) #[] image.height image.rgba).flatten = .ok ps :=
    (if_neg Bool.false_ne_true).trans hplain
  rw [decode_of_parts hstart hpreamble rfl hdata hdecompress hpixels, hps]
  rfl

end Png

end ClipExchange
