import Mathlib
import ClipExchange.Png.ZeroRuns
import ClipExchange.Proofs.Png.CodedBlocks

/-!
# Rows in runs of zeros

The pieces of a row, octets and runs of zeros, spell the row, and no run is empty. The bits of a
piece append its octets to what was read before: a run is one zero and copies of the octet behind
which they stand. The bits at the front of a block describe the codes of these pieces. So the block
that is written for some rows is read as their octets.

## Main definitions

* `Png.Deflate.Piece.octets`: the octets of a piece.
* `Png.Deflate.Spells`: pieces spell octets.

## Main results

* `Png.Deflate.spells_piecesOf`: the pieces of a row spell it.
* `Png.Deflate.reads_describedCodes`: the codes that are described at the front of a block.
* `Png.Deflate.appends_pieces`: the bits of pieces append the octets that they spell.
* `Png.Deflate.exists_zeroRunBlock_bits`, `Png.Deflate.reads_blocksFrom`: the block of some rows,
  and what is read from it.
-/

namespace ClipExchange

namespace Png

namespace Deflate

open BitReader

/-! ### The pieces of a row -/

/-- The octets of a piece. -/
def Piece.octets : Piece → Bytes
  | octet b => [b]
  | zeros count => List.replicate count 0

/-- Pieces spell octets, and no run of zeros among them is empty. -/
structure Spells (pieces : Array Piece) (data : Bytes) : Prop where
  octets_eq : pieces.toList.flatMap Piece.octets = data
  ne_zeros : ∀ piece ∈ pieces, piece ≠ .zeros 0

namespace Spells

variable {pieces : Array Piece} {data : Bytes}

theorem empty : Spells #[] [] :=
  ⟨rfl, nofun⟩

theorem push (h : Spells pieces data) {piece : Piece} (hne : piece ≠ .zeros 0) :
    Spells (pieces.push piece) (data ++ piece.octets) where
  octets_eq := by simp [h.octets_eq]
  ne_zeros other hother := by
    rcases Array.mem_push.1 hother with hother | rfl
    · exact h.ne_zeros other hother
    · exact hne

theorem addZeros (h : Spells pieces data) (count : Nat) :
    Spells (Piece.addZeros pieces count) (data ++ List.replicate count 0) := by
  unfold Piece.addZeros
  split_ifs with hcount
  · simpa [hcount] using h
  · exact h.push fun hzeros => hcount (Piece.zeros.inj hzeros)

theorem addOctets (h : Spells pieces data) (more : Bytes) :
    Spells (Piece.addOctets pieces more) (data ++ more) := by
  induction more generalizing pieces data with
  | nil => simpa [Piece.addOctets] using h
  | cons b more ih =>
    have hpush : Spells (pieces.push (.octet b)) (data ++ [b]) := h.push nofun
    have hmore := ih hpush
    rw [List.append_assoc, List.singleton_append] at hmore
    exact hmore

end Spells

/-- Zeros at the front are a run. -/
theorem replicate_append_drop (data : Bytes) :
    List.replicate (data.takeWhile (· == 0)).length 0 ++
      data.drop (data.takeWhile (· == 0)).length = data := by
  have hzeros : data.takeWhile (· == 0) = List.replicate (data.takeWhile (· == 0)).length 0 :=
    List.eq_replicate_iff.2 ⟨rfl, fun b hb => by
      simpa using List.mem_takeWhile_imp (p := (· == (0 : UInt8))) hb⟩
  have hprefix := List.takeWhile_prefix (l := data) (· == (0 : UInt8))
  rw [← hzeros]
  exact List.prefix_iff_eq_append.1 hprefix

/-- Zeros at the end are a run. -/
theorem take_append_replicate (data : Bytes) :
    data.take (data.length - (data.reverse.takeWhile (· == 0)).length) ++
      List.replicate (data.reverse.takeWhile (· == 0)).length 0 = data := by
  have hreverse := congrArg List.reverse (replicate_append_drop data.reverse)
  rwa [List.reverse_append, List.reverse_replicate, List.reverse_reverse, List.drop_reverse,
    List.reverse_reverse] at hreverse

/-- Behind an open run of zeros, a group of octets is spelled up to the run that is open then. -/
theorem Spells.addGroup {pieces : Array Piece} {data : Bytes} (h : Spells pieces data) (run : Nat)
    (group : Bytes) :
    ∃ data', Spells (Piece.addGroup pieces run group).1 data' ∧
      data' ++ List.replicate (Piece.addGroup pieces run group).2 0 =
        data ++ (List.replicate run 0 ++ group) := by
  unfold Piece.addGroup
  by_cases hzeros : group.all (· == 0)
  · have hgroup : group = List.replicate group.length 0 :=
      List.eq_replicate_iff.2 ⟨rfl, fun b hb => eq_of_beq (List.all_eq_true.1 hzeros b hb)⟩
    rw [if_pos hzeros]
    refine ⟨data, h, ?_⟩
    conv_rhs => rw [hgroup]
    rw [List.replicate_append_replicate]
  · rw [if_neg hzeros]
    -- Without an open run, zeros at the front of the group begin none.
    obtain ⟨lead, hlead, hgroup⟩ : ∃ lead : Bytes,
        (if run = 0 then [] else group.takeWhile (· == 0)) = lead ∧
          List.replicate lead.length 0 ++ group.drop lead.length = group := by
      refine ⟨_, rfl, ?_⟩
      split_ifs
      · rfl
      · exact replicate_append_drop group
    simp only [hlead]
    refine ⟨_, (h.addZeros _).addOctets _, ?_⟩
    rw [List.append_assoc, take_append_replicate, List.append_assoc,
      ← List.replicate_append_replicate, List.append_assoc, hgroup]

theorem Spells.addRow {pieces : Array Piece} {data : Bytes} (h : Spells pieces data) (run : Nat)
    (row : Bytes) :
    Spells (Piece.addRow pieces run row) (data ++ (List.replicate run 0 ++ row)) := by
  fun_induction Piece.addRow pieces run row generalizing data with
  | case1 pieces run a b c d e f g i rest pieces' run' hgroup ih =>
    obtain ⟨data', hspells, hdata'⟩ := h.addGroup run [a, b, c, d, e, f, g, i]
    rw [hgroup] at hspells hdata'
    have hrest := ih hspells
    rw [← List.append_assoc, hdata'] at hrest
    simpa using hrest
  | case2 pieces run rest =>
    rw [← List.append_assoc]
    exact (h.addZeros run).addOctets rest

/-- The pieces of a row spell it. -/
theorem spells_piecesOf (row : Bytes) : Spells (piecesOf row) row :=
  Spells.empty.addRow 0 row

/-! ### The codes -/

/-- The bits behind the head of the block describe the codes. -/
theorem reads_describedCodes : describedCodes.Reads (zeroRunHead.drop 3) zeroRunCodes := by
  let padding : Bytes := [0, 0, 0, 0]
  have hcodes : ((describedCodes ⟨zeroRunHead.drop 3, padding, []⟩).toOption.map fun result =>
      (result.1.literals, result.1.distances, result.2)) =
      some (zeroRunCodes.literals, zeroRunCodes.distances, ⟨[], padding, []⟩) := by
    decide +kernel
  cases hread : describedCodes ⟨zeroRunHead.drop 3, padding, []⟩ with
  | error fault =>
    rw [hread] at hcodes
    cases hcodes
  | ok result =>
    obtain ⟨⟨literals, distances⟩, input⟩ := result
    rw [hread] at hcodes
    obtain ⟨rfl, rfl, rfl⟩ : literals = zeroRunCodes.literals ∧
        distances = zeroRunCodes.distances ∧ input = ⟨[], padding, []⟩ := by
      simpa [Except.toOption] using hcodes
    obtain ⟨bits, hbits, hreads⟩ := sequential_describedCodes _ _ _ hread
    rw [BitInput.bits_mk, BitInput.bits_mk, List.nil_append] at hbits
    rwa [List.append_cancel_right hbits]

/-- The lengths of the words of all literal symbols. -/
def literalLengths : List Nat :=
  zeroRunLengths.flatMap fun (count, length) => List.replicate count length

theorem exists_literalLength {symbol : Nat} (h : symbol < 286) :
    ∃ length, literalLengths[symbol]? = some length ∧ 0 < length ∧ length ≤ Huffman.maxLength := by
  have hcount : literalLengths.length = 286 := by decide +kernel
  have hrange : ∀ length ∈ literalLengths, 0 < length ∧ length ≤ Huffman.maxLength := by
    decide +kernel
  have hsymbol : symbol < literalLengths.length := hcount ▸ h
  exact ⟨literalLengths[symbol], List.getElem?_eq_getElem hsymbol,
    hrange _ (List.getElem_mem hsymbol)⟩

/-- Every literal symbol is read from its word. -/
theorem reads_symbolBits {symbol : Nat} (h : symbol < 286) :
    zeroRunCodes.literals.symbol.Reads (symbolBits symbol) symbol ∧ symbolBits symbol ≠ [] := by
  obtain ⟨length, hlength, hpos, hmax⟩ := exists_literalLength h
  have hfits : (Huffman.ofLengths literalLengths).Fits := by decide +kernel
  have hword : symbolBits symbol = (Huffman.ofLengths literalLengths).word symbol := by
    simp [symbolBits, zeroRunWords, h]
    rfl
  rw [hword]
  exact Huffman.reads_word hfits hlength hpos hmax

/-- The distance one is read from its word. -/
theorem reads_distanceOne : zeroRunCodes.distances.symbol.Reads distanceOne 0 := by
  have hfits : (Huffman.ofLengths [1]).Fits := by decide +kernel
  have hlength : [1][0]? = some 1 := rfl
  exact (Huffman.reads_word hfits hlength Nat.one_pos (by decide)).1

/-- The bits of a copy are a length symbol, the extra bits of the length, and the distance. -/
theorem exists_copyBits {length : Nat} (hmin : 3 ≤ length) (hmax : length ≤ maxCopy) :
    ∃ symbol base extra, lengthSymbols[symbol]? = some (base, extra) ∧ base ≤ length ∧
      length - base < 2 ^ extra ∧
      copyBits length =
        symbolBits (257 + symbol) ++ (fieldBits extra (length - base) ++ distanceOne) := by
  have htable : ∀ length < 259, 3 ≤ length → ∃ entry ∈ lengthSymbols.toList.zipIdx,
      (lengthSymbols.toList.zipIdx.filter fun entry => entry.1.1 ≤ length).getLast? =
        some entry ∧ entry.1.1 ≤ length ∧ length - entry.1.1 < 2 ^ entry.1.2 := by
    decide +kernel
  obtain ⟨⟨⟨base, extra⟩, symbol⟩, hmem, hlast, hbase, hextra⟩ :=
    htable length (Nat.lt_succ_of_le hmax) hmin
  refine ⟨symbol, base, extra, ?_, hbase, hextra, ?_⟩
  · simpa using List.mk_mem_zipIdx_iff_getElem?.1 hmem
  · unfold copyBits
    dsimp only
    split
    case h_1 hfound =>
      cases hfound.symm.trans hlast
      rfl
    case h_2 hfound => cases hfound.symm.trans hlast

/-! ### What the bits of pieces append -/

variable {wanted : Nat} {data : Bytes}

theorem appends_symbolBits (b : UInt8) (hroom : data.length < wanted) :
    Appends zeroRunCodes wanted data (symbolBits b.toNat) [b] := by
  obtain ⟨hread, hne⟩ := reads_symbolBits (b.toNat_lt.trans (by decide : 256 < 286))
  exact appends_octet hroom hne hread

/-- A copy from right behind a zero consists of zeros. -/
theorem copy_zeros (h : data.getLast? = some 0) (count : Nat) :
    copy data.toArray 1 count = (data ++ List.replicate count 0).toArray := by
  induction count generalizing data with
  | zero => simp [copy]
  | succ count ih =>
    have hlast : data.toArray.getD (data.toArray.size - 1) 0 = 0 := by
      rw [List.getLast?_eq_getElem?] at h
      simp [h]
    rw [copy, hlast, List.push_toArray, ih (by simp), List.append_assoc]
    rfl

theorem appends_copyBits {count : Nat} (hlast : data.getLast? = some 0) (hmin : 3 ≤ count)
    (hmax : count ≤ maxCopy) (hroom : data.length + count ≤ wanted) :
    Appends zeroRunCodes wanted data (copyBits count) (List.replicate count 0) := by
  obtain ⟨symbol, base, extra, hsymbol, hbase, hextra, hbits⟩ := exists_copyBits hmin hmax
  have hrange : symbol < 29 := by
    by_contra hsize
    rw [Array.getElem?_eq_none (by simpa [lengthSymbols] using hsize)] at hsymbol
    cases hsymbol
  have hrange : 257 + symbol < 286 := by omega
  obtain ⟨hread, hne⟩ := reads_symbolBits hrange
  have hlength : (amount lengthSymbols symbol).Reads (fieldBits extra (count - base)) count := by
    simp only [amount, hsymbol]
    refine (reads_fieldBits hextra).bind_nil ?_
    rw [Nat.add_sub_cancel' hbase]
    exact reads_pure count
  have hdistance : (amount distanceSymbols 0).Reads [] 1 := (reads_pure 0).bind (reads_pure 1)
  have hdata : data ≠ [] := by
    rintro rfl
    cases hlast
  rw [hbits, ← List.append_nil distanceOne]
  exact appends_copy (by omega) hroom hne hread hlength reads_distanceOne hdistance
    (List.length_pos_of_ne_nil hdata) (copy_zeros hlast count)

/-- What a run of zeros ends with. -/
theorem getLast?_append_zeros (h : data.getLast? = some 0) (count : Nat) :
    (data ++ List.replicate count 0).getLast? = some 0 := by
  cases count with
  | zero => simpa using h
  | succ count => rw [List.replicate_succ', ← List.append_assoc, List.getLast?_concat]

/-- Bits that append zeros behind a zero, several times over. -/
theorem appends_repeated {bits : List Bool} {count : Nat}
    (h : ∀ data : Bytes, data.getLast? = some 0 → data.length + count ≤ wanted →
      Appends zeroRunCodes wanted data bits (List.replicate count 0))
    (times : Nat) (hlast : data.getLast? = some 0) (hroom : data.length + times * count ≤ wanted) :
    Appends zeroRunCodes wanted data (List.replicate times bits).flatten
      (List.replicate (times * count) 0) := by
  induction times generalizing data with
  | zero =>
    rw [Nat.zero_mul]
    exact appends_nil data
  | succ times ih =>
    rw [Nat.succ_mul] at hroom
    have hrest := ih (getLast?_append_zeros hlast count)
      (by rw [List.length_append, List.length_replicate]; omega)
    have hzeros : List.replicate ((times + 1) * count) (0 : UInt8) =
        List.replicate count 0 ++ List.replicate (times * count) 0 := by
      rw [List.replicate_append_replicate, Nat.succ_mul, Nat.add_comm]
    rw [hzeros, List.replicate_succ, List.flatten_cons]
    exact (h data hlast (by omega)).append hrest

theorem appends_zeroSymbols {count : Nat} (hlast : data.getLast? = some 0)
    (hroom : data.length + count ≤ wanted) :
    Appends zeroRunCodes wanted data (List.replicate count (symbolBits 0)).flatten
      (List.replicate count 0) := by
  rw [← Nat.mul_one count] at hroom
  have hzeros := appends_repeated (fun _ _ hroom => appends_symbolBits 0 hroom) count hlast hroom
  rw [Nat.mul_one] at hzeros
  exact hzeros

theorem appends_moreZeros {count : Nat} (hlast : data.getLast? = some 0)
    (hroom : data.length + count ≤ wanted) :
    Appends zeroRunCodes wanted data (moreZeros count) (List.replicate count 0) := by
  have hcount : count / maxCopy * maxCopy + count % maxCopy = count := by
    rw [Nat.mul_comm]
    exact Nat.div_add_mod count maxCopy
  have hrest : count % maxCopy < maxCopy := Nat.mod_lt _ (by decide)
  have hwhole : Appends zeroRunCodes wanted data
      (List.replicate (count / maxCopy) (copyBits maxCopy)).flatten
      (List.replicate (count / maxCopy * maxCopy) 0) :=
    appends_repeated (fun _ hlast hroom => appends_copyBits hlast (by decide) le_rfl hroom) _ hlast
      (by omega)
  rw [← hcount, ← List.replicate_append_replicate, moreZeros, hcount]
  refine hwhole.append ?_
  have hlast' := getLast?_append_zeros hlast (count / maxCopy * maxCopy)
  have hroom' : (data ++ List.replicate (count / maxCopy * maxCopy) 0).length + count % maxCopy ≤
      wanted := by
    rw [List.length_append, List.length_replicate]
    omega
  split_ifs with hshort
  · exact appends_copyBits hlast' (by omega) hrest.le hroom'
  · exact appends_zeroSymbols hlast' hroom'

/-- The bits of a piece append its octets. -/
theorem appends_piece {piece : Piece} (hne : piece ≠ .zeros 0)
    (hroom : data.length + piece.octets.length ≤ wanted) :
    Appends zeroRunCodes wanted data piece.bits piece.octets := by
  cases piece with
  | octet b => exact appends_symbolBits b hroom
  | zeros count =>
    obtain ⟨count, rfl⟩ : ∃ n, count = n + 1 :=
      Nat.exists_eq_succ_of_ne_zero fun hzero => hne (congrArg Piece.zeros hzero)
    rw [Piece.octets, List.length_replicate] at hroom
    have hmore : Appends zeroRunCodes wanted (data ++ [0]) (moreZeros count)
        (List.replicate count 0) :=
      appends_moreZeros List.getLast?_concat
        (by rw [List.length_append, List.length_singleton]; omega)
    exact (appends_symbolBits 0 (by omega)).append hmore

/-- The bits of pieces append the octets that they spell. -/
theorem appends_pieces {pieces : List Piece} (hne : ∀ piece ∈ pieces, piece ≠ .zeros 0)
    (hroom : data.length + (pieces.flatMap Piece.octets).length ≤ wanted) :
    Appends zeroRunCodes wanted data (pieces.flatMap Piece.bits)
      (pieces.flatMap Piece.octets) := by
  induction pieces generalizing data with
  | nil => exact appends_nil data
  | cons piece pieces ih =>
    obtain ⟨hpiece, hpieces⟩ := List.forall_mem_cons.1 hne
    rw [List.flatMap_cons, List.length_append] at hroom
    exact (appends_piece hpiece (by omega)).append
      (ih hpieces (by rw [List.length_append]; omega))

/-! ### The block of some rows -/

/-- The bits of a row. -/
def rowBits (row : Bytes) : List Bool :=
  (piecesOf row).toList.flatMap Piece.bits

theorem appends_rows {rows : List Bytes} (hroom : data.length + rows.flatten.length ≤ wanted) :
    Appends zeroRunCodes wanted data (rows.flatMap rowBits) rows.flatten := by
  induction rows generalizing data with
  | nil => exact appends_nil data
  | cons row rows ih =>
    obtain ⟨hoctets, hne⟩ := spells_piecesOf row
    rw [List.flatten_cons, List.length_append] at hroom
    have hrow : Appends zeroRunCodes wanted data (rowBits row)
        ((piecesOf row).toList.flatMap Piece.octets) :=
      appends_pieces (fun piece hpiece => hne piece (Array.mem_toList_iff.1 hpiece))
        (by rw [hoctets]; omega)
    rw [hoctets] at hrow
    exact hrow.append (ih (by rw [List.length_append]; omega))

theorem writeRow_eq (writer : BitWriter) (row : Bytes) (h : writer.IsOpen) :
    (writeRow writer row).IsOpen ∧ (writeRow writer row).bits = writer.bits ++ rowBits row := by
  have hpiece (writer : BitWriter) (piece : Piece) (h : writer.IsOpen) :=
    And.intro (h.append piece.bits) (writer.bits_append piece.bits)
  rw [writeRow, ← Array.foldl_toList]
  exact h.foldl hpiece _

/-- The bits of a block are its head, those of the rows, and others that nobody reads. -/
theorem exists_zeroRunBlock_bits (rows : List Bytes) :
    ∃ padding, (zeroRunBlock rows).flatMap bitsOf =
      zeroRunHead ++ (rows.flatMap rowBits ++ padding) := by
  have hhead : (BitWriter.empty.append zeroRunHead).IsOpen := BitWriter.isOpen_empty.append _
  obtain ⟨hopen, hbits⟩ := hhead.foldl writeRow_eq rows
  obtain ⟨padding, hfinish⟩ := (hopen.append (symbolBits endOfBlock)).flatMap_finish
  refine ⟨symbolBits endOfBlock ++ padding, ?_⟩
  rw [zeroRunBlock, hfinish, BitWriter.bits_append, hbits, BitWriter.bits_append,
    BitWriter.bits_empty]
  simp only [List.append_assoc, List.nil_append]

/-- The head tells that the block is the last one and describes its codes. -/
theorem reads_blockHead : blockHead.Reads (zeroRunHead.take 3) (true, 2) := by
  have hbits : zeroRunHead.take 3 = [true] ++ [false, true] := by decide +kernel
  rw [hbits]
  refine (reads_need (by decide)).nil_bind ((reads_bit true).bind ?_)
  exact (reads_bits [false, true]).bind_nil (reads_pure _)

/-- **The block that is written for some rows is read as their octets.** -/
theorem reads_blocksFrom {rows : List Bytes} {wanted fuel : Nat}
    (hwanted : rows.flatten.length = wanted) (hfuel : (rows.flatMap rowBits).length + 1 < fuel) :
    (blocksFrom wanted fuel #[]).Reads (zeroRunHead ++ rows.flatMap rowBits)
      (rows.flatten.toArray, .inside) := by
  obtain ⟨fuel, rfl⟩ : ∃ n, fuel = n + 1 := ⟨fuel - 1, by omega⟩
  have hrows : Appends zeroRunCodes rows.flatten.length [] (rows.flatMap rowBits) rows.flatten :=
    appends_rows (by simp)
  have hlength : (rows.flatMap rowBits).length < fuel := by omega
  have hcoded := hrows.reads_codedFrom hlength
  rw [hwanted] at hcoded
  rw [← List.take_append_drop 3 zeroRunHead, List.append_assoc]
  refine reads_blockHead.bind ?_
  exact (reads_describedCodes.bind hcoded).bind_nil (reads_pure _)

end Deflate

end Png

end ClipExchange
