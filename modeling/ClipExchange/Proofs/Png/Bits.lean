import Mathlib
import ClipExchange.Png.BitWriter

/-!
# Reading bits that were written

A writer of bits stands for the list of the bits written so far, and an input for the list of the
bits that are left in it. What a writer leaves in octets is read back bit by bit, wherever the
octets are cut into pieces.

A reader *reads* a value from some bits if it takes exactly these bits off every input that begins
with them and gives the value (`BitReader.Reads`). Some readers look at a few bits ahead of those
that they take, so enough others have to follow. A reader that is put together from single bits
reads from other inputs what it read from one (`BitReader.Sequential`), which is why a computation
with one input tells what it reads from all.

## Main definitions

* `Png.BitWriter.bits`, `Png.BitInput.bits`: the bits that are written, and those that are left.
* `Png.BitReader.Reads`: a reader reads a value from some bits, whatever follows.
* `Png.BitReader.Sequential`: what a reader gives is read from the bits that it takes.

## Main results

* `Png.bitsOf_octetOf`: an octet holds the bits that it is made of.
* `Png.BitWriter.bits_append`, `Png.BitWriter.flatMap_finish`: the bits of a writer.
* `Png.BitReader.reads_bit`, `Png.BitReader.reads_bits`, `Png.BitReader.Reads.bind`: what is read.
* `Png.BitReader.octets_of_append`: reading whole octets.
-/

namespace ClipExchange

namespace Png

open BitReader (bitsOf)

/-! ### Bits and numbers -/

/-- The number whose bits are given, the least significant one first. -/
def fieldValue (bits : List Bool) : Nat :=
  bits.foldr (fun b n => b.toNat + 2 * n) 0

@[simp]
theorem fieldValue_cons (b : Bool) (bits : List Bool) :
    fieldValue (b :: bits) = b.toNat + 2 * fieldValue bits :=
  rfl

theorem fieldValue_lt (bits : List Bool) : fieldValue bits < 2 ^ bits.length := by
  induction bits with
  | nil => exact Nat.one_pos
  | cons b bits ih =>
    have hb := b.toNat_lt
    rw [fieldValue_cons, List.length_cons, Nat.pow_succ]
    omega

@[simp]
theorem length_fieldBits (width n : Nat) : (fieldBits width n).length = width := by
  simp [fieldBits]

theorem fieldBits_succ (width n : Nat) :
    fieldBits (width + 1) n = n.testBit 0 :: fieldBits width (n / 2) := by
  simp only [fieldBits, List.range_succ_eq_map, List.map_cons, List.map_map]
  exact congrArg _ (List.map_congr_left fun i _ => Nat.testBit_succ n i)

/-- The bits of a number stand for it, if they are enough. -/
theorem fieldValue_fieldBits {width n : Nat} (h : n < 2 ^ width) :
    fieldValue (fieldBits width n) = n := by
  induction width generalizing n with
  | zero =>
    obtain rfl : n = 0 := by omega
    rfl
  | succ width ih =>
    rw [Nat.pow_succ] at h
    rw [fieldBits_succ, fieldValue_cons, ih (by omega), Nat.testBit_zero]
    rcases Nat.mod_two_eq_zero_or_one n with hn | hn <;> simp [hn] <;> omega

/-- Bits are those of the number that they stand for, with zeros behind them. -/
theorem fieldBits_fieldValue {bits : List Bool} {width : Nat} (h : bits.length ≤ width) :
    fieldBits width (fieldValue bits) =
      bits ++ List.replicate (width - bits.length) false := by
  induction bits generalizing width with
  | nil =>
    have hzero (i : Nat) (_ : i ∈ List.range width) : Nat.testBit 0 i = false := Nat.zero_testBit i
    simp [fieldBits, fieldValue, List.map_congr_left hzero]
  | cons b bits ih =>
    obtain ⟨width, rfl⟩ : ∃ w, width = w + 1 := ⟨width - 1, by simp at h; omega⟩
    have hlength : bits.length ≤ width := by simpa using h
    have hhalf : (b.toNat + 2 * fieldValue bits) / 2 = fieldValue bits := by
      have hb := b.toNat_lt
      omega
    have hlow : (b.toNat + 2 * fieldValue bits).testBit 0 = b := by
      cases b <;> simp [Nat.testBit_zero]
    rw [fieldValue_cons, fieldBits_succ, hhalf, hlow, ih hlength]
    simp

/-- An octet holds the bits that it is made of. -/
theorem bitsOf_octetOf {bits : List Bool} (h : bits.length ≤ 8) :
    bitsOf (octetOf bits) = bits ++ List.replicate (8 - bits.length) false := by
  have hvalue : fieldValue bits < 256 :=
    (fieldValue_lt bits).trans_le (Nat.pow_le_pow_right Nat.two_pos h)
  have hoctet : (octetOf bits).toNat = fieldValue bits := by
    change (UInt8.ofNat (fieldValue bits)).toNat = _
    rw [UInt8.toNat_ofNat']
    omega
  rw [← fieldBits_fieldValue h, ← hoctet]
  rfl

@[simp]
theorem length_bitsOf (b : UInt8) : (bitsOf b).length = 8 := by
  simp [bitsOf]

theorem length_flatMap_bitsOf (data : Bytes) : (data.flatMap bitsOf).length = 8 * data.length := by
  simp [List.length_flatMap, mul_comm]

/-! ### Writing -/

namespace BitWriter

variable {writer : BitWriter}

/-- The bits that are written. -/
def bits (writer : BitWriter) : List Bool :=
  writer.full.toList.flatMap bitsOf ++ writer.pending

/-- An octet is full as soon as it has eight bits. -/
def IsOpen (writer : BitWriter) : Prop :=
  writer.pending.length < 8

theorem isOpen_empty : empty.IsOpen :=
  Nat.zero_lt_succ _

@[simp]
theorem bits_empty : empty.bits = [] :=
  rfl

theorem IsOpen.push (h : writer.IsOpen) (b : Bool) : (writer.push b).IsOpen := by
  unfold BitWriter.push
  unfold IsOpen at h ⊢
  dsimp only
  split_ifs with hfull
  · exact Nat.zero_lt_succ _
  · rw [List.length_append, List.length_singleton] at hfull ⊢
    omega

theorem bits_push (writer : BitWriter) (b : Bool) :
    (writer.push b).bits = writer.bits ++ [b] := by
  unfold BitWriter.push
  dsimp only
  split_ifs with hfull
  · have hoctet := bitsOf_octetOf hfull.le
    rw [hfull, Nat.sub_self, List.replicate_zero, List.append_nil] at hoctet
    simp [bits, hoctet]
  · simp [bits]

theorem IsOpen.append (h : writer.IsOpen) (more : List Bool) : (writer.append more).IsOpen := by
  induction more generalizing writer with
  | nil => exact h
  | cons b more ih => exact ih (h.push b)

/-- What is written comes behind what was written before. -/
@[simp]
theorem bits_append (writer : BitWriter) (more : List Bool) :
    (writer.append more).bits = writer.bits ++ more := by
  induction more generalizing writer with
  | nil => simp [BitWriter.append]
  | cons b more ih =>
    change ((writer.push b).append more).bits = _
    rw [ih, bits_push, List.append_assoc, List.singleton_append]

/-- What is written step by step comes in the order of the steps. -/
theorem IsOpen.foldl {α : Type} {step : BitWriter → α → BitWriter} {written : α → List Bool}
    (hstep : ∀ writer x, writer.IsOpen →
      (step writer x).IsOpen ∧ (step writer x).bits = writer.bits ++ written x)
    (h : writer.IsOpen) (values : List α) :
    (values.foldl step writer).IsOpen ∧
      (values.foldl step writer).bits = writer.bits ++ values.flatMap written := by
  induction values generalizing writer with
  | nil => exact ⟨h, (List.append_nil _).symm⟩
  | cons x values ih =>
    obtain ⟨hx, hxBits⟩ := hstep writer x h
    obtain ⟨hopen, hbits⟩ := ih hx
    refine ⟨hopen, ?_⟩
    rw [List.foldl_cons, hbits, hxBits, List.append_assoc, List.flatMap_cons]

/-- The octets hold the bits that were written, with less than an octet of zeros behind them. -/
theorem IsOpen.flatMap_finish (h : writer.IsOpen) :
    ∃ padding : List Bool, writer.finish.flatMap bitsOf = writer.bits ++ padding := by
  refine ⟨if writer.pending.isEmpty then []
    else List.replicate (8 - writer.pending.length) false, ?_⟩
  have hoctet := bitsOf_octetOf (Nat.le_of_lt h)
  unfold finish bits
  split_ifs with hpending
  · simp [List.isEmpty_iff.1 hpending]
  · simp [hoctet]

end BitWriter

/-! ### What is left of an input -/

namespace BitInput

variable {input : BitInput} {rest data more : Bytes} {later : List Bytes}

/-- The whole octets that are left. -/
def octets (input : BitInput) : Bytes :=
  input.rest ++ input.later.flatten

/-- The bits that are left. -/
def bits (input : BitInput) : List Bool :=
  input.pending ++ input.octets.flatMap bitsOf

@[simp]
theorem bits_mk (pending : List Bool) (rest : Bytes) (later : List Bytes) :
    (BitInput.mk pending rest later).bits =
      pending ++ (rest ++ later.flatten).flatMap bitsOf :=
  rfl

theorem length_bits (input : BitInput) :
    input.bits.length = input.pending.length + 8 * input.octets.length := by
  rw [bits, List.length_append, length_flatMap_bitsOf]

theorem octets_ofPieces (pieces : List Bytes) : (ofPieces pieces).octets = pieces.flatten := by
  cases pieces <;> rfl

/-- The next octet is the first one of all that are left, however they are cut into pieces. -/
theorem octet?_of_append {octet : UInt8} (h : rest ++ later.flatten = octet :: more) :
    ∃ rest' later', octet? rest later = some (octet, rest', later') ∧
      rest' ++ later'.flatten = more := by
  induction later generalizing rest with
  | nil =>
    cases rest with
    | nil => cases h
    | cons first rest =>
      obtain ⟨rfl, hrest⟩ := List.cons.inj h
      exact ⟨rest, [], rfl, hrest⟩
  | cons piece later ih =>
    cases rest with
    | nil => exact ih h
    | cons first rest =>
      obtain ⟨rfl, hrest⟩ := List.cons.inj h
      exact ⟨rest, piece :: later, rfl, hrest⟩

theorem append_of_octet? {octet : UInt8} {rest' : Bytes} {later' : List Bytes}
    (h : octet? rest later = some (octet, rest', later')) :
    rest ++ later.flatten = octet :: (rest' ++ later'.flatten) := by
  induction later generalizing rest with
  | nil =>
    cases rest with
    | nil => cases h
    | cons first rest =>
      cases h
      rfl
  | cons piece later ih =>
    cases rest with
    | nil => exact ih h
    | cons first rest =>
      cases h
      rfl

/-- The next octets are the first ones of all that are left, however they are cut into pieces. -/
theorem octets?_of_append (h : rest ++ later.flatten = data ++ more) :
    ∃ rest' later', octets? data.length rest later = some (data, rest', later') ∧
      rest' ++ later'.flatten = more := by
  induction later generalizing rest data with
  | nil =>
    rw [List.flatten_nil, List.append_nil] at h
    subst h
    exact ⟨more, [], by simp [octets?], by simp⟩
  | cons piece later ih =>
    obtain ⟨tail, rfl, hmore⟩ | ⟨tail, rfl, hmore⟩ := List.append_eq_append_iff.1 h
    · by_cases htail : tail = []
      · subst htail
        exact ⟨[], piece :: later, by simp [octets?], by simpa using hmore⟩
      · obtain ⟨rest', later', hread, hrest'⟩ := ih hmore
        have hlength := List.length_pos_of_ne_nil htail
        have htake : rest.take (rest.length + tail.length) = rest :=
          List.take_of_length_le (Nat.le_add_right _ _)
        have hshort : rest.length ≠ rest.length + tail.length := by omega
        refine ⟨rest', later', ?_, hrest'⟩
        rw [List.length_append, octets?]
        dsimp only
        rw [htake, if_neg hshort, Nat.add_sub_cancel_left, hread]
        rfl
    · exact ⟨tail, piece :: later, by simp [octets?], hmore.symm⟩

theorem has_of_le {count : Nat} (h : count ≤ input.bits.length) : input.has count = true := by
  rw [length_bits] at h
  let needed := (count - input.pending.length + 7) / 8
  have hneeded : needed ≤ input.octets.length := by
    simp only [needed]
    omega
  have hsplit : input.rest ++ input.later.flatten =
      input.octets.take needed ++ input.octets.drop needed :=
    (List.take_append_drop needed input.octets).symm
  obtain ⟨rest', later', hread, -⟩ := octets?_of_append hsplit
  rw [List.length_take, Nat.min_eq_left hneeded] at hread
  rw [has, hread, Option.isSome_some]

end BitInput

/-! ### Reading -/

namespace BitReader

variable {α β : Type} {reader : BitReader α} {f : α → BitReader β} {input input' : BitInput}

theorem bind_of_ok {x : α} (h : reader input = .ok (x, input')) :
    (reader >>= f) input = f x input' := by
  change (reader input >>= fun p => f p.1 p.2) = _
  rw [h]
  rfl

theorem exists_of_bind_eq_ok {y : β} (h : (reader >>= f) input = .ok (y, input')) :
    ∃ x middle, reader input = .ok (x, middle) ∧ f x middle = .ok (y, input') := by
  change (reader input >>= fun p => f p.1 p.2) = _ at h
  cases hx : reader input with
  | error fault =>
    rw [hx] at h
    cases h
  | ok p =>
    rw [hx] at h
    exact ⟨p.1, p.2, rfl, h⟩

/-- Whole octets are read off the front, however they are cut into pieces. -/
theorem octets_of_append {data more : Bytes} (h : input.octets = data ++ more) :
    ∃ input', octets data.length input = .ok (data, input') ∧
      input'.pending = [] ∧ input'.octets = more := by
  obtain ⟨rest', later', hread, hmore⟩ := BitInput.octets?_of_append h
  exact ⟨⟨[], rest', later'⟩, by rw [octets, hread], rfl, hmore⟩

/-- The bits that have to follow those that are read: four octets, which is the length of the
checksum behind a compressed stream. -/
def margin : Nat := 32

/-- The reader takes exactly the given bits off the front and gives the value, if enough bits
follow them. -/
def Reads (reader : BitReader α) (bits : List Bool) (value : α) : Prop :=
  ∀ (input : BitInput) (more : List Bool), input.bits = bits ++ more → margin ≤ more.length →
    ∃ input', reader input = .ok (value, input') ∧ input'.bits = more

theorem reads_pure (value : α) : (pure value : BitReader α).Reads [] value :=
  fun input _ hbits _ => ⟨input, rfl, hbits⟩

theorem reads_need {count : Nat} (h : count ≤ margin) : (need count).Reads [] () := by
  intro input more hbits hmore
  refine ⟨input, ?_, hbits⟩
  have hhas : input.has count = true := BitInput.has_of_le (by
    rw [hbits, List.nil_append]
    exact h.trans hmore)
  rw [need, if_pos hhas]

/-- Without open bits, the next bit is the lowest one of the next octet. -/
theorem bit_of_octet? {octet : UInt8} {rest rest' : Bytes} {later later' : List Bytes}
    (h : BitInput.octet? rest later = some (octet, rest', later')) :
    bit ⟨[], rest, later⟩ =
      .ok (octet.toNat.testBit 0, ⟨(bitsOf octet).tail, rest', later'⟩) := by
  simp only [bit, h]
  rfl

theorem reads_bit (b : Bool) : bit.Reads [b] b := by
  rintro ⟨pending, rest, later⟩ more hbits -
  cases pending with
  | cons first pending =>
    obtain ⟨rfl, hmore⟩ := List.cons.inj hbits
    exact ⟨⟨pending, rest, later⟩, rfl, hmore⟩
  | nil =>
    cases hoctets : rest ++ later.flatten with
    | nil => simp [hoctets] at hbits
    | cons octet others =>
      obtain ⟨rest', later', hoctet, rfl⟩ := BitInput.octet?_of_append hoctets
      have hbitsOf : bitsOf octet ++ (rest' ++ later'.flatten).flatMap bitsOf = b :: more := by
        simpa [hoctets] using hbits
      obtain ⟨rfl, hmore⟩ := List.cons.inj hbitsOf
      exact ⟨⟨(bitsOf octet).tail, rest', later'⟩, bit_of_octet? hoctet, hmore⟩

namespace Reads

variable {a b : List Bool} {x : α} {y : β}

theorem bind (hreader : reader.Reads a x) (hf : (f x).Reads b y) :
    (reader >>= f).Reads (a ++ b) y := by
  intro input more hbits hmore
  rw [List.append_assoc] at hbits
  obtain ⟨middle, hx, hmiddle⟩ := hreader input _ hbits (by rw [List.length_append]; omega)
  obtain ⟨input', hy, hinput'⟩ := hf middle more hmiddle hmore
  exact ⟨input', (bind_of_ok hx).trans hy, hinput'⟩

/-- The reader that comes first may take nothing. -/
theorem nil_bind (hreader : reader.Reads [] x) (hf : (f x).Reads b y) :
    (reader >>= f).Reads b y :=
  hreader.bind hf

/-- The reader that comes second may take nothing. -/
theorem bind_nil (hreader : reader.Reads a x) (hf : (f x).Reads [] y) :
    (reader >>= f).Reads a y := by
  simpa only [List.append_nil] using hreader.bind hf

end Reads

/-- A field is read as the number that its bits stand for. -/
theorem reads_bits (bs : List Bool) : (bits bs.length).Reads bs (fieldValue bs) := by
  induction bs with
  | nil => exact reads_pure 0
  | cons b bs ih => exact (reads_bit b).bind (ih.bind_nil (reads_pure _))

theorem reads_fieldBits {width n : Nat} (h : n < 2 ^ width) :
    (bits width).Reads (fieldBits width n) n := by
  have hreads := reads_bits (fieldBits width n)
  rwa [length_fieldBits, fieldValue_fieldBits h] at hreads

/-! ### Readers that are put together from single bits -/

/-- Whenever the reader gives a value, it reads this value from the bits that it takes, so it does
so from any other input. -/
def Sequential (reader : BitReader α) : Prop :=
  ∀ input value input', reader input = .ok (value, input') →
    ∃ bits, input.bits = bits ++ input'.bits ∧ reader.Reads bits value

theorem sequential_pure (value : α) : (pure value : BitReader α).Sequential := by
  intro input value' input' h
  cases h
  exact ⟨[], rfl, reads_pure value⟩

theorem sequential_fail (fault : Fault) : (fail fault : BitReader α).Sequential :=
  fun _ _ _ h => nomatch h

theorem sequential_need {count : Nat} (h : count ≤ margin) : (need count).Sequential := by
  intro input value input' hneed
  unfold need at hneed
  split_ifs at hneed
  cases hneed
  exact ⟨[], rfl, reads_need h⟩

theorem sequential_bit : bit.Sequential := by
  rintro ⟨pending, rest, later⟩ b input' h
  refine ⟨[b], ?_, reads_bit b⟩
  cases pending with
  | cons first pending =>
    cases h
    rfl
  | nil =>
    cases hoctet : BitInput.octet? rest later with
    | none => simp [bit, hoctet] at h
    | some p =>
      obtain ⟨octet, rest', later'⟩ := p
      rw [bit_of_octet? hoctet] at h
      cases h
      simp only [BitInput.bits_mk, BitInput.append_of_octet? hoctet, List.flatMap_cons]
      rfl

theorem Sequential.bind (hreader : reader.Sequential) (hf : ∀ x, (f x).Sequential) :
    (reader >>= f).Sequential := by
  intro input y input' h
  obtain ⟨x, middle, hx, hy⟩ := exists_of_bind_eq_ok h
  obtain ⟨a, ha, hreads⟩ := hreader input x middle hx
  obtain ⟨b, hb, hreads'⟩ := hf x middle y input' hy
  exact ⟨a ++ b, by rw [ha, hb, List.append_assoc], hreads.bind hreads'⟩

theorem sequential_bits (count : Nat) : (bits count).Sequential := by
  induction count with
  | zero => exact sequential_pure 0
  | succ count ih =>
    exact sequential_bit.bind fun _ => ih.bind fun _ => sequential_pure _

end BitReader

end Png

end ClipExchange
