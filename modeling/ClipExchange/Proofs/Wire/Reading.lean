import Mathlib
import ClipExchange.Bytes.Lemmas
import ClipExchange.Proofs.Text.Utf8
import ClipExchange.Wire.Integer

/-!
# Decoders that read what was written

A decoder *reads* a value from some octets when it takes exactly these octets off the front of
every input that begins with them and gives the value (`Decoder.Reads`). The relation is closed
under the ways in which decoders are put together, so that a decoder of a whole message is
treated one field at a time. Numbers, octet strings, texts and lists are read from their written
forms, as long as their lengths fit the sixty-four bits in which lengths are written.

## Main definitions

* `Wire.Decoder.Reads`: a decoder reads a value from some octets, whatever follows.

## Main results

* `Wire.Decoder.Reads.bind`, `Wire.Decoder.Reads.map`, `Wire.Decoder.reads_pure`: composition.
* `Wire.reads_integer`, `Wire.reads_octetString`, `Wire.reads_text`, `Wire.reads_list`: the
  written forms.
-/

namespace ClipExchange

namespace Wire

namespace Decoder

variable {α β : Type}

/-- The decoder takes exactly the given octets off the front and gives the value, whatever
follows them. -/
def Reads (d : Decoder α) (octets : Bytes) (value : α) : Prop :=
  ∀ rest, d (octets ++ rest) = .ok (value, rest)

/-! ### Composition -/

theorem reads_pure (value : α) : (pure value : Decoder α).Reads [] value :=
  fun _ => rfl

namespace Reads

variable {d : Decoder α} {f : α → Decoder β} {a b : Bytes} {x : α} {y : β}

theorem bind (hd : d.Reads a x) (hf : (f x).Reads b y) : (d >>= f).Reads (a ++ b) y := by
  intro rest
  change (d (a ++ b ++ rest) >>= fun p => f p.1 p.2) = _
  rw [List.append_assoc, hd]
  exact hf rest

/-- The decoder that comes second may take nothing. -/
theorem bind_nil (hd : d.Reads a x) (hf : (f x).Reads [] y) : (d >>= f).Reads a y := by
  simpa only [List.append_nil] using hd.bind hf

theorem map (g : α → β) (hd : d.Reads a x) : (g <$> d).Reads a (g x) := by
  intro rest
  change (d (a ++ rest) >>= fun p => Except.ok (g p.1, p.2)) = _
  rw [hd]
  rfl

end Reads

/-! ### Runs of octets and of values -/

theorem reads_octets (data : Bytes) : (octets data.length).Reads data data := by
  intro rest
  simp [octets]

theorem timesFrom_flatMap {item : Decoder α} {put : α → Bytes} {values : List α}
    (hitem : ∀ value ∈ values, item.Reads (put value) value) (done : List α) (rest : Bytes) :
    timesFrom item done values.length (values.flatMap put ++ rest) =
      .ok (done.reverse ++ values, rest) := by
  induction values generalizing done with
  | nil => simp [timesFrom]
  | cons value values ih =>
    have hvalue := hitem value List.mem_cons_self
    have hvalues := ih fun v hv => hitem v (List.mem_cons_of_mem _ hv)
    simp only [List.flatMap_cons, List.length_cons, List.append_assoc, timesFrom, hvalue _,
      hvalues, List.reverse_cons, List.nil_append, List.cons_append]

theorem reads_times {item : Decoder α} {put : α → Bytes} {values : List α}
    (hitem : ∀ value ∈ values, item.Reads (put value) value) :
    (times values.length item).Reads (values.flatMap put) values :=
  timesFrom_flatMap hitem []

end Decoder

open Decoder

/-! ### Numbers -/

/-- A number after the octet that announces its width. -/
theorem reads_announced {head : UInt8} {expected : IntegerForm} {n : Nat} (hhead : ¬ head ≤ 250)
    (hwidth : (IntegerForm.ofHead head).width ≤ expected.width)
    (hn : n < 256 ^ (IntegerForm.ofHead head).width) :
    (getInteger expected).Reads (head :: Bytes.littleEndian (IntegerForm.ofHead head).width n)
      n := by
  intro rest
  have hdigits := reads_octets (Bytes.littleEndian (IntegerForm.ofHead head).width n) rest
  rw [Bytes.length_littleEndian] at hdigits
  simp only [List.cons_append, getInteger, if_neg hhead, if_pos hwidth, hdigits, Except.map,
    Bytes.ofLittleEndian_littleEndian hn]

/-- A number that fits its type is read from the least width that holds it. -/
theorem reads_integer {expected : IntegerForm} (hexpected : expected.width ≤ 8) {n : Nat}
    (hn : n < 256 ^ expected.width) : (getInteger expected).Reads (putInteger n) n := by
  have hwide : 256 ^ expected.width ≤ 256 ^ 8 := Nat.pow_le_pow_right (by decide) hexpected
  unfold putInteger
  split_ifs with h₁ h₂ h₃
  · intro rest
    have hhead : UInt8.ofNat n ≤ 250 := by
      rw [UInt8.le_iff_toNat_le, UInt8.toNat_ofNat']
      simp only [UInt8.reduceToNat]
      omega
    simp only [List.cons_append, List.nil_append, getInteger, if_pos hhead, UInt8.toNat_ofNat']
    rw [Nat.mod_eq_of_lt (by omega)]
  · have hwidth : 2 ≤ expected.width := by
      cases expected <;> decide
    exact reads_announced (by decide) hwidth h₂
  · have hwidth : 4 ≤ expected.width := by
      cases expected <;> simp only [IntegerForm.width] at hn ⊢ <;> omega
    exact reads_announced (by decide) hwidth h₃
  · have hwidth : 8 ≤ expected.width := by
      cases expected <;> simp only [IntegerForm.width] at hn ⊢ <;> omega
    exact reads_announced (by decide) hwidth (hn.trans_le hwide)

@[simp]
theorem putInteger_ne_nil (n : Nat) : putInteger n ≠ [] := by
  unfold putInteger
  split_ifs <;> simp

/-! ### Octet strings and texts -/

/-- The length of an octet string is read back if it fits sixty-four bits. -/
private theorem reads_length {n : Nat} (hn : n < 2 ^ 64) :
    (getInteger .u64).Reads (putInteger n) n :=
  reads_integer (by decide) hn

theorem reads_octetString {data : Bytes} (h : (putOctets data).length < 2 ^ 64) :
    getOctets.Reads (putOctets data) data := by
  rw [putOctets, List.length_append] at h
  exact (reads_length (by omega)).bind (reads_octets data)

@[simp]
theorem putText_ne_nil (s : String) : putText s ≠ [] := by
  simp [putText, putOctets]

theorem reads_text {s : String} (h : (putText s).length < 2 ^ 64) :
    getText.Reads (putText s) s := by
  refine (reads_octetString h).bind_nil ?_
  rw [Utf8.decode_encode]
  exact reads_pure s

/-! ### Lists -/

variable {α : Type}

theorem length_le_length_flatMap {put : α → Bytes} (hput : ∀ value, put value ≠ [])
    (values : List α) : values.length ≤ (values.flatMap put).length := by
  induction values with
  | nil => exact Nat.zero_le 0
  | cons value values ih =>
    have := List.length_pos_iff.2 (hput value)
    simp only [List.flatMap_cons, List.length_cons, List.length_append]
    omega

theorem length_le_length_flatMap_of_mem {put : α → Bytes} {value : α} {values : List α}
    (hvalue : value ∈ values) : (put value).length ≤ (values.flatMap put).length := by
  rw [List.length_flatMap]
  exact List.le_sum_of_mem (List.mem_map_of_mem hvalue)

/-- A list is read back if every item whose written form is no longer than that of the list is
read back. Items take an octet at least, so their number fits if the list does. -/
theorem reads_list {item : Decoder α} {put : α → Bytes} {values : List α}
    (hput : ∀ value, put value ≠ []) (hlength : (putList put values).length < 2 ^ 64)
    (hitem : ∀ value ∈ values, (put value).length < 2 ^ 64 → item.Reads (put value) value) :
    (getList item).Reads (putList put values) values := by
  simp only [putList, List.length_append] at hlength
  have hcount := length_le_length_flatMap hput values
  refine (reads_length (by omega)).bind (reads_times fun value hvalue => hitem value hvalue ?_)
  have : (put value).length ≤ (values.flatMap put).length :=
    length_le_length_flatMap_of_mem hvalue
  omega

end Wire

end ClipExchange
