import Mathlib
import ClipExchange.Proofs.Format.Payloads
import ClipExchange.Proofs.Transaction.Answers
import ClipExchange.Wire.Codec

/-!
# Lengths of written forms

The size of a transaction counts the octets of its payloads, with one separator for each path of a
file list. Its written form has more octets than that: the numbers of variants, the lengths of
texts, octet strings and lists, the identifier, and the names of formats outside the six. What
comes on top is a number of its own, so that the written form of the whole content is exactly as
long as both together.

## Main definitions

* `Wire.width`: the number of octets of a number.
* `Content.overhead`, `Transaction.overhead`: the octets that the size does not count.
* `Content.nameSize`, `Transaction.nameSize`: those of the names among them.

## Main results

* `Wire.length_putContent`, `Wire.length_put_data`: written forms are as long as size and overhead
  together.
* `Transaction.le_overhead`: the least overhead.
* `Content.mul_overhead_le`, `Transaction.mul_overhead_le`: the overhead of what is not large.
-/

namespace ClipExchange

namespace Wire

/-! ### Numbers, octet strings, texts and lists -/

/-- The number of octets in which a number is written. -/
def width (n : Nat) : Nat :=
  if n ≤ 250 then 1 else if n < 65536 then 3 else if n < 4294967296 then 5 else 9

theorem one_le_width (n : Nat) : 1 ≤ width n := by
  unfold width
  split_ifs <;> decide

theorem width_le_five {n : Nat} (h : n < 4294967296) : width n ≤ 5 := by
  unfold width
  split_ifs <;> decide

/-- What the length of a text takes beyond one octet is small in comparison with the text. -/
theorem mul_width_sub_one_le (n : Nat) : 126 * (width n - 1) ≤ n + 1 := by
  unfold width
  split_ifs <;> omega

theorem length_putInteger (n : Nat) : (putInteger n).length = width n := by
  unfold putInteger width
  split_ifs <;> simp only [List.length_cons, List.length_nil, Bytes.length_littleEndian]

theorem length_putOctets (data : Bytes) :
    (putOctets data).length = width data.length + data.length := by
  rw [putOctets, List.length_append, length_putInteger]

theorem length_putText (s : String) :
    (putText s).length = width s.utf8ByteSize + s.utf8ByteSize := by
  rw [putText, length_putOctets, Utf8.length_encode]

theorem length_putList {α : Type} (put : α → Bytes) (values : List α) :
    (putList put values).length =
      width values.length + (values.map fun value => (put value).length).sum := by
  rw [putList, List.length_append, length_putInteger, List.length_flatMap]

theorem length_put_identifier (id : TransactionId) : (Codec.put id).length = 17 := by
  rw [show Codec.put id = putOctets id.octets from rfl, length_putOctets, id.length_octets]
  rfl

end Wire

open Wire

/-! ### Representations -/

namespace Content

/-- A list has no more paths than its size counts octets. -/
theorem length_le_size_fileList (paths : List String) : paths.length ≤ (fileList paths).size := by
  rw [size_fileList, List.sum_map_add]
  simp

/-- The octets of the written form that the size does not count: the number of the format, the
lengths, and the name of a format outside the six. The size has an octet for every path, which
stands for the first octet of the path's length. -/
def overhead : Content → Nat
  | text s | html s | richText s => 1 + width s.utf8ByteSize
  | png data | bitmap data => 1 + width data.length
  | fileList paths =>
    1 + width paths.length + (paths.map fun path => width path.utf8ByteSize - 1).sum
  | other name data => 1 + width name.utf8ByteSize + name.utf8ByteSize + width data.length

theorem two_le_overhead (content : Content) : 2 ≤ content.overhead := by
  cases content with
  | text s | html s | richText s =>
    have := one_le_width s.utf8ByteSize
    simp only [overhead]
    omega
  | png data | bitmap data | other _ data =>
    have := one_le_width data.length
    simp only [overhead]
    omega
  | fileList paths =>
    have := one_le_width paths.length
    simp only [overhead]
    omega

/-- The octets of the name of a format outside the six. -/
def nameSize : Content → Nat
  | other name _ => name.utf8ByteSize
  | text _ | html _ | richText _ | png _ | bitmap _ | fileList _ => 0

/-- Apart from eleven octets and the name, the overhead is a small part of the size: the longer a
path is, the less its length takes in comparison. -/
theorem mul_overhead_le {content : Content} (hsize : content.size < 4294967296)
    (hname : content.nameSize < 4294967296) :
    126 * content.overhead ≤ content.size + 126 * (11 + content.nameSize) := by
  cases content with
  | text s | html s | richText s | png data | bitmap data =>
    have hwidth := width_le_five hsize
    simp only [size, overhead, nameSize] at hwidth ⊢
    omega
  | fileList paths =>
    have hcount := width_le_five ((length_le_size_fileList paths).trans_lt hsize)
    have hpaths : 126 * (paths.map fun path => width path.utf8ByteSize - 1).sum ≤
        (fileList paths).size := by
      rw [size_fileList, ← List.sum_map_mul_left]
      exact List.sum_le_sum fun path _ => mul_width_sub_one_le path.utf8ByteSize
    simp only [overhead, nameSize]
    omega
  | other name data =>
    have hdata := width_le_five hsize
    have hwidth := width_le_five hname
    simp only [size, overhead, nameSize] at hdata hwidth ⊢
    omega

end Content

theorem Wire.length_putText_paths (paths : List String) :
    (paths.map fun path => (putText path).length).sum = (Content.fileList paths).size +
      (paths.map fun path => width path.utf8ByteSize - 1).sum := by
  rw [Content.size_fileList, ← List.sum_map_add]
  refine congrArg List.sum (List.map_congr_left fun path _ => ?_)
  have := one_le_width path.utf8ByteSize
  rw [length_putText]
  omega

/-- The number of a variant takes one octet. -/
theorem Wire.length_putInteger_append {n : Nat} (h : n ≤ 250) (octets : Bytes) :
    (putInteger n ++ octets).length = 1 + octets.length := by
  rw [List.length_append, length_putInteger, width, if_pos h]

/-- **A representation is written in as many octets as its size and its overhead say.** -/
theorem Wire.length_putContent (content : Content) :
    (putContent content).length = content.size + content.overhead := by
  cases content with
  | text s | html s | richText s =>
    rw [putContent, length_putInteger_append (by decide), length_putText, Content.size,
      Content.overhead]
    omega
  | png data | bitmap data =>
    rw [putContent, length_putInteger_append (by decide), length_putOctets, Content.size,
      Content.overhead]
    omega
  | fileList paths =>
    rw [putContent, length_putInteger_append (by decide), length_putList, length_putText_paths,
      Content.overhead]
    omega
  | other name data =>
    rw [putContent, List.append_assoc, length_putInteger_append (by decide), List.length_append,
      length_putText, length_putOctets, Content.size, Content.overhead]
    omega

/-! ### Transactions -/

namespace Transaction

/-- The octets of the written form of all content that the size does not count. -/
def overhead (tx : Transaction) : Nat :=
  18 + width tx.length + (tx.contents.map Content.overhead).sum

/-- The number of the message, the identifier, the number of items, and for each item the number of
its format and a length take an octet at least. -/
theorem le_overhead (tx : Transaction) : 2 * tx.length + 19 ≤ tx.overhead := by
  have hitems : tx.length * 2 ≤ (tx.contents.map Content.overhead).sum := by
    simpa [length] using List.card_nsmul_le_sum (tx.contents.map Content.overhead) 2
      (by simpa using fun content _ => content.two_le_overhead)
  have hcount := one_le_width tx.length
  rw [overhead]
  omega

/-- The octets of the names of all formats outside the six. -/
def nameSize (tx : Transaction) : Nat :=
  (tx.contents.map Content.nameSize).sum

/-- Apart from the names and eleven octets for each item, the overhead of what is not large is a
small part of the size. -/
theorem mul_overhead_le {tx : Transaction} (hsize : tx.size < 4294967296)
    (hlength : tx.length < 4294967296) (hname : tx.nameSize < 4294967296) :
    126 * tx.overhead ≤ tx.size + 126 * (23 + 11 * tx.length + tx.nameSize) := by
  have hitems : (tx.contents.map fun content => 126 * content.overhead).sum ≤
      (tx.contents.map fun content => content.size + 126 * (11 + content.nameSize)).sum := by
    refine List.sum_le_sum fun content hcontent => Content.mul_overhead_le ?_ ?_
    · rw [size_eq_sum] at hsize
      exact (List.le_sum_of_mem (List.mem_map_of_mem hcontent)).trans_lt hsize
    · exact (List.le_sum_of_mem (List.mem_map_of_mem hcontent)).trans_lt hname
  simp only [List.sum_map_add, List.sum_map_mul_left, List.map_const', List.sum_replicate,
    smul_eq_mul, ← size_eq_sum] at hitems
  have hcount := width_le_five hlength
  simp only [overhead, nameSize, length] at hcount ⊢
  omega

end Transaction

/-- **The content of a transaction is written in as many octets as its size and its overhead
say.** -/
theorem Wire.length_put_data (tx : Transaction) :
    (Codec.put tx.data).length = tx.size + tx.overhead := by
  change (putInteger 2 ++ (Codec.put tx.id ++ putList putContent tx.contents)).length = _
  rw [length_putInteger_append (by decide), List.length_append, length_put_identifier,
    length_putList, Transaction.size_eq_sum, Transaction.overhead, Transaction.length]
  simp only [length_putContent, List.sum_map_add]
  omega

end ClipExchange
