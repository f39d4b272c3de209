import Mathlib
import ClipExchange.Proofs.Text.Canonical
import ClipExchange.Proofs.Wire.Prefixes

/-!
# Written forms are the shortest

A number may arrive in a wider form than it needs, and every length, every number of a variant
and every item of a list is or holds such a number. Whatever octets a value was read from, its
written form is no longer than these, and it is made of these very octets if it is not shorter.

## Main definitions

* `Bytes.ShorterOrSame`: an octet string is shorter than another one or equal to it.
* `Wire.Decoder.Bounds`: whatever octets a value is read from, its written form is shorter or the
  same.

## Main results

* `Wire.Decoder.reads_bind_iff`: what two decoders in a row read.
* `Wire.bounds_integer`, `Wire.bounds_octetString`, `Wire.bounds_text`, `Wire.bounds_list`,
  `Wire.bounds_kind`: the written forms.
-/

namespace ClipExchange

/-! ### Shorter octet strings -/

/-- An octet string is shorter than another one, or the same. -/
def Bytes.ShorterOrSame (a b : Bytes) : Prop :=
  a.length < b.length ∨ a = b

namespace Bytes.ShorterOrSame

variable {a b c d : Bytes}

theorem refl (a : Bytes) : a.ShorterOrSame a :=
  .inr rfl

theorem length_le (h : a.ShorterOrSame b) : a.length ≤ b.length := by
  rcases h with h | rfl
  · exact h.le
  · exact le_rfl

theorem eq_of_length_eq (h : a.ShorterOrSame b) (hlength : a.length = b.length) : a = b :=
  h.resolve_left hlength.not_lt

theorem append (hab : a.ShorterOrSame b) (hcd : c.ShorterOrSame d) :
    (a ++ c).ShorterOrSame (b ++ d) := by
  have hle := hab.length_le
  have hle' := hcd.length_le
  rcases hab with hab | rfl
  · left
    simp only [List.length_append]
    omega
  · rcases hcd with hcd | rfl
    · left
      simp only [List.length_append]
      omega
    · exact refl _

end Bytes.ShorterOrSame

namespace Wire

namespace Decoder

variable {α β : Type} {d : Decoder α} {f : α → Decoder β} {used : Bytes} {x : α} {y : β}

/-- Whatever octets a value is read from, its written form is shorter or the same. -/
def Bounds (d : Decoder α) (put : α → Bytes) : Prop :=
  ∀ {used : Bytes} {value : α}, d.Reads used value → (put value).ShorterOrSame used

/-! ### What is read by decoders that are put together -/

theorem reads_pure_iff {value : α} : (pure value : Decoder α).Reads used x ↔
    used = [] ∧ value = x := by
  refine ⟨fun h => ?_, fun ⟨hused, hx⟩ => hused ▸ hx ▸ reads_pure value⟩
  obtain ⟨hvalue, hused⟩ := Prod.mk.inj (Except.ok.inj (h []))
  exact ⟨by simpa using hused, hvalue⟩

theorem not_reads_fail {e : DecodeError} : ¬ (fail e : Decoder α).Reads used x := by
  intro h
  cases h []

/-- Two decoders in a row read a value from two pieces, one behind the other. -/
theorem reads_bind_iff (hd : d.Incremental) :
    (d >>= f).Reads used y ↔ ∃ a b x, used = a ++ b ∧ d.Reads a x ∧ (f x).Reads b y := by
  refine ⟨fun h => ?_, fun ⟨a, b, x, hused, ha, hb⟩ => hused ▸ ha.bind hb⟩
  have hall := h []
  rw [List.append_nil] at hall
  cases hx : d used with
  | error e => cases (bind_of_error hx).symm.trans hall
  | ok p =>
    obtain ⟨x, b⟩ := p
    obtain ⟨a, rfl, ha⟩ := hd.reads hx
    refine ⟨a, b, x, rfl, ha, fun rest => ?_⟩
    have hrest := h rest
    rwa [List.append_assoc, bind_of_ok (ha _)] at hrest

theorem reads_map_iff (hd : d.Incremental) {g : α → β} :
    (g <$> d).Reads used y ↔ ∃ x, d.Reads used x ∧ g x = y := by
  rw [← bind_pure_comp, reads_bind_iff hd]
  constructor
  · rintro ⟨a, b, x, rfl, ha, hb⟩
    obtain ⟨rfl, rfl⟩ := reads_pure_iff.1 hb
    exact ⟨x, by rwa [List.append_nil], rfl⟩
  · rintro ⟨x, hx, rfl⟩
    exact ⟨used, [], x, (List.append_nil _).symm, hx, reads_pure _⟩

theorem reads_octets_iff {count : Nat} {data : Bytes} :
    (octets count).Reads used data ↔ used = data ∧ data.length = count := by
  refine ⟨fun h => ?_, fun ⟨hused, hcount⟩ => hused.symm ▸ hcount ▸ reads_octets data⟩
  have hall := h []
  rw [List.append_nil, octets_eq] at hall
  split_ifs at hall with hcount
  obtain ⟨rfl, hleft⟩ := Prod.mk.inj (Except.ok.inj hall)
  have hlength := List.drop_eq_nil_iff.1 hleft
  rw [List.take_of_length_le hlength]
  exact ⟨rfl, le_antisymm hlength hcount⟩

/-! ### Runs of values -/

theorem reads_timesFrom {item : Decoder α} {put : α → Bytes} (hitem : item.Incremental)
    (hput : item.Bounds put) {count : Nat} {done values : List α}
    (h : (timesFrom item done count).Reads used values) :
    ∃ new, values = done.reverse ++ new ∧ new.length = count ∧
      Bytes.ShorterOrSame (new.flatMap put) used := by
  induction count generalizing done used with
  | zero =>
    obtain ⟨rfl, rfl⟩ := reads_pure_iff.1 (show (pure done.reverse : Decoder _).Reads _ _ from h)
    exact ⟨[], (List.append_nil _).symm, rfl, .refl _⟩
  | succ count ih =>
    rw [timesFrom_succ] at h
    obtain ⟨a, b, value, rfl, ha, hb⟩ := (reads_bind_iff hitem).1 h
    obtain ⟨new, rfl, hlength, hnew⟩ := ih hb
    refine ⟨value :: new, by simp, by simp [hlength], ?_⟩
    rw [List.flatMap_cons]
    exact (hput ha).append hnew

end Decoder

open Decoder

/-! ### Numbers -/

theorem IntegerForm.width_pos (form : IntegerForm) : 1 ≤ form.width := by
  cases form <;> decide

/-- The octets that announce eight octets at most. -/
theorem announced_cases {head : UInt8}
    (hwidth : (IntegerForm.ofHead head).width ≤ 8) :
    head = 251 ∧ (IntegerForm.ofHead head).width = 2 ∨
      head = 252 ∧ (IntegerForm.ofHead head).width = 4 ∨
      head = 253 ∧ (IntegerForm.ofHead head).width = 8 := by
  unfold IntegerForm.ofHead at hwidth ⊢
  split_ifs at hwidth ⊢ with h₁ h₂ h₃ h₄
  · exact .inl ⟨h₁, rfl⟩
  · exact .inr (.inl ⟨h₂, rfl⟩)
  · exact .inr (.inr ⟨h₃, rfl⟩)
  · simp [IntegerForm.width] at hwidth
  · simp [IntegerForm.width] at hwidth

/-- A number is written in no more octets than announced it, and in these if in as many. -/
theorem shorterOrSame_announced {head : UInt8} {digits : Bytes}
    (hwidth : (IntegerForm.ofHead head).width ≤ 8)
    (hdigits : digits.length = (IntegerForm.ofHead head).width) :
    (putInteger (Bytes.ofLittleEndian digits)).ShorterOrSame (head :: digits) := by
  have hlt := Bytes.ofLittleEndian_lt digits
  have hsame := Bytes.littleEndian_ofLittleEndian digits
  unfold putInteger
  rcases announced_cases hwidth with ⟨rfl, hw⟩ | ⟨rfl, hw⟩ | ⟨rfl, hw⟩ <;>
    rw [hdigits, hw] at hlt hsame
  · split_ifs
    · exact .inl (by simp [hdigits, hw])
    · exact .inr (by rw [hsame])
    · omega
    · omega
  · split_ifs
    · exact .inl (by simp [hdigits, hw])
    · exact .inl (by simp [hdigits, hw])
    · exact .inr (by rw [hsame])
    · omega
  · split_ifs
    · exact .inl (by simp [hdigits, hw])
    · exact .inl (by simp [hdigits, hw])
    · exact .inl (by simp [hdigits, hw])
    · exact .inr (by rw [hsame])

/-- A number of a type of eight octets at most fits the type, and its written form is the
shortest. -/
theorem of_reads_integer {expected : IntegerForm} (hexpected : expected.width ≤ 8) {used : Bytes}
    {n : Nat} (h : (getInteger expected).Reads used n) :
    n < 256 ^ expected.width ∧ (putInteger n).ShorterOrSame used := by
  have hall := h []
  rw [List.append_nil] at hall
  rcases used with _ | ⟨head, digits⟩
  · cases hall
  by_cases hhead : head ≤ 250
  · rw [getInteger_cons_of_le hhead] at hall
    obtain ⟨rfl, rfl⟩ := Prod.mk.inj (Except.ok.inj hall)
    have hlt : head.toNat < 256 ^ 1 := head.toNat_lt
    refine ⟨hlt.trans_le (Nat.pow_le_pow_right (by decide) expected.width_pos), .inr ?_⟩
    have hsmall : head.toNat ≤ 250 := UInt8.le_iff_toNat_le.1 hhead
    rw [putInteger, if_pos hsmall, UInt8.ofNat_toNat]
  by_cases hwidth : (IntegerForm.ofHead head).width ≤ expected.width
  · rw [getInteger_cons_of_width hhead hwidth] at hall
    obtain ⟨octets, hoctets, hused⟩ := ((incremental_octets _).map _).reads hall
    obtain ⟨octets, hread, rfl⟩ := (reads_map_iff (incremental_octets _)).1 hused
    obtain ⟨rfl, hlength⟩ := reads_octets_iff.1 hread
    rw [List.append_nil] at hoctets
    subst hoctets
    refine ⟨?_, shorterOrSame_announced (hwidth.trans hexpected) hlength⟩
    refine (Bytes.ofLittleEndian_lt _).trans_le (Nat.pow_le_pow_right (by decide) ?_)
    rwa [hlength]
  · cases (getInteger_cons_of_lt hhead (not_le.1 hwidth) digits).symm.trans hall

theorem bounds_integer {expected : IntegerForm} (hexpected : expected.width ≤ 8) :
    (getInteger expected).Bounds putInteger :=
  fun h => (of_reads_integer hexpected h).2

/-! ### Octet strings, texts and lists -/

theorem bounds_octetString : getOctets.Bounds putOctets := by
  intro used data h
  obtain ⟨a, b, count, rfl, ha, hb⟩ :=
    (reads_bind_iff (incremental_integer .u64)).1 h
  obtain ⟨rfl, rfl⟩ := reads_octets_iff.1 hb
  exact (bounds_integer (by decide) ha).append (.refl _)

/-- A text is written in the octets that were read for it, after their length. -/
theorem bounds_text : getText.Bounds putText := by
  intro used s h
  obtain ⟨a, b, data, rfl, ha, hb⟩ := (reads_bind_iff incremental_octetString).1 h
  cases hdecode : Utf8.decode data with
  | error fault =>
    rw [hdecode] at hb
    exact absurd hb not_reads_fail
  | ok text =>
    rw [hdecode] at hb
    obtain ⟨rfl, rfl⟩ := reads_pure_iff.1 hb
    obtain rfl := Utf8.decode_eq_ok_iff.1 hdecode
    rw [List.append_nil]
    exact bounds_octetString ha

theorem bounds_list {α : Type} {item : Decoder α} {put : α → Bytes} (hitem : item.Incremental)
    (hput : item.Bounds put) : (getList item).Bounds (putList put) := by
  intro used values h
  obtain ⟨a, b, count, rfl, ha, hb⟩ :=
    (reads_bind_iff (incremental_integer .u64)).1 h
  obtain ⟨new, rfl, rfl, hnew⟩ := reads_timesFrom hitem hput hb
  exact (bounds_integer (by decide) ha).append hnew

/-! ### The types that cross a session -/

theorem bounds_identifier : getIdentifier.Bounds Codec.put := by
  intro used id h
  obtain ⟨a, b, octets, rfl, ha, hb⟩ := (reads_bind_iff incremental_octetString).1 h
  cases hoctets : TransactionId.ofOctets? octets with
  | none =>
    rw [hoctets] at hb
    exact absurd hb not_reads_fail
  | some id' =>
    rw [hoctets] at hb
    obtain ⟨rfl, rfl⟩ := reads_pure_iff.1 hb
    rw [TransactionId.ofOctets?] at hoctets
    split_ifs at hoctets
    obtain rfl := Option.some.inj hoctets
    rw [List.append_nil]
    exact bounds_octetString ha

theorem bounds_version : getVersion.Bounds Codec.put := by
  intro used v h
  obtain ⟨a, b, major, rfl, ha, hb⟩ := (reads_bind_iff (incremental_integer .u16)).1 h
  obtain ⟨b, c, minor, rfl, hb', hc⟩ := (reads_bind_iff (incremental_integer .u16)).1 hb
  obtain ⟨rfl, rfl⟩ := reads_pure_iff.1 hc
  obtain ⟨hmajor, hshort⟩ := of_reads_integer (by decide) ha
  obtain ⟨hminor, hshort'⟩ := of_reads_integer (by decide) hb'
  rw [List.append_nil]
  change Bytes.ShorterOrSame (putInteger (UInt16.ofNat major).toNat ++
    putInteger (UInt16.ofNat minor).toNat) _
  rw [UInt16.toNat_ofNat_of_lt' hmajor, UInt16.toNat_ofNat_of_lt' hminor]
  exact hshort.append hshort'

theorem bounds_variant : getVariant.Bounds putInteger :=
  bounds_integer (by decide)

theorem bounds_format : getFormat.Bounds putFormat := by
  intro used format h
  obtain ⟨a, b, n, rfl, ha, hb⟩ := (reads_bind_iff (incremental_integer .u32)).1 h
  split at hb
  case h_7 =>
    obtain ⟨name, hname, rfl⟩ := (reads_map_iff incremental_text).1 hb
    exact (bounds_variant ha).append (bounds_text hname)
  case h_8 => exact absurd hb not_reads_fail
  all_goals
    obtain ⟨rfl, rfl⟩ := reads_pure_iff.1 hb
    rw [List.append_nil]
    exact bounds_variant ha

theorem bounds_content : getContent.Bounds putContent := by
  intro used content h
  obtain ⟨a, b, n, rfl, ha, hb⟩ := (reads_bind_iff (incremental_integer .u32)).1 h
  split at hb
  case h_1 | h_2 | h_3 =>
    obtain ⟨s, hs, rfl⟩ := (reads_map_iff incremental_text).1 hb
    exact (bounds_variant ha).append (bounds_text hs)
  case h_4 | h_5 =>
    obtain ⟨data, hdata, rfl⟩ := (reads_map_iff incremental_octetString).1 hb
    exact (bounds_variant ha).append (bounds_octetString hdata)
  case h_6 =>
    obtain ⟨paths, hpaths, rfl⟩ := (reads_map_iff (incremental_list incremental_text)).1 hb
    exact (bounds_variant ha).append (bounds_list incremental_text bounds_text hpaths)
  case h_7 =>
    obtain ⟨b, c, name, rfl, hname, hc⟩ := (reads_bind_iff incremental_text).1 hb
    obtain ⟨c, d, data, rfl, hdata, hd⟩ := (reads_bind_iff incremental_octetString).1 hc
    obtain ⟨rfl, rfl⟩ := reads_pure_iff.1 hd
    rw [List.append_nil, ← List.append_assoc]
    exact ((bounds_variant ha).append (bounds_text hname)).append (bounds_octetString hdata)
  case h_8 => exact absurd hb not_reads_fail

theorem bounds_message : getMessage.Bounds putMessage := by
  intro used message h
  obtain ⟨a, b, n, rfl, ha, hb⟩ := (reads_bind_iff (incremental_integer .u32)).1 h
  split at hb
  case h_1 =>
    obtain ⟨b, c, id, rfl, hid, hc⟩ := (reads_bind_iff incremental_identifier).1 hb
    obtain ⟨c, d, formats, rfl, hformats, hd⟩ :=
      (reads_bind_iff (incremental_list incremental_format)).1 hc
    obtain ⟨d, e, sizeHint, rfl, hsizeHint, he⟩ :=
      (reads_bind_iff (incremental_integer .u64)).1 hd
    obtain ⟨rfl, rfl⟩ := reads_pure_iff.1 he
    obtain ⟨hlt, hshort⟩ := of_reads_integer (by decide) hsizeHint
    rw [List.append_nil, putMessage, UInt64.toNat_ofNat_of_lt' hlt]
    exact (bounds_variant ha).append ((bounds_identifier hid).append
      ((bounds_list incremental_format bounds_format hformats).append hshort))
  case h_2 =>
    obtain ⟨b, c, id, rfl, hid, hc⟩ := (reads_bind_iff incremental_identifier).1 hb
    obtain ⟨c, d, formats, rfl, hformats, hd⟩ :=
      (reads_bind_iff (incremental_list incremental_format)).1 hc
    obtain ⟨rfl, rfl⟩ := reads_pure_iff.1 hd
    rw [List.append_nil]
    exact (bounds_variant ha).append ((bounds_identifier hid).append
      (bounds_list incremental_format bounds_format hformats))
  case h_3 =>
    obtain ⟨b, c, id, rfl, hid, hc⟩ := (reads_bind_iff incremental_identifier).1 hb
    obtain ⟨c, d, contents, rfl, hcontents, hd⟩ :=
      (reads_bind_iff (incremental_list incremental_content)).1 hc
    obtain ⟨rfl, rfl⟩ := reads_pure_iff.1 hd
    rw [List.append_nil]
    exact (bounds_variant ha).append ((bounds_identifier hid).append
      (bounds_list incremental_content bounds_content hcontents))
  case h_4 =>
    obtain ⟨id, hid, rfl⟩ := (reads_map_iff incremental_identifier).1 hb
    exact (bounds_variant ha).append (bounds_identifier hid)
  case h_5 => exact absurd hb not_reads_fail

/-- **Written forms are the shortest.** Whatever octets a value of any kind is read from, its
written form is shorter or the same. -/
theorem bounds_kind (kind : Kind) : (Codec.get : Decoder kind.Value).Bounds Codec.put := by
  cases kind with
  | message => exact bounds_message
  | content => exact bounds_content
  | format => exact bounds_format
  | version => exact bounds_version
  | identifier => exact bounds_identifier

end Wire

end ClipExchange
