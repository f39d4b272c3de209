import Mathlib
import ClipExchange.Proofs.Wire.RoundTrip

/-!
# Prefixes of an input

A decoder works from the front. What it gives for an input therefore tells what it gives for
every input that continues it: a value stays, with the further octets left over, and so does a
failure, unless the input merely ended too early; in that case the failure counts the octets
that are still lacking. One refusal looks further ahead. Where a number of sixty-four bits is
announced too wide, the form that is called for depends on whether nine octets are left.

## Main definitions

* `Wire.Decoder.Refuses`: a failure on an input bears on the inputs that continue it.
* `Wire.Decoder.Incremental`: a decoder works from the front.

## Main results

* `Wire.Decoder.Incremental.bind`, `Wire.incremental_kind`: composition, and the types that cross
  a session.
* `Wire.decode_continued`: decoding an input that continues another one.
* `Wire.refusal_not_kept`: the refusal that looks further ahead.
-/

namespace ClipExchange

namespace Wire

namespace Decoder

variable {α β : Type}

/-- What a failure on an input says about the inputs that continue it. Octets that are fewer than
those lacking leave others lacking. An octet that announces a number too wide is refused whatever
follows, and how many octets follow tells which form is called for. Any other failure stays. -/
def Refuses (d : Decoder α) (input : Bytes) : DecodeError → Prop
  | .unexpectedEnd lacking => 0 < lacking ∧ ∀ more, more.length < lacking →
      d (input ++ more) = .error (.unexpectedEnd (lacking - more.length))
  | .invalidInteger _ found => ∃ (expected : IntegerForm) (before : Bytes) (head : UInt8)
      (after : Bytes), input = before ++ head :: after ∧
      ¬ head ≤ 250 ∧ IntegerForm.ofHead head = found ∧
      ∀ more, d (input ++ more) =
        .error (.invalidInteger (expected.called (after.length + more.length + 1)) found)
  | e => ∀ more, d (input ++ more) = .error e

/-- The decoder works from the front: a value is read from the octets that are taken, whatever
follows them, and a failure bears on every input that continues the one on which it arose. -/
structure Incremental (d : Decoder α) : Prop where
  reads : ∀ {input rest : Bytes} {value : α}, d input = .ok (value, rest) →
    ∃ used, input = used ++ rest ∧ d.Reads used value
  refuses : ∀ {input : Bytes} {e : DecodeError}, d input = .error e → d.Refuses input e

/-! ### Composition -/

/-- A decoder that fails where another one fails behind some octets bears the failure on. -/
theorem Refuses.behind {d : Decoder α} {d' : Decoder β} {input : Bytes} {e : DecodeError}
    (h : d.Refuses input e) (used : Bytes)
    (hd : ∀ more e, d (input ++ more) = .error e → d' (used ++ input ++ more) = .error e) :
    d'.Refuses (used ++ input) e := by
  cases e with
  | unexpectedEnd lacking => exact ⟨h.1, fun more hmore => hd more _ (h.2 more hmore)⟩
  | invalidInteger called found =>
    obtain ⟨expected, before, head, after, rfl, hhead, hfound, hmore⟩ := h
    exact ⟨expected, used ++ before, head, after, (List.append_assoc _ _ _).symm, hhead, hfound,
      fun more => hd more _ (hmore more)⟩
  | unexpectedVariant | invalidText | identifierLength => exact fun more => hd more _ (h more)

theorem incremental_pure (value : α) : (pure value : Decoder α).Incremental where
  reads h := by
    obtain ⟨rfl, rfl⟩ := Prod.mk.inj (Except.ok.inj h)
    exact ⟨[], rfl, reads_pure value⟩
  refuses h := by cases h

theorem incremental_fail {e : DecodeError}
    (he : ∀ input, (fail e : Decoder α).Refuses input e) : (fail e : Decoder α).Incremental where
  reads h := by cases h
  refuses h := by
    cases h
    exact he _

theorem bind_of_ok {d : Decoder α} {f : α → Decoder β} {input rest : Bytes} {x : α}
    (h : d input = .ok (x, rest)) : (d >>= f) input = f x rest := by
  change (d input >>= fun p => f p.1 p.2) = _
  rw [h]
  rfl

theorem bind_of_error {d : Decoder α} {f : α → Decoder β} {input : Bytes} {e : DecodeError}
    (h : d input = .error e) : (d >>= f) input = .error e := by
  change (d input >>= fun p => f p.1 p.2) = _
  rw [h]
  rfl

namespace Incremental

variable {d : Decoder α} {f : α → Decoder β}

theorem bind (hd : d.Incremental) (hf : ∀ x, (f x).Incremental) : (d >>= f).Incremental where
  reads {input rest y} h := by
    cases hx : d input with
    | error e => cases (bind_of_error hx).symm.trans h
    | ok p =>
      obtain ⟨x, left⟩ := p
      rw [bind_of_ok hx] at h
      obtain ⟨a, rfl, ha⟩ := hd.reads hx
      obtain ⟨b, rfl, hb⟩ := (hf x).reads h
      exact ⟨a ++ b, (List.append_assoc a b rest).symm, ha.bind hb⟩
  refuses {input e} h := by
    cases hx : d input with
    | error e' =>
      obtain rfl := Except.error.inj ((bind_of_error hx).symm.trans h)
      exact (hd.refuses hx).behind [] fun more e => bind_of_error
    | ok p =>
      obtain ⟨x, left⟩ := p
      rw [bind_of_ok hx] at h
      obtain ⟨a, rfl, ha⟩ := hd.reads hx
      refine ((hf x).refuses h).behind a fun more e he => ?_
      rw [List.append_assoc, bind_of_ok (ha _), he]

theorem map (g : α → β) (hd : d.Incremental) : (g <$> d).Incremental := by
  rw [← bind_pure_comp]
  exact hd.bind fun x => incremental_pure (g x)

end Incremental

/-! ### Runs of octets and of values -/

theorem octets_eq (count : Nat) (input : Bytes) :
    octets count input =
      if count ≤ input.length then .ok (input.take count, input.drop count)
      else .error (.unexpectedEnd (count - input.length)) := by
  simp only [octets, List.length_take]
  split_ifs
  · rfl
  · omega
  · omega
  · rw [Nat.min_eq_right (by omega)]

theorem incremental_octets (count : Nat) : (octets count).Incremental where
  reads {input rest data} h := by
    rw [octets_eq] at h
    split_ifs at h with hcount
    obtain ⟨rfl, rfl⟩ := Prod.mk.inj (Except.ok.inj h)
    have hlength : (input.take count).length = count := List.length_take_of_le hcount
    refine ⟨input.take count, (List.take_append_drop count input).symm, ?_⟩
    simpa only [hlength] using reads_octets (input.take count)
  refuses {input e} h := by
    rw [octets_eq] at h
    split_ifs at h with hcount
    obtain rfl := Except.error.inj h
    refine ⟨by omega, fun more hmore => ?_⟩
    rw [octets_eq, List.length_append, if_neg (by omega), Nat.sub_add_eq]

theorem timesFrom_succ (item : Decoder α) (done : List α) (count : Nat) :
    timesFrom item done (count + 1) =
      item >>= fun value => timesFrom item (value :: done) count := by
  funext input
  cases h : item input with
  | error e => simp only [timesFrom, h, bind_of_error h]
  | ok p => simp only [timesFrom, h, bind_of_ok h]

theorem incremental_times {item : Decoder α} (hitem : item.Incremental) (count : Nat) :
    (times count item).Incremental := by
  suffices h : ∀ done, (timesFrom item done count).Incremental from h []
  induction count with
  | zero => exact fun done => incremental_pure done.reverse
  | succ count ih =>
    intro done
    rw [timesFrom_succ]
    exact hitem.bind fun value => ih (value :: done)

end Decoder

open Decoder

/-! ### Numbers, octet strings, texts and lists -/

/-- An octet up to 250 is a number. -/
theorem getInteger_cons_of_le {head : UInt8} (h : head ≤ 250) (expected : IntegerForm)
    (rest : Bytes) : getInteger expected (head :: rest) = .ok (head.toNat, rest) :=
  if_pos h

/-- An octet above 250 announces the octets of a number. -/
theorem getInteger_cons_of_width {head : UInt8} {expected : IntegerForm} (h : ¬ head ≤ 250)
    (hwidth : (IntegerForm.ofHead head).width ≤ expected.width) (rest : Bytes) :
    getInteger expected (head :: rest) =
      (Bytes.ofLittleEndian <$> octets (IntegerForm.ofHead head).width) rest := by
  simp only [getInteger, if_neg h, if_pos hwidth]
  change _ = (octets _ rest >>= fun p => Except.ok (Bytes.ofLittleEndian p.1, p.2))
  cases octets (IntegerForm.ofHead head).width rest <;> rfl

/-- An octet that announces more than the type holds is refused. -/
theorem getInteger_cons_of_lt {head : UInt8} {expected : IntegerForm} (h : ¬ head ≤ 250)
    (hwidth : expected.width < (IntegerForm.ofHead head).width) (rest : Bytes) :
    getInteger expected (head :: rest) =
      .error (.invalidInteger (expected.called (rest.length + 1)) (IntegerForm.ofHead head)) := by
  simp only [getInteger, if_neg h, if_neg (not_le.2 hwidth), List.length_cons]

theorem incremental_integer (expected : IntegerForm) : (getInteger expected).Incremental where
  reads {input rest n} h := by
    rcases input with _ | ⟨head, after⟩
    · cases h
    by_cases hhead : head ≤ 250
    · rw [getInteger_cons_of_le hhead] at h
      obtain ⟨rfl, rfl⟩ := Prod.mk.inj (Except.ok.inj h)
      exact ⟨[head], rfl, getInteger_cons_of_le hhead expected⟩
    rcases le_or_gt (IntegerForm.ofHead head).width expected.width with hwidth | hwidth
    · rw [getInteger_cons_of_width hhead hwidth] at h
      obtain ⟨digits, rfl, hdigits⟩ := ((incremental_octets _).map _).reads h
      refine ⟨head :: digits, rfl, fun rest => ?_⟩
      rw [List.cons_append, getInteger_cons_of_width hhead hwidth, hdigits]
    · cases (getInteger_cons_of_lt hhead hwidth after).symm.trans h
  refuses {input e} h := by
    rcases input with _ | ⟨head, after⟩
    · obtain rfl := Except.error.inj h
      refine ⟨Nat.one_pos, fun more hmore => ?_⟩
      rw [List.length_eq_zero_iff.1 (Nat.lt_one_iff.1 hmore)]
      rfl
    by_cases hhead : head ≤ 250
    · cases (getInteger_cons_of_le hhead expected after).symm.trans h
    rcases le_or_gt (IntegerForm.ofHead head).width expected.width with hwidth | hwidth
    · rw [getInteger_cons_of_width hhead hwidth] at h
      refine (((incremental_octets _).map _).refuses h).behind [head] fun more e he => ?_
      exact (getInteger_cons_of_width hhead hwidth (after ++ more)).trans he
    · obtain rfl := Except.error.inj ((getInteger_cons_of_lt hhead hwidth after).symm.trans h)
      refine ⟨expected, [], head, after, rfl, hhead, rfl, fun more => ?_⟩
      rw [List.cons_append, getInteger_cons_of_lt hhead hwidth, List.length_append]

theorem incremental_octetString : getOctets.Incremental :=
  (incremental_integer .u64).bind incremental_octets

theorem incremental_text : getText.Incremental := by
  refine incremental_octetString.bind fun data => ?_
  split
  · exact incremental_pure _
  · exact incremental_fail fun _ _ => rfl

theorem incremental_list {α : Type} {item : Decoder α} (hitem : item.Incremental) :
    (getList item).Incremental :=
  (incremental_integer .u64).bind (incremental_times hitem)

/-! ### The types that cross a session -/

theorem incremental_identifier : getIdentifier.Incremental := by
  refine incremental_octetString.bind fun octets => ?_
  split
  · exact incremental_pure _
  · exact incremental_fail fun _ _ => rfl

theorem incremental_version : getVersion.Incremental :=
  (incremental_integer .u16).bind fun _ => (incremental_integer .u16).bind fun _ =>
    incremental_pure _

theorem incremental_format : getFormat.Incremental := by
  refine (incremental_integer .u32).bind fun n => ?_
  split
  case h_7 => exact incremental_text.map _
  case h_8 => exact incremental_fail fun _ _ => rfl
  all_goals exact incremental_pure _

theorem incremental_content : getContent.Incremental := by
  refine (incremental_integer .u32).bind fun n => ?_
  split
  case h_1 | h_2 | h_3 => exact incremental_text.map _
  case h_4 | h_5 => exact incremental_octetString.map _
  case h_6 => exact (incremental_list incremental_text).map _
  case h_7 =>
    exact incremental_text.bind fun _ => incremental_octetString.bind fun _ => incremental_pure _
  case h_8 => exact incremental_fail fun _ _ => rfl

theorem incremental_message : getMessage.Incremental := by
  refine (incremental_integer .u32).bind fun n => ?_
  split
  case h_1 =>
    exact incremental_identifier.bind fun _ => (incremental_list incremental_format).bind fun _ =>
      (incremental_integer .u64).bind fun _ => incremental_pure _
  case h_2 =>
    exact incremental_identifier.bind fun _ => (incremental_list incremental_format).bind fun _ =>
      incremental_pure _
  case h_3 =>
    exact incremental_identifier.bind fun _ => (incremental_list incremental_content).bind fun _ =>
      incremental_pure _
  case h_4 => exact incremental_identifier.map _
  case h_5 => exact incremental_fail fun _ _ => rfl

/-- **Values of every kind are read from the front.** -/
theorem incremental_kind (kind : Kind) : (Codec.get : Decoder kind.Value).Incremental := by
  cases kind with
  | message => exact incremental_message
  | content => exact incremental_content
  | format => exact incremental_format
  | version => exact incremental_version
  | identifier => exact incremental_identifier

/-! ### Decoding an input that continues another one -/

theorem IntegerForm.called_eq_u64_iff {expected : IntegerForm} {left : Nat} :
    expected.called left = .u64 ↔ expected = .u64 ∧ left < 9 := by
  unfold called
  split_ifs with h
  · simp only [false_iff]
    omega
  · refine ⟨fun hexpected => ⟨hexpected, ?_⟩, And.left⟩
    exact not_le.1 fun hleft => h ⟨hexpected, hleft⟩

/-- The form called for changes once at most, when nine octets are there. -/
theorem IntegerForm.called_of_le {expected : IntegerForm} {left more : Nat}
    (h : expected.called left ≠ .u64) (hle : left ≤ more) :
    expected.called more = expected.called left := by
  unfold called at h ⊢
  split_ifs at h ⊢ with hmore hleft hleft
  · rfl
  · exact absurd hmore.1 h
  · exact absurd ⟨hleft.1, hleft.2.trans hle⟩ hmore
  · rfl

variable {kind : Kind} {p : Bytes} {value : kind.Value} {e : DecodeError}

theorem decode_eq_ok_iff : decode p = .ok value ↔
    ∃ rest, (Codec.get : Decoder kind.Value) p = .ok (value, rest) := by
  change Except.map Prod.fst ((Codec.get : Decoder kind.Value) p) = _ ↔ _
  cases (Codec.get : Decoder kind.Value) p <;> simp [Except.map, Prod.ext_iff]

theorem decode_eq_error_iff : (decode p : Except DecodeError kind.Value) = .error e ↔
    (Codec.get : Decoder kind.Value) p = .error e := by
  change Except.map Prod.fst ((Codec.get : Decoder kind.Value) p) = _ ↔ _
  cases (Codec.get : Decoder kind.Value) p <;> simp [Except.map]

/-- A value stays, whatever follows. -/
theorem decode_append_of_ok (h : decode p = .ok value) (q : Bytes) :
    decode (p ++ q) = .ok value := by
  obtain ⟨rest, hrest⟩ := decode_eq_ok_iff.1 h
  obtain ⟨used, rfl, hused⟩ := (incremental_kind kind).reads hrest
  rw [List.append_assoc]
  exact decode_eq_ok_iff.2 ⟨_, hused _⟩

/-- A failure that is no early end and calls for no sixty-four bits stays, whatever follows. -/
theorem decode_append_of_error (h : (decode p : Except DecodeError kind.Value) = .error e)
    (hend : ∀ lacking, e ≠ .unexpectedEnd lacking)
    (hinteger : ∀ found, e ≠ .invalidInteger .u64 found) (q : Bytes) :
    (decode (p ++ q) : Except DecodeError kind.Value) = .error e := by
  rw [decode_eq_error_iff] at h ⊢
  have hrefuses := (incremental_kind kind).refuses h
  cases e with
  | unexpectedEnd lacking => exact absurd rfl (hend lacking)
  | invalidInteger called found =>
    obtain ⟨expected, before, head, after, -, -, -, hmore⟩ := hrefuses
    have hnow := hmore []
    rw [List.append_nil, h] at hnow
    obtain ⟨rfl, -⟩ := DecodeError.invalidInteger.inj (Except.error.inj hnow)
    rw [hmore q, IntegerForm.called_of_le (fun hcalled => hinteger found (by rw [hcalled]))]
    simp
  | unexpectedVariant | invalidText | identifierLength => exact hrefuses q

/-- Where sixty-four bits are called for, the number of octets behind the announcing one tells what
is called for in a continuation. -/
theorem decode_append_of_invalidInteger {found : IntegerForm}
    (h : (decode p : Except DecodeError kind.Value) = .error (.invalidInteger .u64 found)) :
    ∃ before head after, p = before ++ head :: after ∧ ¬ head ≤ 250 ∧
      IntegerForm.ofHead head = found ∧ after.length < 8 ∧
      ∀ q, (decode (p ++ q) : Except DecodeError kind.Value) = .error
        (.invalidInteger (if after.length + q.length < 8 then .u64 else .u32) found) := by
  rw [decode_eq_error_iff] at h
  obtain ⟨expected, before, head, after, hp, hhead, hfound, hmore⟩ :=
    (incremental_kind kind).refuses h
  have hnow := hmore []
  rw [List.append_nil, h] at hnow
  obtain ⟨hcalled, -⟩ := DecodeError.invalidInteger.inj (Except.error.inj hnow)
  obtain ⟨rfl, hafter⟩ := IntegerForm.called_eq_u64_iff.1 hcalled.symm
  refine ⟨before, head, after, hp, hhead, hfound, Nat.lt_of_succ_lt_succ hafter, fun q => ?_⟩
  rw [decode_eq_error_iff, hmore]
  simp only [IntegerForm.called, true_and]
  split_ifs <;> first | rfl | omega

/-- Octets that are fewer than those lacking leave others lacking. -/
theorem decode_append_of_unexpectedEnd {lacking : Nat}
    (h : (decode p : Except DecodeError kind.Value) = .error (.unexpectedEnd lacking)) :
    1 ≤ lacking ∧ ∀ q, q.length < lacking →
      (decode (p ++ q) : Except DecodeError kind.Value) =
        .error (.unexpectedEnd (lacking - q.length)) := by
  rw [decode_eq_error_iff] at h
  obtain ⟨hpos, hmore⟩ := (incremental_kind kind).refuses h
  exact ⟨hpos, fun q hq => decode_eq_error_iff.2 (hmore q hq)⟩

/-- A proper part of a written form is not itself a written form with octets behind it. -/
theorem decode_ne_ok_of_put_eq {q : Bytes} (hsize : (Codec.put value).length ≤ maxPayload)
    (hput : Codec.put value = p ++ q) (hq : q ≠ []) (other : kind.Value) :
    decode p ≠ .ok other := by
  intro h
  obtain ⟨rest, hrest⟩ := decode_eq_ok_iff.1 h
  obtain ⟨used, rfl, hused⟩ := (incremental_kind kind).reads hrest
  -- Reading the whole form leaves `rest ++ q` behind on the one hand and nothing on the other.
  have hwhole := reads_kind (lt_of_le_maxPayload hsize) []
  rw [List.append_nil, hput, List.append_assoc, hused] at hwhole
  have hnil : rest ++ q = [] := (Prod.mk.inj (Except.ok.inj hwhole)).2
  exact hq (List.append_eq_nil_iff.1 hnil).2

/-- A proper part of a written form ends too early, and lacks no more than what was cut off. -/
theorem decode_of_put_eq {q : Bytes} (hsize : (Codec.put value).length ≤ maxPayload)
    (hput : Codec.put value = p ++ q) (hq : q ≠ []) :
    ∃ lacking, (decode p : Except DecodeError kind.Value) = .error (.unexpectedEnd lacking) ∧
      1 ≤ lacking ∧ lacking ≤ q.length := by
  have hwhole : decode (p ++ q) = .ok value := hput ▸ decode_put hsize
  cases h : (decode p : Except DecodeError kind.Value) with
  | ok other => exact absurd h (decode_ne_ok_of_put_eq hsize hput hq other)
  | error e =>
    cases e with
    | unexpectedEnd lacking =>
      obtain ⟨hpos, hmore⟩ := decode_append_of_unexpectedEnd h
      refine ⟨lacking, rfl, hpos, not_lt.1 fun hlt => ?_⟩
      cases hwhole.symm.trans (hmore q hlt)
    | invalidInteger called found =>
      by_cases hcalled : called = .u64
      · subst hcalled
        obtain ⟨before, head, after, -, -, -, -, hmore⟩ := decode_append_of_invalidInteger h
        cases hwhole.symm.trans (hmore q)
      · have hmore := decode_append_of_error h nofun (by simpa using hcalled) q
        cases hwhole.symm.trans hmore
    | unexpectedVariant | invalidText | identifierLength =>
      cases hwhole.symm.trans (decode_append_of_error h nofun nofun q)

/-- **Decoding a continued input.** If an input gives a value, every continuation gives that value.
If it is refused for another reason than an early end, every continuation is refused for the same
reason, with one difference: where an octet announces more than sixty-four bits and fewer than
eight octets follow it, the refusal calls for sixty-four bits until eight octets follow, and for
thirty-two from then on. If the input ends too early, some octets are lacking, and a continuation
by fewer lacks the others. So an input that the written form of a value properly continues always
ends too early, and lacks no more than what was cut off. -/
theorem decode_continued (kind : Kind) (p : Bytes) :
    (∀ value : kind.Value, decode p = .ok value → ∀ q, decode (p ++ q) = .ok value) ∧
    (∀ e, (decode p : Except DecodeError kind.Value) = .error e →
      (∀ lacking, e ≠ .unexpectedEnd lacking) → (∀ found, e ≠ .invalidInteger .u64 found) →
      ∀ q, (decode (p ++ q) : Except DecodeError kind.Value) = .error e) ∧
    (∀ found, (decode p : Except DecodeError kind.Value) = .error (.invalidInteger .u64 found) →
      ∃ before head after, p = before ++ head :: after ∧ ¬ head ≤ 250 ∧
        IntegerForm.ofHead head = found ∧ after.length < 8 ∧
        ∀ q, (decode (p ++ q) : Except DecodeError kind.Value) = .error
          (.invalidInteger (if after.length + q.length < 8 then .u64 else .u32) found)) ∧
    (∀ lacking, (decode p : Except DecodeError kind.Value) = .error (.unexpectedEnd lacking) →
      1 ≤ lacking ∧ ∀ q, q.length < lacking →
        (decode (p ++ q) : Except DecodeError kind.Value) =
          .error (.unexpectedEnd (lacking - q.length))) ∧
    ∀ (value : kind.Value) (q : Bytes), (Codec.put value).length ≤ maxPayload →
      Codec.put value = p ++ q → q ≠ [] →
      ∃ lacking, (decode p : Except DecodeError kind.Value) = .error (.unexpectedEnd lacking) ∧
        1 ≤ lacking ∧ lacking ≤ q.length := by
  refine ⟨fun value h => decode_append_of_ok h, fun e h hend hinteger => ?_, fun found h => ?_,
    fun lacking h => ?_, fun value q hsize hput hq => ?_⟩
  · exact decode_append_of_error h hend hinteger
  · exact decode_append_of_invalidInteger h
  · exact decode_append_of_unexpectedEnd h
  · exact decode_of_put_eq hsize hput hq

/-- An identifier whose length is announced too wide, alone and with eight octets behind it: the
refusal changes, although it is no early end. -/
theorem refusal_not_kept : ¬ ∀ (kind : Kind) (p q : Bytes) (e : DecodeError),
    (decode p : Except DecodeError kind.Value) = .error e →
    (∀ lacking, e ≠ .unexpectedEnd lacking) →
    (decode (p ++ q) : Except DecodeError kind.Value) = .error e := by
  intro h
  have halone : (decode [3, 254] : Except DecodeError Message) =
      .error (.invalidInteger .u64 .u128) := rfl
  have hbehind : (decode ([3, 254] ++ List.replicate 8 0) : Except DecodeError Message) =
      .error (.invalidInteger .u32 .u128) := rfl
  have hkept := h .message [3, 254] (List.replicate 8 0) _ halone nofun
  cases hbehind.symm.trans hkept

/-- The first five octets of an answer without content lack thirteen; with four more they lack
nine. An unknown kind of message is refused whatever follows, a version is read whatever follows,
and an identifier whose length is announced too wide is refused in one of two ways. -/
theorem decode_continued_examples :
    (Codec.put (Message.empty (.ofNat 7))).length ≤ maxPayload ∧
    (∃ lacking, (decode [3, 16, 0, 0, 0] : Except DecodeError Message) =
      .error (.unexpectedEnd lacking) ∧ 1 ≤ lacking ∧ lacking ≤ 13) ∧
    (decode ([3, 16, 0, 0, 0] ++ [0, 0, 0, 0]) : Except DecodeError Message) =
      .error (.unexpectedEnd 9) ∧
    (∀ q, (decode ([9] ++ q) : Except DecodeError Message) =
      .error (.unexpectedVariant "ClipboardMessage" 3 9)) ∧
    (∀ q, decode ([0, 1, 9] ++ q) = .ok (⟨0, 1⟩ : Version)) ∧
    ∃ behind < 8, ∀ q, (decode ([3, 254] ++ q) : Except DecodeError Message) =
      .error (.invalidInteger (if behind + q.length < 8 then .u64 else .u32) .u128) := by
  have hsize : (Codec.put (Message.empty (.ofNat 7))).length ≤ maxPayload := by decide
  obtain ⟨-, -, -, hend, hcut⟩ := decode_continued .message [3, 16, 0, 0, 0]
  refine ⟨hsize, ?_, (hend 13 rfl).2 [0, 0, 0, 0] (by decide), ?_, ?_, ?_⟩
  · exact hcut (.empty (.ofNat 7)) [0, 0, 0, 0, 0, 0, 0, 0, 0, 0, 0, 0, 7] hsize rfl
      (List.cons_ne_nil _ _)
  · exact (decode_continued .message [9]).2.1 _ rfl nofun nofun
  · exact (decode_continued .version [0, 1, 9]).1 _ rfl
  · obtain ⟨-, -, after, -, -, -, hafter, hmore⟩ :=
      (decode_continued .message [3, 254]).2.2.1 .u128 rfl
    exact ⟨after.length, hafter, hmore⟩

end Wire

end ClipExchange
