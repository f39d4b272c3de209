import Mathlib
import ClipExchange.Proofs.Json.Scalars

/-!
# Lists, records and choices of JSON are read back

What is read back of the parts is read back of the whole. The items of a list and the fields of an
object stand one behind the other, each but the first behind a comma, so that a reader that takes
each of them takes them all.

The fields of a record are found by their names, and each is filled once. `Json.Fills` says how a
record passes from one field to the next; it is the same for records of any number of fields.

## Main definitions

* `Json.Fills`: written fields take a record through its fillings.

## Main results

* `Json.Reader.reads_list`: a list is read back if its items are.
* `Json.Reader.reads_record`: a record is read back if its fields are.
* `Json.Reader.reads_plain`, `Json.Reader.reads_carrying`: a case is read back by its name, or with
  its payload.
-/

namespace ClipExchange

namespace Json

variable {rest : List Char}

namespace Reader

variable {α β : Type} {item : Reader α} {written : List Char} {value : α} {done : List α}
  {fuel : Nat}

/-! ### Lists -/

/-- A written value is no end of a list. -/
theorem Reads.hasItem_first (h : item.Reads written value) (rest : List Char) :
    hasItem true (written ++ rest) = .ok (true, written ++ rest) := by
  obtain ⟨c, cs, rfl, hblank, hopens⟩ := h.opens
  rw [List.cons_append, hasItem, bind_of_ok (peek_cons hblank _)]
  simp only [if_neg hopens, if_true]
  rfl

theorem Reads.hasItem_next (h : item.Reads written value) (rest : List Char) :
    hasItem false (',' :: (written ++ rest)) = .ok (true, written ++ rest) := by
  obtain ⟨c, cs, rfl, hblank, hopens⟩ := h.opens
  rw [List.cons_append, hasItem, bind_of_ok (peek_cons (by decide) _)]
  change (skip >>= _) (',' :: c :: (cs ++ rest)) = _
  rw [bind_of_ok (skip_cons _ _), bind_of_ok (peek_cons hblank _)]
  simp only [if_neg hopens]
  rfl

/-- One item is read. -/
theorem itemsFrom_step {input : List Char} (h : item.Reads written value) (hrest : Closes rest)
    (hinput : hasItem done.isEmpty input = .ok (true, written ++ rest)) :
    itemsFrom item (fuel + 1) done input = itemsFrom item fuel (value :: done) rest := by
  rw [itemsFrom, bind_of_ok hinput, if_pos rfl, bind_of_ok (h.takes rest hrest)]

variable {write : β → List Char} {f : β → α} {values : List β}

theorem closes_items (write : β → List Char) (values : List β) (rest : List Char) :
    Closes (values.flatMap (fun value => ',' :: write value) ++ ']' :: rest) := by
  cases values with
  | nil => exact .item rest
  | cons value values => exact .comma _

/-- The items behind the first one are read one after the other. -/
theorem itemsFrom_eq (h : ∀ value ∈ values, item.Reads (write value) (f value))
    (hdone : done.isEmpty = false) (hfuel : values.length < fuel) :
    itemsFrom item fuel done (values.flatMap (fun value => ',' :: write value) ++ ']' :: rest) =
      .ok (done.reverse ++ values.map f, ']' :: rest) := by
  -- The items that were read and the steps that are left are general.
  induction values generalizing done fuel with
  | nil =>
    obtain ⟨fuel, rfl⟩ := Nat.exists_eq_add_one_of_ne_zero (Nat.ne_zero_of_lt hfuel)
    rw [List.map_nil, List.append_nil]
    rfl
  | cons value values ih =>
    obtain ⟨fuel, rfl⟩ := Nat.exists_eq_add_one_of_ne_zero (Nat.ne_zero_of_lt hfuel)
    have hvalue := h value List.mem_cons_self
    have hnext := hvalue.hasItem_next
      (values.flatMap (fun value => ',' :: write value) ++ ']' :: rest)
    rw [List.flatMap_cons, List.cons_append, List.cons_append, List.append_assoc,
      itemsFrom_step hvalue (closes_items write values rest) (hdone ▸ hnext),
      ih (fun v hv => h v (List.mem_cons_of_mem _ hv)) rfl (Nat.lt_of_succ_lt_succ hfuel)]
    simp

/-- Every item takes a comma at least, so the steps allowed for the length of a text are enough. -/
theorem length_le_items (write : β → List Char) (values : List β) :
    values.length ≤ (values.flatMap fun value => ',' :: write value).length := by
  induction values with
  | nil => exact Nat.zero_le _
  | cons value values ih =>
    rw [List.flatMap_cons, List.length_append, List.length_cons, List.length_cons]
    omega

theorem exists_items (h : ∀ value ∈ values, item.Reads (write value) (f value)) :
    ∃ cs, writeList write values = '[' :: cs ∧
      ∀ rest, items item (cs ++ rest) = .ok (values.map f, ']' :: rest) := by
  cases values with
  | nil => exact ⟨[']'], rfl, fun rest => rfl⟩
  | cons value values =>
    refine ⟨_, rfl, fun rest => ?_⟩
    have hvalue := h value List.mem_cons_self
    have hlength := length_le_items write values
    have hfuel : values.length < (write value ++
        (values.flatMap (fun value => ',' :: write value) ++ ']' :: rest)).length := by
      simp only [List.length_append, List.length_cons]
      omega
    rw [List.append_assoc, List.append_assoc, List.singleton_append, items]
    refine (itemsFrom_step hvalue (closes_items write values rest) ?_).trans
      (itemsFrom_eq (fun v hv => h v (List.mem_cons_of_mem _ hv)) rfl hfuel)
    exact hvalue.hasItem_first _

/-- **A list is read back** if its items are. -/
theorem reads_list (h : ∀ value ∈ values, item.Reads (write value) (f value)) :
    (list item).Reads (writeList write values) (values.map f) := by
  obtain ⟨cs, hcs, hitems⟩ := exists_items h
  refine ⟨⟨'[', cs, hcs, by decide, by decide⟩, fun rest _ => ?_⟩
  rw [hcs, List.cons_append, list, bind_of_ok (begin_cons (by decide) _), if_pos rfl,
    bind_of_ok (skip_cons _ _), bind_of_ok (hitems rest), bind_of_ok (mark_cons (by decide) _)]
  rfl

/-- A list is read back as it was if every item is. -/
theorem reads_list_self {write : α → List Char} (h : ∀ value, item.Reads (write value) value)
    (values : List α) : (list item).Reads (writeList write values) values := by
  have hlist := reads_list (f := id) fun value (_ : value ∈ values) => h value
  rwa [List.map_id] at hlist

end Reader

/-! ### Records -/

/-- The written fields take a record through its fillings: each is the written form of a field that
was not filled before. -/
inductive Fills {σ : Type} (fields : List (Field σ)) : σ → List (String × List Char) → σ → Prop
  | nil (record : σ) : Fills fields record [] record
  | cons {record next last : σ} {field : Field σ} {name : String} {written : List Char}
      {others : List (String × List Char)}
      (hfound : fields.find? (fun field => field.name == name) = some field)
      (hunfilled : field.isFilled record = false)
      (hreads : (field.fill record).Reads written next)
      (hothers : Fills fields next others last) :
      Fills fields record ((name, written) :: others) last

namespace Reader

variable {σ α : Type} {fields : List (Field σ)} {record next last blank : σ} {fuel : Nat}
  {written : List (String × List Char)}

theorem hasField_first (rest : List Char) : hasField true ('"' :: rest) = .ok (true, rest) :=
  rfl

theorem hasField_next (rest : List Char) : hasField false (',' :: '"' :: rest) = .ok (true, rest) :=
  rfl

theorem closes_fields (written : List (String × List Char)) (rest : List Char) :
    Closes (written.flatMap (fun field => ',' :: writeField field.1 field.2) ++
      '\x7d' :: rest) := by
  cases written with
  | nil => exact .field rest
  | cons field written => exact .comma _

theorem writeField_append (name : String) (value rest : List Char) :
    writeField name value ++ rest =
      '"' :: (name.toList.flatMap escaped ++ '"' :: ':' :: (value ++ rest)) := by
  simp [writeField, writeText]

/-- One field is read, if it is still to be filled. -/
theorem fieldsFrom_step {isFirst : Bool} {input value : List Char} {field : Field σ} {name : String}
    (hfound : fields.find? (fun field => field.name == name) = some field)
    (hunfilled : field.isFilled record = false) (hreads : (field.fill record).Reads value next)
    (hrest : Closes rest)
    (hinput : hasField isFirst input =
      .ok (true, name.toList.flatMap escaped ++ '"' :: ':' :: (value ++ rest))) :
    fieldsFrom fields (fuel + 1) isFirst record input = fieldsFrom fields fuel false next rest := by
  have hfield : oneField fields name record (':' :: (value ++ rest)) = .ok (next, rest) := by
    rw [oneField, hfound]
    simp only [hunfilled]
    exact (bind_of_ok (mark_cons (by decide) _)).trans (hreads.takes rest hrest)
  rw [fieldsFrom, bind_of_ok hinput, if_pos rfl, bind_of_ok (textBody_escaped name _),
    bind_of_ok hfield]

/-- The fields behind the first one are read one after the other. -/
theorem fieldsFrom_eq (h : Fills fields record written last) (hfuel : written.length < fuel) :
    fieldsFrom fields fuel false record
        (written.flatMap (fun field => ',' :: writeField field.1 field.2) ++ '\x7d' :: rest) =
      .ok (last, '\x7d' :: rest) := by
  induction h generalizing fuel with
  | nil record =>
    obtain ⟨fuel, rfl⟩ := Nat.exists_eq_add_one_of_ne_zero (Nat.ne_zero_of_lt hfuel)
    rfl
  | cons hfound hunfilled hreads hothers ih =>
    obtain ⟨fuel, rfl⟩ := Nat.exists_eq_add_one_of_ne_zero (Nat.ne_zero_of_lt hfuel)
    rw [List.flatMap_cons, List.cons_append, List.cons_append, List.append_assoc,
      writeField_append, fieldsFrom_step hfound hunfilled hreads (closes_fields _ rest)
        (hasField_next _)]
    exact ih (Nat.lt_of_succ_lt_succ hfuel)

theorem exists_objectFields (h : Fills fields blank written last) :
    ∃ cs, writeObject written = '\x7b' :: cs ∧
      ∀ rest, objectFields fields blank (cs ++ rest) = .ok (last, '\x7d' :: rest) := by
  cases h with
  | nil => exact ⟨['\x7d'], rfl, fun rest => rfl⟩
  | @cons _ next _ field name value others hfound hunfilled hreads hothers =>
    refine ⟨_, rfl, fun rest => ?_⟩
    have hlength := length_le_items (fun field => writeField field.1 field.2) others
    have hfuel : others.length < ('"' :: (name.toList.flatMap escaped ++ '"' :: ':' :: (value ++
        (others.flatMap (fun field => ',' :: writeField field.1 field.2) ++
          '\x7d' :: rest)))).length := by
      simp only [List.length_append, List.length_cons]
      omega
    rw [List.append_assoc, List.append_assoc, List.singleton_append, writeField_append,
      objectFields, fieldsFrom_step hfound hunfilled hreads (closes_fields _ rest)
        (hasField_first _)]
    exact fieldsFrom_eq hothers hfuel

/-- **A record is read back** if its fields take it from the blank one to a complete one. -/
theorem reads_record {finish : σ → Option α} {value : α} (h : Fills fields blank written last)
    (hfinish : finish last = some value) :
    (Reader.record fields blank finish).Reads (writeObject written) value := by
  obtain ⟨cs, hcs, hfields⟩ := exists_objectFields h
  refine ⟨⟨'\x7b', cs, hcs, by decide, by decide⟩, fun rest _ => ?_⟩
  have hcomplete : complete finish last ('\x7d' :: rest) = .ok (value, '\x7d' :: rest) := by
    rw [complete, hfinish]
    rfl
  rw [hcs, List.cons_append, Reader.record, bind_of_ok (begin_cons (by decide) _),
    if_neg (by decide), if_pos rfl, bind_of_ok (skip_cons _ _), bind_of_ok (hfields rest),
    bind_of_ok hcomplete, bind_of_ok (mark_cons (by decide) _)]
  rfl

/-! ### Choices -/

variable {cases : List (String × Case α)} {case : Case α} {name : String} {value : α}
  {payload : Reader α}

theorem caseName_eq (h : cases.lookup name = some case) (rest : List Char) :
    caseName cases (writeText name ++ rest) = .ok (case, rest) := by
  rw [writeText, List.cons_append, List.append_assoc, List.singleton_append, caseName,
    bind_of_ok (mark_cons (by decide) _), bind_of_ok (textBody_escaped name rest), h]
  rfl

/-- **A case without a payload is read back** by its name. -/
theorem reads_plain (h : cases.lookup name = some (.plain value)) :
    (choice cases).Reads (writeText name) value := by
  refine ⟨⟨'"', _, rfl, by decide, by decide⟩, fun rest _ => ?_⟩
  have hbegin : begin (writeText name ++ rest) = .ok ('"', writeText name ++ rest) :=
    begin_cons (by decide) _
  rw [choice, bind_of_ok hbegin, if_pos rfl, bind_of_ok (caseName_eq h rest)]
  rfl

/-- **A case with a payload is read back** if the payload is. -/
theorem reads_carrying {cs : List Char} (h : cases.lookup name = some (.carrying payload))
    (hpayload : payload.Reads cs value) : (choice cases).Reads (writeCase name cs) value := by
  refine ⟨⟨'\x7b', _, rfl, by decide, by decide⟩, fun rest _ => ?_⟩
  have hwritten : writeCase name cs ++ rest =
      '\x7b' :: (writeText name ++ ':' :: (cs ++ '\x7d' :: rest)) := by
    simp [writeCase, writeObject, writeField]
  rw [hwritten, choice, bind_of_ok (begin_cons (by decide) _), if_neg (by decide), if_pos rfl,
    bind_of_ok (skip_cons _ _), bind_of_ok (caseName_eq h _),
    bind_of_ok (mark_cons (by decide) _)]
  have hcase : Case.inObject (.carrying payload) (cs ++ '\x7d' :: rest) =
      .ok (value, '\x7d' :: rest) := hpayload.takes _ (.field rest)
  rw [bind_of_ok hcase, bind_of_ok (mark_cons (by decide) _)]
  rfl

/-! ### Records with few fields -/

variable {β γ τ : Type} {first : String × Reader α} {second : String × Reader β}
  {third : String × Reader γ} {a : α} {b : β} {c : γ} {as bs cs : List Char}

/-- A field is found under its own name. -/
theorem find?_self {σ : Type} (field : Field σ) (fields : List (Field σ)) :
    (field :: fields).find? (fun other => other.name == field.name) = some field := by
  simp

theorem find?_of_ne {σ : Type} {field : Field σ} {fields : List (Field σ)} {name : String}
    (h : field.name ≠ name) : (field :: fields).find? (fun other => other.name == name) =
      fields.find? fun other => other.name == name :=
  List.find?_cons_of_neg (by simpa using h)

theorem reads_record₁ {make : α → τ} (h : first.2.Reads as a) :
    (record₁ first make).Reads (writeObject [(first.1, as)]) (make a) :=
  reads_record (.cons (find?_self _ _) rfl (h.map _) (.nil _)) rfl

theorem reads_record₂ {make : α → β → τ} (h₁ : first.2.Reads as a) (h₂ : second.2.Reads bs b)
    (hne : first.1 ≠ second.1) :
    (record₂ first second make).Reads (writeObject [(first.1, as), (second.1, bs)]) (make a b) :=
  reads_record (.cons (find?_self _ _) rfl (h₁.map _)
    (.cons ((find?_of_ne hne).trans (find?_self _ _)) rfl (h₂.map _) (.nil _))) rfl

theorem reads_record₃ {make : α → β → γ → τ} (h₁ : first.2.Reads as a)
    (h₂ : second.2.Reads bs b) (h₃ : third.2.Reads cs c) (hne : first.1 ≠ second.1)
    (hne' : first.1 ≠ third.1) (hne'' : second.1 ≠ third.1) :
    (record₃ first second third make).Reads
      (writeObject [(first.1, as), (second.1, bs), (third.1, cs)]) (make a b c) :=
  reads_record (.cons (find?_self _ _) rfl (h₁.map _)
    (.cons ((find?_of_ne hne).trans (find?_self _ _)) rfl (h₂.map _)
      (.cons ((find?_of_ne hne').trans ((find?_of_ne hne'').trans (find?_self _ _))) rfl
        (h₃.map _) (.nil _)))) rfl

end Reader

end Json

end ClipExchange
