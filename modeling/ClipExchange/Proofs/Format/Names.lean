import Mathlib
import ClipExchange.Format

/-!
# Names of formats

A format is read from a text by dropping the blanks at both ends, bringing the letters to lower
case, and looking the rest up among the names of the six formats. The two steps on the text can be
taken in either order, since no letter is blank. So a name of the six is read as its format, and any
other name is read as itself exactly if it is in lower case and has no blanks at its ends.

## Main definitions

* `Format.folded`: a format whose own name is brought to lower case.
* `Format.Canonical`: a format that is read from its own name.

## Main results

* `Text.trim_lowercase`: dropping outer blanks and folding letters commute.
* `Format.ofText_lowercase`: reading a format ignores the case of letters.
* `Format.ofText_of_mem_aliases`: what the names of the six formats are read as.
* `Format.ofText_eq_other_iff`: the texts that are read as a format with a name of its own.
* `Format.ofText_name_eq_iff`, `Format.canonical_ofText`: the canonical formats are those that are
  read from their names, and those that are read from any text.
-/

namespace ClipExchange

namespace Text

variable {s t : String} {c : Char}

/-! ### Letters -/

theorem toNat_toLower (c : Char) :
    c.toLower.toNat = if 65 ≤ c.toNat ∧ c.toNat ≤ 90 then c.toNat + 32 else c.toNat := by
  have hrange : c.val ≥ 'A'.val ∧ c.val ≤ 'Z'.val ↔ 65 ≤ c.toNat ∧ c.toNat ≤ 90 := Iff.rfl
  by_cases h : 65 ≤ c.toNat ∧ c.toNat ≤ 90
  · have hval : c.val.toNat ≤ 90 := h.2
    rw [if_pos h, Char.toLower, dif_pos (hrange.2 h)]
    simp only [Char.toNat, UInt32.toNat_add, UInt32.toNat_sub, Char.reduceVal, UInt32.reduceToNat]
    omega
  · rw [if_neg h, Char.toLower, dif_neg fun h' => h (hrange.1 h')]

theorem toLower_toLower (c : Char) : c.toLower.toLower = c.toLower := by
  rw [← Char.toNat_inj, toNat_toLower, if_neg]
  rw [toNat_toLower]
  split_ifs <;> omega

theorem isBlank_eq_false (h : 65 ≤ c.toNat) (h' : c.toNat ≤ 122) : isBlank c = false := by
  simp only [isBlank, Bool.or_eq_false_iff, Bool.and_eq_false_iff, decide_eq_false_iff_not,
    beq_eq_false_iff_ne]
  omega

/-- A letter is blank in neither case. -/
theorem isBlank_toLower (c : Char) : isBlank c.toLower = isBlank c := by
  by_cases h : 65 ≤ c.toNat ∧ c.toNat ≤ 90
  · have hlower : c.toLower.toNat = c.toNat + 32 := by rw [toNat_toLower, if_pos h]
    rw [isBlank_eq_false (by omega) (by omega), isBlank_eq_false (by omega) (by omega)]
  · have hlower : c.toLower = c := by rw [← Char.toNat_inj, toNat_toLower, if_neg h]
    rw [hlower]

/-! ### Outer blanks and letter case -/

theorem trimChars_sublist (cs : List Char) : (trimChars cs).Sublist cs := by
  have hfront := List.rdropWhile_prefix isBlank (cs.dropWhile isBlank)
  exact hfront.sublist.trans (List.dropWhile_sublist isBlank)

theorem trimChars_map_toLower (cs : List Char) :
    trimChars (cs.map Char.toLower) = (trimChars cs).map Char.toLower := by
  have hblank : isBlank ∘ Char.toLower = isBlank := funext isBlank_toLower
  simp only [trimChars, ← List.map_reverse, List.dropWhile_map, hblank]

theorem trimChars_trimChars (cs : List Char) : trimChars (trimChars cs) = trimChars cs := by
  let front := cs.dropWhile isBlank
  have htrim : trimChars cs = front.rdropWhile isBlank := rfl
  have hpart := List.rdropWhile_prefix isBlank front
  -- What is left at the front is a character that stopped the dropping there.
  have hdrop : (front.rdropWhile isBlank).dropWhile isBlank = front.rdropWhile isBlank := by
    refine List.dropWhile_eq_self_iff.2 fun hpos => ?_
    rw [hpart.getElem hpos]
    exact List.dropWhile_get_zero_not isBlank cs (hpos.trans_le hpart.length_le)
  rw [htrim, trimChars, hdrop]
  exact List.rdropWhile_idempotent isBlank front

theorem trim_trim (s : String) : trim (trim s) = trim s := by
  rw [← String.toList_inj, toList_trim, toList_trim, trimChars_trimChars]

theorem trim_lowercase (s : String) : trim (lowercase s) = lowercase (trim s) := by
  rw [← String.toList_inj, toList_trim, toList_lowercase, toList_lowercase, toList_trim,
    trimChars_map_toLower]

theorem lowercase_lowercase (s : String) : lowercase (lowercase s) = lowercase s := by
  rw [← String.toList_inj, toList_lowercase, toList_lowercase, List.map_map]
  exact List.map_congr_left fun c _ => toLower_toLower c

theorem lowercase_eq_iff : lowercase s = t ↔ s.toList.map Char.toLower = t.toList := by
  rw [← String.toList_inj, toList_lowercase]

theorem trim_eq_iff : trim s = t ↔ trimChars s.toList = t.toList := by
  rw [← String.toList_inj, toList_trim]

/-- Blanks at the ends are missed whatever the case of the letters. -/
theorem lowercase_trim_eq_iff : lowercase (trim s) = lowercase s ↔ trim s = s := by
  refine ⟨fun h => ?_, fun h => by rw [h]⟩
  have hlength := congrArg (fun t => t.toList.length) h
  simp only [toList_lowercase, toList_trim, List.length_map] at hlength
  exact trim_eq_iff.2 ((trimChars_sublist s.toList).eq_of_length hlength)

end Text

namespace Format

open Text

/-- The format with a name of its own brought to lower case. -/
def folded : Format → Format
  | other name => other (lowercase name)
  | format => format

variable {format : Format} {s tag name : String}

/-! ### Reading a format -/

/-- Reading a format ignores the case of letters. -/
theorem ofText_lowercase (s : String) : ofText (lowercase s) = ofText s := by
  rw [ofText, trim_lowercase, lowercase_lowercase, ofText]

/-- Each of the names is in lower case and without outer blanks, and stands for a known format. -/
theorem aliases_normal : ∀ entry ∈ aliases,
    trimChars entry.1.toList = entry.1.toList ∧
      entry.1.toList.map Char.toLower = entry.1.toList ∧
      aliases.lookup entry.1 = some entry.2 := by
  decide

/-- A name of one of the six formats is read as that format. -/
theorem ofText_of_mem_aliases (h : (tag, format) ∈ aliases) : ofText tag = format := by
  obtain ⟨htrim, hlower, hlookup⟩ := aliases_normal _ h
  rw [ofText, trim_eq_iff.2 htrim, lowercase_eq_iff.2 hlower, ofTag, hlookup, Option.getD_some]

theorem mem_aliases_name (h : ∀ name, format ≠ other name) : (format.name, format) ∈ aliases := by
  cases format with
  | other name => exact absurd rfl (h name)
  | _ => decide

theorem ofTag_eq_other_iff : ofTag tag = other name ↔ tag = name ∧ aliases.lookup tag = none := by
  have hknown : ∀ entry ∈ aliases, ∀ name, entry.2 ≠ other name := by
    simp [aliases]
  rw [ofTag]
  cases hlookup : aliases.lookup tag with
  | none => simp
  | some format =>
    obtain ⟨before, after, haliases, -⟩ := List.lookup_eq_some_iff.1 hlookup
    have hmem : (tag, format) ∈ aliases := haliases ▸ by simp
    simpa using hknown _ hmem name

/-- A format with a name of its own is read from the texts that are this name in lower case and
without outer blanks, unless it is a name of the six. -/
theorem ofText_eq_other_iff :
    ofText s = other name ↔ lowercase (trim s) = name ∧ aliases.lookup name = none := by
  rw [ofText, ofTag_eq_other_iff]
  exact and_congr_right fun htag => by rw [htag]

/-- A format that is read from a text has its own name in lower case. -/
theorem folded_ofText (s : String) : (ofText s).folded = ofText s := by
  cases hformat : ofText s with
  | other name =>
    obtain ⟨rfl, -⟩ := ofText_eq_other_iff.1 hformat
    rw [folded, lowercase_lowercase]
  | _ => rfl

/-- The six formats are read from their names. -/
theorem ofText_name (h : ∀ name, format ≠ other name) : ofText format.name = format :=
  ofText_of_mem_aliases (mem_aliases_name h)

/-! ### Canonical formats -/

/-- A name of its own is in lower case, has no blanks at its ends and is none of the names of the
six formats. -/
def Canonical : Format → Prop
  | other name => trim name = name ∧ lowercase name = name ∧ aliases.lookup name = none
  | _ => True

/-- The formats that are read from their own names are the canonical ones. -/
theorem ofText_name_eq_iff : ofText format.name = format ↔ format.Canonical := by
  cases format with
  | other name =>
    have hends : lowercase (trim name) = name ↔ trim name = name ∧ lowercase name = name := by
      constructor
      · intro h
        have hlower : lowercase name = name := by
          rw [← h, lowercase_lowercase]
        exact ⟨lowercase_trim_eq_iff.1 (h.trans hlower.symm), hlower⟩
      · rintro ⟨htrim, hlower⟩
        rw [htrim, hlower]
    change ofText name = other name ↔ _
    rw [ofText_eq_other_iff, hends, Canonical, and_assoc]
  | _ => exact iff_of_true (ofText_name nofun) trivial

/-- Every format that is read from a text is canonical. -/
theorem canonical_ofText (s : String) : (ofText s).Canonical := by
  cases hformat : ofText s with
  | other name =>
    obtain ⟨rfl, hlookup⟩ := ofText_eq_other_iff.1 hformat
    refine ⟨?_, lowercase_lowercase _, hlookup⟩
    rw [trim_lowercase, trim_trim]
  | _ => trivial

end Format

end ClipExchange
