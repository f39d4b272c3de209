import Mathlib
import ClipExchange.Proofs.Format.Asking
import ClipExchange.Proofs.Format.Payloads

/-!
# Spellings of a format

A format can be spelled in many ways: with letters in either case, with blanks around it, and, for
six of the formats, by several names. Reading brings every spelling to one form, which is what the
name of the format is read as again. A representation that is made for a format that was read shows
this format, so it is found by every spelling of it.

## Main definitions

* `Text.Recased`: a character in place of another that differs from it in letter case at most.

## Main results

* `Format.ofText_of_recased`, `Format.ofText_padded`: letter case and outer blanks do not matter.
* `Format.ofText_normal_form`: what reading a format brings every spelling to.
-/

namespace ClipExchange

namespace Text

variable {c d : Char} {cs ds : List Char}

/-- A character is another one, or the same ASCII letter in a given case. -/
def Recased (c d : Char) : Prop :=
  d = c ∨ d = c.toLower ∨ d = c.toUpper

theorem toNat_toUpper (c : Char) :
    c.toUpper.toNat = if 97 ≤ c.toNat ∧ c.toNat ≤ 122 then c.toNat - 32 else c.toNat := by
  have hrange : c.val ≥ 'a'.val ∧ c.val ≤ 'z'.val ↔ 97 ≤ c.toNat ∧ c.toNat ≤ 122 := Iff.rfl
  by_cases h : 97 ≤ c.toNat ∧ c.toNat ≤ 122
  · have hval : 97 ≤ c.val.toNat ∧ c.val.toNat ≤ 122 := h
    rw [if_pos h, Char.toUpper, dif_pos (hrange.2 h)]
    simp only [Char.toNat, UInt32.toNat_add, UInt32.toNat_sub, Char.reduceVal, UInt32.reduceToNat]
    omega
  · rw [if_neg h, Char.toUpper, dif_neg fun h' => h (hrange.1 h')]

theorem toLower_toUpper (c : Char) : c.toUpper.toLower = c.toLower := by
  rw [← Char.toNat_inj, toNat_toLower, toNat_toLower, toNat_toUpper]
  split_ifs <;> omega

theorem Recased.toLower_eq (h : Recased c d) : d.toLower = c.toLower := by
  rcases h with rfl | rfl | rfl
  · rfl
  · exact toLower_toLower c
  · exact toLower_toUpper c

/-- A text in lower case has no capital letters. -/
theorem not_capital_of_lowercase {s : String} (h : lowercase s = s) :
    ∀ c ∈ s.toList, ¬ ('A' ≤ c ∧ c ≤ 'Z') := by
  intro c hc hcapital
  have hrange : 65 ≤ c.toNat ∧ c.toNat ≤ 90 := hcapital
  have hmap : s.toList.map Char.toLower = s.toList.map id := by
    rw [lowercase_eq_iff.1 h, List.map_id]
  have hlower : c.toLower = c := List.map_inj_left.1 hmap c hc
  rw [← Char.toNat_inj, toNat_toLower, if_pos hrange] at hlower
  omega

/-! ### Blanks around a text -/

theorem trimChars_append_left {front : List Char} (hfront : ∀ c ∈ front, isBlank c = true)
    (cs : List Char) : trimChars (front ++ cs) = trimChars cs := by
  rw [trimChars, List.dropWhile_append_of_pos hfront, trimChars]

theorem trimChars_append_right {back : List Char} (hback : ∀ c ∈ back, isBlank c = true)
    (cs : List Char) : trimChars (cs ++ back) = trimChars cs := by
  have hreverse : ∀ c ∈ back.reverse, isBlank c = true := fun c hc =>
    hback c (List.mem_reverse.1 hc)
  rw [trimChars, trimChars, List.dropWhile_append]
  split_ifs with hcs
  · rw [List.isEmpty_iff.1 hcs, List.dropWhile_eq_nil_iff.2 hback]
  · rw [List.reverse_append, List.dropWhile_append_of_pos hreverse]

theorem trim_padded {front back : String} (hfront : ∀ c ∈ front.toList, isBlank c = true)
    (hback : ∀ c ∈ back.toList, isBlank c = true) (s : String) :
    trim (front ++ s ++ back) = trim s := by
  rw [trim_eq_iff, toList_trim, String.toList_append, String.toList_append,
    trimChars_append_right hback, trimChars_append_left hfront]

end Text

namespace Format

open Text

variable {s t name : String} {format : Format}

/-- The case of letters does not matter. -/
theorem ofText_of_recased (h : List.Forall₂ Recased s.toList t.toList) : ofText t = ofText s := by
  have hlower : lowercase t = lowercase s := by
    rw [lowercase_eq_iff, toList_lowercase, ← List.forall₂_eq_eq_eq, List.forall₂_map_left_iff,
      List.forall₂_map_right_iff]
    exact h.flip.imp fun _ _ hcased => Recased.toLower_eq hcased
  rw [← ofText_lowercase, hlower, ofText_lowercase]

/-- Blanks at the ends do not matter. -/
theorem ofText_padded {front back : String} (hfront : ∀ c ∈ front.toList, isBlank c = true)
    (hback : ∀ c ∈ back.toList, isBlank c = true) (s : String) :
    ofText (front ++ s ++ back) = ofText s := by
  rw [ofText, trim_padded hfront hback, ofText]

/-- No format goes by the name that another one has for itself. -/
theorem not_named_of_ofText_eq_other (h : ofText s = other name) (hne : format ≠ other name) :
    format.name ≠ name ∧ (name, format) ∉ aliases := by
  have hlookup := (ofText_eq_other_iff.1 h).2
  have hmem : (name, format) ∉ aliases := by
    intro hmem
    rw [(aliases_normal _ hmem).2.2] at hlookup
    cases hlookup
  refine ⟨?_, hmem⟩
  rintro rfl
  by_cases hown : ∃ own, format = other own
  · obtain ⟨own, rfl⟩ := hown
    exact hne rfl
  · exact hmem (mem_aliases_name fun own hformat => hown ⟨own, hformat⟩)

/-- A representation that is made for a format that was read shows this format. -/
theorem format_of_ofBytes?_ofText {data : Bytes} {content : Content}
    (h : Content.ofBytes? (ofText s) data = some content) : content.format = ofText s := by
  rw [Content.format_of_ofBytes? h, folded_ofText]

/-- **Reading a format brings every spelling to one form.** This form is read from its own name
again. It does not depend on the case of ASCII letters or on blanks around the text. A name of its
own is in lower case, has no blanks around it and is no name of another format. A representation
that is made for a format that was read shows this format, and a consumer who asks for any spelling
of it finds a representation that does. -/
theorem ofText_normal_form (s : String) :
    ofText (ofText s).name = ofText s ∧
    (∀ t, List.Forall₂ Recased s.toList t.toList → ofText t = ofText s) ∧
    (∀ front back : String, (∀ c ∈ front.toList, isBlank c = true) →
      (∀ c ∈ back.toList, isBlank c = true) → ofText (front ++ s ++ back) = ofText s) ∧
    (∀ name, ofText s = other name →
      trim name = name ∧ (∀ c ∈ name.toList, ¬ ('A' ≤ c ∧ c ≤ 'Z')) ∧
        ∀ format, format ≠ other name → format.name ≠ name ∧ (name, format) ∉ aliases) ∧
    (∀ data content, Content.ofBytes? (ofText s) data = some content →
      content.format = ofText s ∧
        ∀ (tx : Transaction) (t : String), content ∈ tx.contents → ofText t = ofText s →
          ∃ item, (tx.select [ofText t]).1 = some item ∧ item.format = ofText s) := by
  refine ⟨ofText_name_eq_iff.2 (canonical_ofText s), fun t h => ofText_of_recased h,
    fun front back hfront hback => ofText_padded hfront hback s, fun name hname => ?_,
    fun data content hcontent => ?_⟩
  · have hcanonical := canonical_ofText s
    rw [hname] at hcanonical
    obtain ⟨htrim, hlower, -⟩ := hcanonical
    exact ⟨htrim, not_capital_of_lowercase hlower,
      fun format hne => not_named_of_ofText_eq_other hname hne⟩
  · have hformat := format_of_ofBytes?_ofText hcontent
    refine ⟨hformat, fun tx t hmem hspelling => ?_⟩
    rw [hspelling, ← hformat]
    exact (Transaction.exists_select_iff hmem).2 rfl

/-- A name with letters in both cases, in two spellings and with other blanks around it. -/
theorem ofText_normal_form_foo :
    let s := " Application/X-Foo"
    let t := " APPLICATION/x-foo"
    let name := "application/x-foo"
    let content := Content.other name [0]
    let tx := Transaction.ofContents (.ofNat 7) [.text "note", content]
    (List.Forall₂ Recased s.toList t.toList ∧ ofText t = ofText s) ∧
      ((∀ c ∈ "\t".toList, isBlank c = true) ∧ (∀ c ∈ "\u3000".toList, isBlank c = true) ∧
        ofText ("\t" ++ s ++ "\u3000") = ofText s) ∧
      (ofText s = other name ∧ trim name = name ∧
        html ≠ other name ∧ html.name ≠ name ∧ (name, html) ∉ aliases) ∧
      Content.ofBytes? (ofText s) [0] = some content ∧ content.format = ofText s ∧
      content ∈ tx.contents ∧
      ∃ item, (tx.select [ofText t]).1 = some item ∧ item.format = ofText s := by
  intro s t name content tx
  obtain ⟨-, hcase, hpadded, hother, hcontent⟩ := ofText_normal_form s
  have hcased : List.Forall₂ Recased s.toList t.toList := by
    unfold Recased
    decide
  have hfront : ∀ c ∈ "\t".toList, isBlank c = true := by simp [isBlank]
  have hback : ∀ c ∈ "\u3000".toList, isBlank c = true := by simp [isBlank]
  have hname : ofText s = other name := by
    have htrim : trim s = "Application/X-Foo" := trim_eq_iff.2 (by decide)
    have hlower : lowercase "Application/X-Foo" = name := lowercase_eq_iff.2 (by decide)
    exact ofText_eq_other_iff.2 ⟨by rw [htrim, hlower], by decide⟩
  have hmade : Content.ofBytes? (ofText s) [0] = some content := by
    rw [hname]
    rfl
  have hmem : content ∈ tx.contents := List.mem_cons_of_mem _ (List.mem_singleton_self _)
  obtain ⟨htrim, -, hknown⟩ := hother name hname
  obtain ⟨hformat, hfound⟩ := hcontent _ _ hmade
  exact ⟨⟨hcased, hcase t hcased⟩, ⟨hfront, hback, hpadded _ _ hfront hback⟩,
    ⟨hname, htrim, by decide, hknown html (by decide)⟩, hmade, hformat, hmem,
    hfound tx t hmem (hcase t hcased)⟩

end Format

end ClipExchange
