import Mathlib
import ClipExchange.Text.Lines

/-!
# Texts cut into lines

A line ends at a line feed, and what stands behind the last line feed is a line of its own unless
it is empty. A carriage return right before a line feed belongs to the terminator, so a line may end
in a carriage return only if another one follows it, or if no line feed follows. This determines the
lines of a text, and collecting them character by character finds them.

## Main definitions

* `Text.CutInLines`: characters, and the lines into which they are cut.

## Main results

* `Text.exists_cutInLines`: every text is cut into some lines.
* `Text.CutInLines.lines_eq`: they are the lines of the text.
* `Text.CutInLines.terminated`: a line in front of a text.
-/

namespace ClipExchange

namespace Text

variable {line rest front cs : List Char} {done cut : List (List Char)}

/-- Characters are cut into lines. -/
inductive CutInLines : List Char → List (List Char) → Prop
  | nil : CutInLines [] []
  /-- The last line has no terminator. -/
  | last {line : List Char} (hne : line ≠ []) (hline : '\n' ∉ line) : CutInLines line [line]
  /-- A line ends at a line feed. -/
  | feed {line rest : List Char} {cut : List (List Char)} (hline : '\n' ∉ line)
      (hreturn : line.getLast? ≠ some '\r') (hrest : CutInLines rest cut) :
      CutInLines (line ++ '\n' :: rest) (line :: cut)
  /-- A line ends at a line feed with a carriage return before it. -/
  | returnFeed {line rest : List Char} {cut : List (List Char)} (hline : '\n' ∉ line)
      (hrest : CutInLines rest cut) : CutInLines (line ++ '\r' :: '\n' :: rest) (line :: cut)

/-! ### Collecting lines -/

/-- Characters without a line feed are added to the open line. -/
theorem linesFrom_append (done : List (List Char)) (line rest : List Char)
    (hfront : '\n' ∉ front) :
    linesFrom done line (front ++ rest) = linesFrom done (front.reverse ++ line) rest := by
  induction front generalizing line with
  | nil => rfl
  | cons c front ih =>
    have hc : c ≠ '\n' := (List.ne_of_not_mem_cons hfront).symm
    rw [List.cons_append, linesFrom, ih _ (List.not_mem_of_not_mem_cons hfront),
      List.reverse_cons, List.append_assoc, List.singleton_append]
    exact hc

theorem closeLine_reverse (hreturn : line.getLast? ≠ some '\r') :
    closeLine line.reverse = line := by
  unfold closeLine
  split
  case h_1 cs hcs =>
    rw [← List.head?_reverse, hcs] at hreturn
    exact absurd rfl hreturn
  case h_2 => rw [List.reverse_reverse]

theorem closeLine_reverse_return (line : List Char) :
    closeLine (line ++ ['\r']).reverse = line := by
  rw [List.reverse_append, List.reverse_singleton, List.singleton_append, closeLine,
    List.reverse_reverse]

theorem CutInLines.linesFrom_eq (h : CutInLines cs cut) (done : List (List Char)) :
    linesFrom done [] cs = done.reverse ++ cut := by
  induction h generalizing done with
  | nil => simp [linesFrom]
  | @last line hne hline =>
    have hcollect := linesFrom_append done [] [] hline
    rw [List.append_nil, List.append_nil] at hcollect
    simp [hcollect, linesFrom, hne]
  | @feed line rest cut hline hreturn _ ih =>
    rw [linesFrom_append _ _ _ hline, List.append_nil, linesFrom, closeLine_reverse hreturn, ih,
      List.reverse_cons, List.append_assoc, List.singleton_append]
  | @returnFeed line rest cut hline _ ih =>
    have hfront : '\n' ∉ line ++ ['\r'] := by simpa using hline
    have hcut : line ++ '\r' :: '\n' :: rest = line ++ ['\r'] ++ '\n' :: rest := by simp
    rw [hcut, linesFrom_append _ _ _ hfront, List.append_nil, linesFrom,
      closeLine_reverse_return, ih, List.reverse_cons, List.append_assoc, List.singleton_append]

/-- The lines into which a text is cut are its lines. -/
theorem CutInLines.lines_eq {s : String} (h : CutInLines s.toList cut) :
    lines s = cut.map String.ofList := by
  rw [lines, h.linesFrom_eq, List.reverse_nil, List.nil_append]

/-! ### Cutting -/

/-- A line with either terminator in front of a text. -/
theorem CutInLines.terminated {terminator : List Char} (hline : '\n' ∉ line)
    (hreturn : line.getLast? ≠ some '\r')
    (hterminator : terminator = ['\n'] ∨ terminator = ['\r', '\n']) (hrest : CutInLines rest cut) :
    CutInLines (line ++ (terminator ++ rest)) (line :: cut) := by
  rcases hterminator with rfl | rfl
  · exact .feed hline hreturn hrest
  · exact .returnFeed hline hrest

/-- Every text is cut into lines: its first line ends at the first line feed. -/
theorem exists_cutInLines (cs : List Char) : ∃ cut, CutInLines cs cut := by
  induction hlength : cs.length using Nat.strong_induction_on generalizing cs with
  | _ n ih =>
    by_cases hmem : '\n' ∈ cs
    · obtain ⟨front, rest, rfl, hfront⟩ := List.eq_append_cons_of_mem hmem
      obtain ⟨cut, hcut⟩ := ih rest.length (by simp [← hlength]; omega) rest rfl
      by_cases hreturn : front.getLast? = some '\r'
      · obtain ⟨line, rfl⟩ := List.getLast?_eq_some_iff.1 hreturn
        have hline : '\n' ∉ line := fun h => hfront (List.mem_append_left _ h)
        rw [List.append_assoc]
        exact ⟨_, .returnFeed hline hcut⟩
      · exact ⟨_, .feed hfront hreturn hcut⟩
    · by_cases hne : cs = []
      · exact ⟨[], hne ▸ .nil⟩
      · exact ⟨[cs], .last hne hmem⟩

end Text

end ClipExchange
