import Mathlib
import ClipExchange.Proofs.Command.Printing
import ClipExchange.Proofs.Text.LineBreaks

/-!
# How many lines are printed

A message is printed in one line, with one more for each representation that it carries, and what a
consumer would take from an answer in one line. Texts are shown between quotes, with escapes, but
the names of tags and the paths of file lists are shown without any. So a line break in such a name
or path is printed, and every other one stands at the end of a line that was to be printed.

## Main definitions

* `Format.unescaped`, `Content.unescaped`, `Message.unescaped`: what is shown without escapes.

## Main results

* `Content.occurrences_describe`, `Format.occurrences_joined`: line breaks in what is shown of a
  representation and of tags.
* `Command.breaks_printed`: the line breaks in what a command prints.
-/

namespace ClipExchange

open Text

variable {b : Char}

/-- The name of a tag, which is shown without escapes. -/
def Format.unescaped : Format → String
  | other name => name
  | _ => ""

/-- The name or the paths of a representation, which are shown without escapes. -/
def Content.unescaped : Content → String
  | other name _ => name
  | fileList paths => String.join paths
  | _ => ""

namespace Message

/-- The names and paths of a message. -/
def unescaped : Message → String
  | offer _ formats _ | request _ formats => String.join (formats.map Format.unescaped)
  | data _ contents => String.join (contents.map Content.unescaped)
  | empty _ => ""

/-- The representation that a consumer of the given formats would take from a message. -/
def selected? (accept : List Format) (message : Message) : Option Content :=
  match message.toTransaction with
  | .error _ => none
  | .ok tx => (tx.select accept).1

end Message

/-! ### Line breaks in a line -/

namespace Format

theorem occurrences_name (hb : b ∈ lineBreaks) (format : Format) :
    occurrences b format.name = occurrences b format.unescaped := by
  cases format with
  | other name => rfl
  | _ => exact occurrences_of_visible hb (by decide)

/-- Tags in a line break it only where a name of theirs does. -/
theorem occurrences_joined (hb : b ∈ lineBreaks) (formats : List Format) :
    occurrences b (joined formats) = occurrences b (String.join (formats.map unescaped)) := by
  have hcomma : occurrences b ", " = 0 := occurrences_of_visible hb (by decide)
  rw [joined, occurrences_intercalate hcomma, occurrences_join, List.map_map, List.map_map]
  exact congrArg List.sum (List.map_congr_left fun format _ => occurrences_name hb format)

end Format

namespace Content

theorem occurrences_byteCount (hb : b ∈ lineBreaks) (n : Nat) :
    occurrences b (toString n ++ " bytes") = 0 := by
  have hbytes : occurrences b " bytes" = 0 := occurrences_of_visible hb (by decide)
  rw [occurrences_append, hbytes, Nat.add_zero]
  exact occurrences_repr hb n

/-- A representation in a line breaks it only where its name or a path of it does. -/
theorem occurrences_describe (hb : b ∈ lineBreaks) (content : Content) :
    occurrences b content.describe = occurrences b content.unescaped := by
  have hblank : occurrences b " " = 0 := occurrences_of_visible hb (by decide)
  have hcolon : occurrences b ":" = 0 := occurrences_of_visible hb (by decide)
  rw [describe, occurrences_append, occurrences_append, hblank, Format.occurrences_name hb,
    Nat.add_zero]
  cases content with
  | text s | html s | richText s =>
    simp only [format, Format.unescaped, detail, unescaped, occurrences_quoted hb,
      occurrences_empty]
  | fileList paths =>
    simp only [format, Format.unescaped, detail, unescaped, occurrences_intercalate hcolon,
      occurrences_join, occurrences_empty, Nat.zero_add]
  | png data | bitmap data =>
    simp only [format, Format.unescaped, detail, unescaped, occurrences_byteCount hb,
      occurrences_empty]
  | other name data =>
    simp only [format, Format.unescaped, detail, unescaped, occurrences_byteCount hb,
      occurrences_lowercase hb, Nat.add_zero]

/-- The numbers of representations break no line. -/
theorem occurrences_numbered (hb : b ∈ lineBreaks) (contents : List Content) :
    ((numbered contents).map (occurrences b)).sum =
      occurrences b (String.join (contents.map unescaped)) := by
  have hopen : occurrences b "  [" = 0 := occurrences_of_visible hb (by decide)
  have hclose : occurrences b "] " = 0 := occurrences_of_visible hb (by decide)
  have hline (entry : Content × Nat) :
      occurrences b ("  [" ++ toString entry.2 ++ "] " ++ entry.1.describe) =
        (occurrences b ∘ unescaped) entry.1 := by
    simp [hopen, hclose, occurrences_repr hb, occurrences_describe hb]
  have hmap : (numbered contents).map (occurrences b) =
      contents.zipIdx.map ((occurrences b ∘ unescaped) ∘ Prod.fst) := by
    rw [numbered, List.map_map]
    exact List.map_congr_left fun entry _ => hline entry
  rw [hmap, ← List.map_map, List.zipIdx_map_fst, occurrences_join, List.map_map]

end Content

/-! ### The lines for a message -/

namespace Message

/-- The lines for a message are broken only where a name or a path in it is. -/
theorem occurrences_lines (hb : b ∈ lineBreaks) (message : Message) :
    (message.lines.map (occurrences b)).sum = occurrences b message.unescaped := by
  have hid (id : TransactionId) : occurrences b id.text = 0 := occurrences_identifier hb id
  have hvisible {s : String} (h : s.toList.all isVisible = true) : occurrences b s = 0 :=
    occurrences_of_visible hb h
  cases message with
  | offer id formats sizeHint =>
    have hkind : occurrences b "offer " = 0 := hvisible (by decide)
    have hopen : occurrences b " (" = 0 := hvisible (by decide)
    have hclose : occurrences b " bytes): " = 0 := hvisible (by decide)
    simp [lines, unescaped, Format.occurrences_joined hb, occurrences_repr hb, hid, hkind, hopen,
      hclose]
  | request id formats =>
    have hkind : occurrences b "request " = 0 := hvisible (by decide)
    have hcolon : occurrences b ": " = 0 := hvisible (by decide)
    simp [lines, unescaped, Format.occurrences_joined hb, hid, hkind, hcolon]
  | data id contents =>
    have hkind : occurrences b "transaction " = 0 := hvisible (by decide)
    have hopen : occurrences b " (" = 0 := hvisible (by decide)
    have hclose : occurrences b " items)" = 0 := hvisible (by decide)
    simp [lines, unescaped, Content.occurrences_numbered hb, occurrences_repr hb, hid, hkind,
      hopen, hclose]
  | empty id =>
    have hkind : occurrences b "transaction " = 0 := hvisible (by decide)
    have hnone : occurrences b " (0 items)" = 0 := hvisible (by decide)
    simp [lines, unescaped, hid, hkind, hnone]

theorem occurrences_selectionLine? (hb : b ∈ lineBreaks) (accept : List Format)
    (message : Message) :
    ((message.selectionLine? accept).toList.map (occurrences b)).sum =
      occurrences b (((message.selected? accept).map Content.unescaped).getD "") := by
  have hcolon : occurrences b ": " = 0 := occurrences_of_visible hb (by decide)
  have hnone : occurrences b ": no acceptable representation" = 0 :=
    occurrences_of_visible hb (by decide)
  unfold selectionLine? selected?
  cases message.toTransaction with
  | error e => rfl
  | ok tx =>
    cases hselect : (tx.select accept).1 with
    | none => simp [hselect, occurrences_identifier hb, hnone]
    | some content =>
      simp [hselect, occurrences_identifier hb, hcolon, Content.occurrences_describe hb]

end Message

/-! ### What a command prints -/

theorem occurrences_lineFeed (b : Char) : occurrences b "\n" = if b = '\n' then 1 else 0 := by
  by_cases hb : b = '\n'
  · rw [if_pos hb, hb]
    rfl
  · rw [if_neg hb, occurrences_eq_zero_iff]
    exact fun hmem => hb (List.mem_singleton.1 hmem)

/-- Every line ends in a line feed. -/
theorem Outcome.occurrences_output (b : Char) (lines : List String) (failure : Option Failure) :
    occurrences b (Outcome.mk lines failure).output =
      (if b = '\n' then lines.length else 0) + (lines.map (occurrences b)).sum := by
  rw [output, occurrences_join, List.map_map]
  induction lines with
  | nil => simp
  | cons line lines ih =>
    rw [List.map_cons, List.sum_cons, ih, Function.comp_apply, occurrences_append,
      occurrences_lineFeed, List.map_cons, List.sum_cons, List.length_cons]
    split_ifs <;> omega

namespace Command

variable {config : Config} {command : Command} {path : String} {lines : Message → List String}

/-- The names and paths that a command shows of a message. -/
def unescaped (config : Config) : Command → Message → String
  | inspect _, message => message.unescaped
  | select _ accept, message =>
    ((message.selected? (accept.getD config.clipboard.accept)).map Content.unescaped).getD ""
  | pack _ _, _ | copy _, _ | paste _, _ => ""

/-- The text that is printed for a message. -/
def printed (lines : Message → List String) (message : Message) : String :=
  (Outcome.mk (lines message) none).output

theorem occurrences_printed (hprinting : command.printing? config = some (path, lines))
    (hb : b ∈ lineBreaks) (message : Message) :
    occurrences b (printed lines message) =
      (if b = '\n' then command.lineCount message else 0) +
        occurrences b (command.unescaped config message) := by
  rw [printed, Outcome.occurrences_output, length_printing hprinting]
  refine congrArg _ ?_
  cases command with
  | inspect input =>
    cases hprinting
    exact Message.occurrences_lines hb message
  | select input accept =>
    cases hprinting
    exact Message.occurrences_selectionLine? hb _ message
  | pack | copy | paste => cases hprinting

/-- The messages of a file are printed one behind the other. -/
theorem output_flatMap (lines : Message → List String) (messages : List Message) :
    (Outcome.mk (messages.flatMap lines) none).output =
      String.join (messages.map (printed lines)) := by
  induction messages with
  | nil => rfl
  | cons message messages ih =>
    rw [List.flatMap_cons, Outcome.output_append _ _ none none, ih, List.map_cons,
      String.join_cons]
    rfl

/-- **Line breaks in what a command prints.** A command that prints a file prints its messages one
behind the other. For a message it prints the lines that it is to print, and each ends in a line
feed. Any further line break is one in a name or a path that is shown. So exactly the lines that are
to be printed are printed if and only if no name or path that is shown holds a line feed. -/
theorem breaks_printed (config : Config) (command : Command) (path : String)
    (lines : Message → List String) (hprinting : command.printing? config = some (path, lines))
    (around : Surroundings) (data : Bytes) (messages : List Message)
    (hfile : around.files.entry? path = some (.file data))
    (hdata : Wire.Holds data messages none) :
    let shown := (command.run config around).1
    let raw := command.unescaped config
    (shown.failure = none ∧ shown.output = String.join (messages.map (printed lines))) ∧
    (∀ message, ∀ b ∈ lineBreaks, occurrences b (printed lines message) =
      (if b = '\n' then command.lineCount message else 0) + occurrences b (raw message)) ∧
    occurrences '\n' shown.output =
      (messages.map command.lineCount).sum + occurrences '\n' (String.join (messages.map raw)) ∧
    ((∀ message ∈ messages,
        occurrences '\n' (printed lines message) = command.lineCount message) ↔
      ∀ message ∈ messages, '\n' ∉ (raw message).toList) ∧
    (∀ content : Content, ∀ b ∈ lineBreaks,
      b ∈ content.describe.toList ↔ b ∈ content.unescaped.toList) ∧
    ∀ formats : List Format, ∀ b ∈ lineBreaks,
      b ∈ (Format.joined formats).toList ↔ ∃ format ∈ formats, b ∈ format.unescaped.toList := by
  intro shown raw
  have hfeed : '\n' ∈ lineBreaks := List.mem_cons_self
  have hshown : shown = ⟨messages.flatMap lines, none⟩ :=
    (congrArg Prod.fst (run_of_printing hprinting)).trans (report_of_holds hfile hdata)
  have hprinted (message : Message) : occurrences '\n' (printed lines message) =
      command.lineCount message + occurrences '\n' (raw message) := by
    rw [occurrences_printed hprinting hfeed, if_pos rfl]
  rw [hshown, output_flatMap]
  refine ⟨⟨rfl, rfl⟩, fun message b hb => occurrences_printed hprinting hb message, ?_, ?_, ?_, ?_⟩
  · rw [occurrences_join, occurrences_join, List.map_map, List.map_map, ← List.sum_map_add]
    exact congrArg List.sum (List.map_congr_left fun message _ => hprinted message)
  · refine forall₂_congr fun message _ => ?_
    rw [hprinted, ← occurrences_eq_zero_iff, Nat.add_eq_left]
  · intro content b hb
    rw [← occurrences_pos_iff, ← occurrences_pos_iff, Content.occurrences_describe hb]
  · intro formats b hb
    rw [← occurrences_pos_iff, Format.occurrences_joined hb, occurrences_pos_iff,
      String.toList_join]
    simp

/-- A file `in.bin` with the frame of one message. -/
def holding (message : Message) : Surroundings :=
  ⟨⟨[("in.bin", .file (Wire.framed (Wire.Codec.put message)))]⟩, .empty, .counting 0⟩

theorem holds_framed (message : Message)
    (hsize : (Wire.Codec.put message).length ≤ Wire.maxPayload) :
    Wire.Holds (Wire.framed (Wire.Codec.put message)) [message] none := by
  rw [← List.append_nil (Wire.framed _)]
  exact .message hsize (@Wire.decode_put .message message hsize) .nil

/-- A text with a line feed in it is shown on one line, and so is a path without one. -/
theorem breaks_printed_twoItems :
    let message : Message := .data (.ofNat 7) [.text "a\nb", .fileList ["/c"]]
    let shown := ((inspect "in.bin").run .default (holding message)).1
    (inspect "in.bin").printing? .default = some ("in.bin", Message.lines) ∧
      (holding message).files.entry? "in.bin" =
        some (.file (Wire.framed (Wire.Codec.put message))) ∧
      Wire.Holds (Wire.framed (Wire.Codec.put message)) [message] none ∧
      shown.failure = none ∧ occurrences '\n' shown.output = 3 := by
  intro message shown
  have hdata := holds_framed message (by decide)
  obtain ⟨⟨hfailure, -⟩, -, hcount, -⟩ := breaks_printed .default (inspect "in.bin") "in.bin"
    Message.lines rfl (holding message) _ [message] rfl hdata
  exact ⟨rfl, rfl, hdata, hfailure, hcount.trans (by decide +kernel)⟩

/-- **A name and a path that break their lines.** One representation arrives under a name with a
line feed in it, and another one with such a path. Printing their message takes five lines, not one
and one more for each of them, and showing what a consumer of paths would take takes two. -/
theorem lines_forged :
    let message : Message := .data (.ofNat 7) [.other "x\ny" [0], .fileList ["/p\n/q"]]
    let printing command := ((Command.run .default command (holding message)).1).output
    let selecting := select "in.bin" (some [.fileList])
    Wire.Holds (Wire.framed (Wire.Codec.put message)) [message] none ∧
      printing (inspect "in.bin") =
        "transaction 00000000-0000-0000-0000-000000000007 (2 items)\n" ++
          "  [0] x\ny 1 bytes\n  [1] file-list /p\n/q\n" ∧
      occurrences '\n' (printing (inspect "in.bin")) = 5 ∧ 1 + message.itemCount = 3 ∧
      printing selecting = "00000000-0000-0000-0000-000000000007: file-list /p\n/q\n" ∧
      occurrences '\n' (printing selecting) = 2 := by
  intro message printing selecting
  have hinspect : printing (inspect "in.bin") =
      "transaction 00000000-0000-0000-0000-000000000007 (2 items)\n" ++
        "  [0] x\ny 1 bytes\n  [1] file-list /p\n/q\n" := by
    decide +kernel
  have hselect : printing selecting =
      "00000000-0000-0000-0000-000000000007: file-list /p\n/q\n" := by
    decide +kernel
  refine ⟨holds_framed _ (by decide), hinspect, ?_, rfl, hselect, ?_⟩
  · rw [hinspect]
    decide
  · rw [hselect]
    decide

end Command

end ClipExchange
