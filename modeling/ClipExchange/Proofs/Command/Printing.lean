import Mathlib
import ClipExchange.Command.Run
import ClipExchange.Proofs.Stream.Messages

/-!
# Commands that print what a file holds

Two commands print the messages of a file: one prints everything that a message carries, and the
other what a consumer would take from it. The lines for a message are determined by the message
alone, and the messages by the octets of the file. So a file whose messages are printed to the end
can be put before any other file: its lines come first, and the other file is printed, and fails, as
it would alone. No message goes unreported: everything that it carries has a line, and what would be
taken from an answer has one.

## Main definitions

* `Command.printing?`: which file a command prints, and the lines for one message.
* `Command.lineCount`: the lines that a command is to print for a message.

## Main results

* `Command.length_printing`, `Command.head?_printing`: the lines for one message.
* `Command.report_of_holds`: what is printed of a file.
* `Command.printing_append`: a file behind another one.
-/

namespace ClipExchange

open Wire

/-- Lines behind others make a text behind another. -/
theorem Outcome.output_append (lines more : List String) (failure done : Option Failure) :
    (Outcome.mk (lines ++ more) failure).output =
      (Outcome.mk lines done).output ++ (Outcome.mk more failure).output := by
  rw [output, List.map_append, String.join_append]
  rfl

/-! ### The lines for a message -/

namespace Message

variable {message : Message}

/-- The number of representations that a message carries. -/
def itemCount : Message → Nat
  | data _ contents => contents.length
  | _ => 0

/-- Whether a message answers a request. -/
def isAnswer : Message → Bool
  | data _ _ | empty _ => true
  | offer _ _ _ | request _ _ => false

/-- A message has a line, and so has each representation that it carries. -/
theorem length_lines (message : Message) : message.lines.length = 1 + message.itemCount := by
  cases message with
  | data id contents => simp [lines, itemCount, Content.numbered, Nat.add_comm]
  | offer | request | empty => rfl

/-- The first line of a message names its transaction. -/
theorem head?_lines (message : Message) :
    ∃ front back, message.lines.head? = some (front ++ message.id.text ++ back) := by
  cases message with
  | offer id formats sizeHint =>
    refine ⟨"offer ", " (" ++ toString sizeHint.toNat ++ " bytes): " ++ Format.joined formats, ?_⟩
    simp only [lines, Message.id, List.head?_cons, String.append_assoc]
  | request id formats =>
    refine ⟨"request ", ": " ++ Format.joined formats, ?_⟩
    simp only [lines, Message.id, List.head?_cons, String.append_assoc]
  | data id contents =>
    refine ⟨"transaction ", " (" ++ toString contents.length ++ " items)", ?_⟩
    simp only [lines, Message.id, List.head?_cons, String.append_assoc]
  | empty id => exact ⟨"transaction ", " (0 items)", rfl⟩

/-- What would be taken from an answer is shown behind the name of its transaction. -/
theorem selectionLine?_of_isAnswer (accept : List Format) (h : message.isAnswer = true) :
    ∃ back, message.selectionLine? accept = some (message.id.text ++ back) := by
  have hshown (tx : Transaction) (htx : message.toTransaction = .ok tx) (hid : tx.id = message.id) :
      ∃ back, message.selectionLine? accept = some (message.id.text ++ back) := by
    simp only [selectionLine?, htx, hid]
    cases (tx.select accept).1 with
    | none => exact ⟨_, rfl⟩
    | some content => exact ⟨": " ++ content.describe, congrArg some (String.append_assoc ..)⟩
  cases message with
  | data id contents => exact hshown _ rfl rfl
  | empty id => exact hshown _ rfl rfl
  | offer | request => cases h

theorem selectionLine?_eq_none (accept : List Format) (h : message.isAnswer = false) :
    message.selectionLine? accept = none := by
  cases message with
  | offer | request => rfl
  | data | empty => cases h

/-- An answer is shown in one line, and no other message is shown. -/
theorem length_selectionLine? (accept : List Format) (message : Message) :
    (message.selectionLine? accept).toList.length = if message.isAnswer then 1 else 0 := by
  cases h : message.isAnswer with
  | true =>
    obtain ⟨back, hline⟩ := selectionLine?_of_isAnswer accept h
    rw [hline]
    rfl
  | false =>
    rw [selectionLine?_eq_none accept h]
    rfl

end Message

namespace Command

variable {config : Config} {command : Command} {around : Surroundings} {path : String}
  {lines : Message → List String} {files : Files} {data : Bytes} {messages : List Message}
  {failure : Option TransferError}

/-- The path of the file that a command prints, with the lines for one message of it. -/
def printing? (config : Config) : Command → Option (String × (Message → List String))
  | inspect input => some (input, Message.lines)
  | select input accept =>
    some (input, fun message =>
      (message.selectionLine? (accept.getD config.clipboard.accept)).toList)
  | pack _ _ | copy _ | paste _ => none

/-- The lines that a command is to print for a message: one for the message and one for each
representation that it carries, or one for what would be taken from an answer. -/
def lineCount : Command → Message → Nat
  | inspect _, message => 1 + message.itemCount
  | select _ _, message => if message.isAnswer then 1 else 0
  | pack _ _, _ | copy _, _ | paste _, _ => 0

/-- As many lines are printed for a message as are to be printed. -/
theorem length_printing (h : command.printing? config = some (path, lines)) (message : Message) :
    (lines message).length = command.lineCount message := by
  cases command with
  | inspect input =>
    cases h
    exact message.length_lines
  | select input accept =>
    cases h
    exact message.length_selectionLine? _
  | pack | copy | paste => cases h

/-- The first line for a message names its transaction. -/
theorem head?_printing (h : command.printing? config = some (path, lines)) {message : Message}
    {line : String} (hline : (lines message).head? = some line) :
    ∃ front back, line = front ++ message.id.text ++ back := by
  cases command with
  | inspect input =>
    cases h
    obtain ⟨front, back, hfirst⟩ := message.head?_lines
    exact ⟨front, back, Option.some.inj (hline.symm.trans hfirst)⟩
  | select input accept =>
    cases h
    dsimp only at hline
    cases hanswer : message.isAnswer with
    | true =>
      obtain ⟨back, hshown⟩ := Message.selectionLine?_of_isAnswer
        (accept.getD config.clipboard.accept) hanswer
      rw [hshown] at hline
      obtain rfl := Option.some.inj hline
      exact ⟨"", back, by rw [String.empty_append]⟩
    | false =>
      rw [Message.selectionLine?_eq_none _ hanswer] at hline
      cases hline
  | pack | copy | paste => cases h

/-! ### The lines for a file -/

/-- Such a command does nothing but print. -/
theorem run_of_printing (h : command.printing? config = some (path, lines)) :
    command.run config around = (report around.files path lines, around) := by
  cases command <;> cases h <;> rfl

/-- A file can be opened, and its octets are read from the beginning. -/
theorem openFrames_of_entry? (hfile : files.entry? path = some (.file data)) :
    openFrames files path = .ok (.ofBytes data) := by
  simp only [openFrames, Files.openStream, hfile]

/-- The lines of the messages that a file holds are printed, up to its end or the failure. -/
theorem report_of_holds (hfile : files.entry? path = some (.file data))
    (hdata : Holds data messages failure) :
    report files path lines = ⟨messages.flatMap lines, failure.map .ofTransfer⟩ := by
  have hmessages : (Pipe.ofBytes data).messages = (messages, failure) :=
    Pipe.messages_of_holds hdata rfl
  simp only [report, openFrames_of_entry? hfile, hmessages]

/-- **A file behind another one.** If a command prints a file to its end, then it prints the file
that has further octets behind these by printing the same lines and then what it prints of the
further octets alone, and it succeeds or fails as it does with these. Whole frames are printed to
their end, each of them as if it were the only one; so they are printed whatever is behind them. A
message is printed in a line of its own and one for each representation that it carries, or, if it
is an answer, in the one line with what would be taken from it; the first line names the
transaction. -/
theorem printing_append (config : Config) (command : Command) (path : String)
    (lines : Message → List String) (hprinting : command.printing? config = some (path, lines))
    (first second both : Surroundings) (front rest : Bytes)
    (hfirst : first.files.entry? path = some (.file front))
    (hsecond : second.files.entry? path = some (.file rest))
    (hboth : both.files.entry? path = some (.file (front ++ rest))) :
    let shown around := (command.run config around).1
    ((shown first).failure = none →
      (shown both).lines = (shown first).lines ++ (shown second).lines ∧
        (shown both).output = (shown first).output ++ (shown second).output ∧
        (shown both).failure = (shown second).failure) ∧
    ∀ frames : List (Bytes × Message),
      (∀ frame ∈ frames, frame.1.length ≤ maxPayload ∧ decode frame.1 = .ok frame.2) →
      front = (frames.flatMap fun frame => framed frame.1) →
      shown first = ⟨frames.flatMap fun frame => lines frame.2, none⟩ ∧
        ∀ frame ∈ frames, (lines frame.2).length = command.lineCount frame.2 ∧
          ∀ line, (lines frame.2).head? = some line →
            ∃ above below, line = above ++ frame.2.id.text ++ below := by
  intro shown
  have hshown {around : Surroundings} {data : Bytes} {messages : List Message}
      {failure : Option TransferError} (hfile : around.files.entry? path = some (.file data))
      (hdata : Holds data messages failure) :
      shown around = ⟨messages.flatMap lines, failure.map .ofTransfer⟩ :=
    (congrArg Prod.fst (run_of_printing hprinting)).trans (report_of_holds hfile hdata)
  constructor
  · intro hsuccess
    obtain ⟨messages, failure, hfront⟩ := exists_holds front
    obtain ⟨more, ending, hrest⟩ := exists_holds rest
    rw [hshown hfirst hfront] at hsuccess ⊢
    -- Success means that the first octets are read to their end.
    obtain rfl : failure = none := Option.map_eq_none_iff.1 hsuccess
    rw [hshown hsecond hrest, hshown hboth (hfront.append hrest), List.flatMap_append]
    exact ⟨rfl, Outcome.output_append _ _ _ _, rfl⟩
  · rintro frames hframes rfl
    refine ⟨?_, fun frame _ => ⟨length_printing hprinting frame.2, fun line hline => ?_⟩⟩
    · rw [hshown hfirst (holds_frames hframes), List.flatMap_map]
      rfl
    · exact head?_printing hprinting hline

/-- The frame of an answer with a file list, and two octets of a header behind it: the answer is
shown in two lines, and then the file fails as the two octets do. -/
theorem printing_append_torn :
    let answer : Message := .data (.ofNat 7) [.fileList ["/p"]]
    let payload := Codec.put answer
    let holding data : Surroundings := ⟨⟨[("in.bin", .file data)]⟩, .empty, .counting 0⟩
    let shown data := ((inspect "in.bin").run .default (holding data)).1
    (inspect "in.bin").printing? .default = some ("in.bin", Message.lines) ∧
      (shown (framed payload)).failure = none ∧
      (shown (framed payload ++ [0, 0])).lines =
        ["transaction 00000000-0000-0000-0000-000000000007 (1 items)", "  [0] file-list /p"] ∧
      (inspect "in.bin").lineCount answer = 2 ∧
      (shown (framed payload ++ [0, 0])).failure = some (.ofTransfer .streamClosed) := by
  intro answer payload holding shown
  obtain ⟨happend, hwhole⟩ := printing_append .default (inspect "in.bin") "in.bin" Message.lines rfl
    (holding (framed payload)) (holding [0, 0]) (holding (framed payload ++ [0, 0]))
    (framed payload) [0, 0] rfl rfl rfl
  have hframes : ∀ frame ∈ [(payload, answer)],
      frame.1.length ≤ maxPayload ∧ decode frame.1 = .ok frame.2 := by
    intro frame hframe
    obtain rfl := List.mem_singleton.1 hframe
    exact ⟨by decide, rfl⟩
  obtain ⟨hfirst, hreported⟩ := hwhole [(payload, answer)] hframes (List.append_nil _).symm
  have hfirst : shown (framed payload) = ⟨answer.lines, none⟩ :=
    hfirst.trans (by rw [List.flatMap_singleton])
  have hanswer : answer.lines =
      ["transaction 00000000-0000-0000-0000-000000000007 (1 items)", "  [0] file-list /p"] := by
    decide +kernel
  have htorn : Holds [0, 0] [] (some .streamClosed) := .tornHeader (by decide) (by decide)
  have hfile : Files.entry? (holding [0, 0]).files "in.bin" = some (.file [0, 0]) := rfl
  have hsecond : shown [0, 0] = ⟨[], some (.ofTransfer .streamClosed)⟩ := by
    change report (holding [0, 0]).files "in.bin" Message.lines = _
    exact report_of_holds hfile htorn
  have hsuccess : (shown (framed payload)).failure = none := by rw [hfirst]
  obtain ⟨hlines, -, hfailure⟩ := happend hsuccess
  refine ⟨rfl, hsuccess, hlines.trans ?_, ?_, hfailure.trans ?_⟩
  · change (shown (framed payload)).lines ++ (shown [0, 0]).lines = _
    rw [hfirst, hsecond, List.append_nil, hanswer]
  · have hcount := (hreported _ List.mem_cons_self).1
    rw [← hcount, hanswer]
    rfl
  · change (shown [0, 0]).failure = _
    rw [hsecond]

end Command

end ClipExchange
