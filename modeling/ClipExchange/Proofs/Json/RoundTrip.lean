import Mathlib
import ClipExchange.Proofs.Json.Values
import ClipExchange.Proofs.Text.Identifier

/-!
# Transactions survive their JSON form

A transaction, its representations and its state are read back from their JSON form as they were,
and so are identifiers, versions and the refusal of a late addition. Every value is read back
because its parts are: texts and numbers by their characters, identifiers and octets by their
digits, and the rest along the structure of the form.

## Main results

* `Json.read_write_of_reads`: a form that is read back to its end is read.
* `Json.read_write`: what is written as JSON is read back.
-/

namespace ClipExchange

namespace Json

open Reader

/-- A text that is no more than a written form is read. -/
theorem read_write_of_reads {α : Type} [Codec α] {value result : α}
    (h : (Codec.read : Reader α).Reads (Codec.write value) result) :
    read α (write value) = .ok result := by
  have hwhole := h.takes [] .ended
  rw [List.append_nil] at hwhole
  rw [read, readAll, write, String.toList_ofList, StateT.run, hwhole]
  rfl

/-! ### Parts -/

theorem reads_identifier (id : TransactionId) : readIdentifier.Reads (writeText id.text) id := by
  have htext := reads_text id.text
  refine ⟨htext.opens, fun rest hrest => ?_⟩
  rw [readIdentifier, bind_of_ok (htext.takes rest hrest), TransactionId.ofText?_text]
  rfl

theorem reads_octets (data : Bytes) : readOctets.Reads (writeOctets data) data := by
  have hoctet (b : UInt8) : (UInt8.ofNat <$> natural 255).Reads (writeNatural b.toNat) b := by
    have hnatural := reads_natural (Nat.le_of_lt_succ b.toNat_lt) (by decide)
    simpa using hnatural.map UInt8.ofNat
  exact reads_list_self hoctet data

theorem reads_state (state : TransactionState) :
    readState.Reads (writeText state.name) state := by
  cases state with
  | accumulating => exact reads_plain rfl
  | finalized => exact reads_plain rfl

theorem reads_content (content : Content) : readContent.Reads (writeContent content) content := by
  cases content with
  | text s => exact reads_carrying rfl ((reads_text s).map _)
  | html s => exact reads_carrying rfl ((reads_text s).map _)
  | richText s => exact reads_carrying rfl ((reads_text s).map _)
  | png data => exact reads_carrying rfl ((reads_octets data).map _)
  | bitmap data => exact reads_carrying rfl ((reads_octets data).map _)
  | fileList paths => exact reads_carrying rfl ((reads_list_self reads_text paths).map _)
  | other name data =>
    exact reads_carrying rfl (reads_record₂ (reads_text name) (reads_octets data) (by decide))

theorem reads_part (n : UInt16) :
    (UInt16.ofNat <$> natural 65535).Reads (writeNatural n.toNat) n := by
  have hnatural := reads_natural (Nat.le_of_lt_succ n.toNat_lt) (by decide)
  simpa using hnatural.map UInt16.ofNat

/-! ### Whole values -/

theorem reads_transaction (tx : Transaction) :
    (Codec.read : Reader Transaction).Reads (Codec.write tx) tx :=
  reads_record₃ (reads_identifier tx.id) (reads_list_self reads_content tx.contents)
    (reads_state tx.state) (by decide) (by decide) (by decide)

theorem reads_closed (e : Closed) : (Codec.read : Reader Closed).Reads (Codec.write e) e :=
  reads_carrying rfl (reads_record₁ (reads_identifier e.id))

theorem reads_version (v : Version) : (Codec.read : Reader Version).Reads (Codec.write v) v :=
  reads_record₂ (reads_part v.major) (reads_part v.minor) (by decide)

/-- **What is written as JSON is read back as it was**: transactions with any content in either
state, single representations, the refusal of a late addition, versions, identifiers and states. So
a transaction is read back that takes a further representation exactly if the written one does. -/
theorem read_write :
    (∀ tx : Transaction, read Transaction (write tx) = .ok tx) ∧
      (∀ (tx : Transaction) (content : Content),
        (∃ back next, read Transaction (write tx) = .ok back ∧ back.add content = .ok next) ↔
          ∃ next, tx.add content = .ok next) ∧
      (∀ content : Content, read Content (write content) = .ok content) ∧
      (∀ e : Closed, read Closed (write e) = .ok e) ∧
      (∀ v : Version, read Version (write v) = .ok v) ∧
      (∀ id : TransactionId, read TransactionId (write id) = .ok id) ∧
      ∀ state : TransactionState, read TransactionState (write state) = .ok state := by
  have htx (tx : Transaction) : read Transaction (write tx) = .ok tx :=
    read_write_of_reads (reads_transaction tx)
  refine ⟨htx, fun tx content => ?_, fun content => ?_, fun e => ?_, fun v => ?_, fun id => ?_,
    fun state => ?_⟩
  · constructor
    · rintro ⟨back, next, hback, hnext⟩
      obtain rfl := Except.ok.inj ((htx tx).symm.trans hback)
      exact ⟨next, hnext⟩
    · rintro ⟨next, hnext⟩
      exact ⟨tx, next, htx tx, hnext⟩
  · exact read_write_of_reads (reads_content content)
  · exact read_write_of_reads (reads_closed e)
  · exact read_write_of_reads (reads_version v)
  · exact read_write_of_reads (reads_identifier id)
  · exact read_write_of_reads (reads_state state)

/-- The form of a representation with a name of its own, which has a quote in it. -/
example : write (Content.other "a\"b" [0, 255]) =
    "\x7b\"Other\":\x7b\"format\":\"a\\\"b\",\"data\":[0,255]\x7d\x7d" := by
  decide +kernel

end Json

end ClipExchange
