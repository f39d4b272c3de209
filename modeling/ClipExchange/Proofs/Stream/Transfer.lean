import Mathlib
import ClipExchange.Stream.Pipe

/-!
# Transfers of a whole buffer

A buffer is moved through one end of a pipe transfer by transfer; each transfer moves at most
the limit of the pipe and stops short of a pending failure. How the buffer is cut into transfers
makes no difference: what is moved in all, and how the attempt ends, depends only on the octets
that there are and on those that may pass before the failure.

## Main definitions

* `PipeEnd.met?`: the failure that stands in the way of a number of octets.
* `PipeEnd.FailsAfter`, `PipeEnd.Passes`: where a failure stands, and how far octets may pass.

## Main results

* `Pipe.gatherFrom_eq`: what an attempt to read a number of octets gives.
* `Pipe.writeFrom_eq`: what an attempt to write a buffer gives.
* `Pipe.gather_of_passes`, `Pipe.gather_of_passes_of_lt`, `Pipe.gather_of_failsAfter`,
  `Pipe.writeAll_of_passes`, `Pipe.writeAll_of_failsAfter`: the ways in which both end.
* `Pipe.gather_append`, `Pipe.gather_of_lt`: reading at an end without a failure.
-/

namespace ClipExchange

namespace PipeEnd

variable {side : PipeEnd} {n want count : Nat} {failure : StreamFailure}

/-- The failure that stands in the way of a number of octets. -/
def met? (side : PipeEnd) (want : Nat) : Option StreamFailure :=
  match side.pending with
  | some fault => if want ≤ fault.position - side.passed then none else some fault.failure
  | none => none

/-- Octets may pass in two parts. -/
theorem advance_advance_sub (side : PipeEnd) (h : count ≤ want) :
    (side.advance count).advance (want - count) = side.advance want := by
  obtain ⟨n, rfl⟩ := Nat.exists_eq_add_of_le h
  simp [advance, Nat.add_assoc]

@[simp]
theorem met?_zero (side : PipeEnd) : side.met? 0 = none := by
  unfold met?
  split <;> simp

theorem due?_eq_some_iff : side.due? = some failure ↔
    ∃ fault, side.pending = some fault ∧ fault.position ≤ side.passed ∧
      fault.failure = failure := by
  unfold due?
  cases side.pending with
  | none => simp
  | some fault => simp

/-- Nothing stands in the way where there is room for all. -/
theorem room_of_met?_eq_none (h : side.met? want = none) : side.room want = want := by
  unfold met? at h
  unfold room
  cases hpending : side.pending with
  | none => rfl
  | some fault =>
    simp only [hpending] at h ⊢
    split_ifs at h with hwant
    exact Nat.min_eq_left hwant

/-- A failure that the next transfer meets leaves no room before it. -/
theorem room_of_due? (h : side.due? = some failure) : side.room want = 0 := by
  obtain ⟨fault, hpending, hle, -⟩ := due?_eq_some_iff.1 h
  simp only [room, hpending]
  omega

theorem met?_of_due? (hwant : 0 < want) (h : side.due? = some failure) :
    side.met? want = some failure := by
  obtain ⟨fault, hpending, hle, rfl⟩ := due?_eq_some_iff.1 h
  simp only [met?, hpending]
  exact if_neg (by omega)

/-- Octets that pass take up as much of the room. -/
theorem room_advance (h : count ≤ side.room want) :
    (side.advance count).room (want - count) = side.room want - count := by
  unfold room at h ⊢
  unfold advance
  cases hpending : side.pending with
  | none => rfl
  | some fault =>
    simp only [hpending] at h ⊢
    omega

/-- Octets that pass leave the same failure before the others. -/
theorem met?_advance (h : count ≤ side.room want) :
    (side.advance count).met? (want - count) = side.met? want := by
  unfold room at h
  unfold met? advance
  cases hpending : side.pending with
  | none => rfl
  | some fault =>
    simp only [hpending] at h ⊢
    exact if_congr (by omega) rfl rfl

/-! ### Where a failure stands -/

/-- A failure awaits the transfer that would start when so many more octets have passed. -/
def FailsAfter (side : PipeEnd) (n : Nat) (failure : StreamFailure) : Prop :=
  ∃ fault, side.pending = some fault ∧ fault.position - side.passed = n ∧ fault.failure = failure

/-- So many octets may pass before a failure is met. -/
def Passes (side : PipeEnd) (n : Nat) : Prop :=
  ∀ k failure, side.FailsAfter k failure → n ≤ k

theorem passes_iff : side.Passes n ↔
    ∀ fault, side.pending = some fault → n ≤ fault.position - side.passed := by
  refine ⟨fun h fault hpending => h _ _ ⟨fault, hpending, rfl, rfl⟩, fun h k failure hfail => ?_⟩
  obtain ⟨fault, hpending, rfl, -⟩ := hfail
  exact h fault hpending

theorem passes_iff_met?_eq_none : side.Passes n ↔ side.met? n = none := by
  rw [passes_iff, met?]
  cases side.pending <;> simp

theorem passes_one_iff_due?_eq_none : side.Passes 1 ↔ side.due? = none := by
  rw [passes_iff, due?]
  cases side.pending with
  | none => simp
  | some fault =>
    simp only [Option.some.injEq, forall_eq', ite_eq_right_iff, reduceCtorEq, imp_false]
    omega

theorem Passes.le_room (h : side.Passes n) (hwant : n ≤ want) : n ≤ side.room want := by
  rw [passes_iff] at h
  unfold room
  cases hpending : side.pending with
  | none => exact hwant
  | some fault => exact le_min hwant (h fault hpending)

theorem FailsAfter.room_eq (h : side.FailsAfter n failure) (hwant : n < want) :
    side.room want = n := by
  obtain ⟨fault, hpending, rfl, rfl⟩ := h
  simp only [room, hpending]
  exact Nat.min_eq_right hwant.le

theorem FailsAfter.met?_eq (h : side.FailsAfter n failure) (hwant : n < want) :
    side.met? want = some failure := by
  obtain ⟨fault, hpending, rfl, rfl⟩ := h
  simp only [met?, hpending]
  exact if_neg (not_le.2 hwant)

/-- Octets that pass bring the failure nearer. -/
theorem FailsAfter.advance (h : side.FailsAfter (count + n) failure) :
    (side.advance count).FailsAfter n failure := by
  obtain ⟨fault, hpending, hn, hfailure⟩ := h
  refine ⟨fault, hpending, ?_, hfailure⟩
  simp only [PipeEnd.advance]
  omega

theorem Passes.advance (h : side.Passes (count + n)) : (side.advance count).Passes n := by
  rw [passes_iff] at h ⊢
  intro fault hpending
  have hle := h fault hpending
  simp only [PipeEnd.advance]
  omega

theorem FailsAfter.passes (h : side.FailsAfter n failure) (hle : count ≤ n) :
    side.Passes count := by
  obtain ⟨fault, hpending, rfl, -⟩ := h
  rw [passes_iff, hpending]
  rintro _ ⟨⟩
  exact hle

theorem passes_of_le_position {fault : PendingFailure} (hpending : side.pending = some fault)
    (h : side.passed + n ≤ fault.position) : side.Passes n := by
  rw [passes_iff, hpending]
  rintro _ ⟨⟩
  omega

theorem Passes.mono (h : side.Passes n) (hle : count ≤ n) : side.Passes count :=
  fun k failure hfail => hle.trans (h k failure hfail)

/-- Where no failure awaits an end, any number of octets may pass. -/
theorem passes_of_pending (h : side.pending = none) (n : Nat) : side.Passes n := by
  rw [passes_iff, h]
  rintro _ ⟨⟩

end PipeEnd

namespace Pipe

open PipeEnd

/-! ### Buffers moved in two parts

The octets that were moved before are kept last one first. -/

private theorem append_take {data done : Bytes} {count n : Nat} (h : count ≤ n) :
    ((data.take count).reverse ++ done).reverse ++ (data.drop count).take (n - count) =
      done.reverse ++ data.take n := by
  obtain ⟨m, rfl⟩ := Nat.exists_eq_add_of_le h
  simp [List.take_add]

private theorem append_drop {data done : Bytes} {count : Nat} :
    ((data.take count).reverse ++ done).reverse ++ data.drop count = done.reverse ++ data := by
  simp

/-! ### Reading -/

/-- **Reading does not depend on the size of the transfers.** If the queue is shorter than the
room before the failure, all of it is read and the stream has ended; otherwise the octets that
were wanted are read, or those before the failure. -/
theorem gatherFrom_eq (limit : ChunkLimit) (side : PipeEnd) (queue done : Bytes) (want : Nat) :
    gatherFrom limit side queue done want =
      if queue.length < side.room want then
        (.ended (done.reverse ++ queue), [], side.advance queue.length)
      else
        match side.met? want with
        | none => (.all (done.reverse ++ queue.take want), queue.drop want, side.advance want)
        | some failure =>
          (.failed (done.reverse ++ queue.take (side.room want)) failure,
            queue.drop (side.room want), (side.advance (side.room want)).recover) := by
  fun_induction gatherFrom limit side queue done want with
  | case1 side queue done =>
    have hroom : side.room 0 = 0 := Nat.le_zero.1 (side.room_le 0)
    simp [hroom, met?_zero, advance]
  | case2 side queue done want hwant failure hdue =>
    simp [room_of_due? hdue, met?_of_due? (Nat.pos_of_ne_zero hwant) hdue, advance]
  | case3 side queue done want hwant hdue front count hcount =>
    have hroom := room_pos (Nat.pos_of_ne_zero hwant) hdue
    have hpos := transfer_pos limit (Nat.pos_of_ne_zero hwant) hdue
    have hqueue : queue = [] := by
      simp only [count, front, List.length_take] at hcount
      exact List.length_eq_zero_iff.1 (by omega)
    simp [hqueue, hroom, advance]
  | case4 side queue done want hwant hdue front count hcount hlt ih =>
    have hcount : count ≤ side.room want ∧ count ≤ queue.length := by
      have := limit.cut_le (side.room want)
      simp only [count, front, List.length_take, transfer]
      omega
    have hfront : front = queue.take count := by
      simp [count, front]
    have hdrop (n : Nat) (hn : count ≤ n) : (queue.drop count).drop (n - count) = queue.drop n := by
      rw [List.drop_drop, Nat.add_sub_cancel' hn]
    -- What has passed comes off the queue and off the room alike, so the same side is shorter.
    rw [ih, room_advance hcount.1, met?_advance hcount.1, hfront]
    by_cases hshort : queue.length < side.room want
    · have hshort' : (queue.drop count).length < side.room want - count := by
        rw [List.length_drop]
        omega
      rw [if_pos hshort, if_pos hshort', List.length_drop, advance_advance_sub _ hcount.2,
        append_drop]
    · have hshort' : ¬ (queue.drop count).length < side.room want - count := by
        rw [List.length_drop]
        omega
      have hwant : count ≤ want := hcount.1.trans (side.room_le want)
      rw [if_neg hshort, if_neg hshort']
      cases side.met? want with
      | none => simp only [append_take hwant, hdrop _ hwant, advance_advance_sub _ hwant]
      | some failure =>
        simp only [append_take hcount.1, hdrop _ hcount.1, advance_advance_sub _ hcount.1]

variable {pipe : Pipe} {data rest : Bytes} {n want : Nat} {failure : StreamFailure}

/-- Octets before the failure are read whole. -/
theorem gather_of_passes (hpass : pipe.reader.Passes data.length)
    (hqueue : pipe.queue = data ++ rest) :
    pipe.gather data.length = (.all data,
      { pipe with queue := rest, reader := pipe.reader.advance data.length }) := by
  have hmet := passes_iff_met?_eq_none.1 hpass
  have hshort : ¬ pipe.queue.length < pipe.reader.room data.length := by
    rw [room_of_met?_eq_none hmet, hqueue, List.length_append]
    omega
  rw [gather, gatherFrom_eq, if_neg hshort, hmet, hqueue, List.take_left, List.drop_left]
  rfl

/-- The end is found where it stands before the failure. -/
theorem gather_of_passes_of_lt (hqueue : pipe.queue = data)
    (hpass : pipe.reader.Passes (data.length + 1)) (h : data.length < want) :
    pipe.gather want = (.ended data,
      { pipe with queue := [], reader := pipe.reader.advance data.length }) := by
  have hroom : data.length < pipe.reader.room want := hpass.le_room h
  rw [gather, gatherFrom_eq, hqueue, if_pos hroom]
  rfl

/-- The failure is met where all octets before it are there. -/
theorem gather_of_failsAfter (hqueue : pipe.queue = data)
    (hfail : pipe.reader.FailsAfter n failure) (hshort : n < want) (hthere : n ≤ data.length) :
    pipe.gather want = (.failed (data.take n) failure,
      { pipe with queue := data.drop n, reader := (pipe.reader.advance n).recover }) := by
  rw [gather, gatherFrom_eq, hqueue, hfail.room_eq hshort, if_neg (not_lt.2 hthere),
    hfail.met?_eq hshort]
  rfl

/-! ### Writing -/

/-- **Writing does not depend on the size of the transfers.** The whole buffer is accepted, or
the octets before the failure. -/
theorem writeFrom_eq (limit : ChunkLimit) (side : PipeEnd) (done left : Bytes) :
    writeFrom limit side done left =
      match side.met? left.length with
      | none => (done.reverse ++ left, side.advance left.length, none)
      | some failure =>
        (done.reverse ++ left.take (side.room left.length),
          (side.advance (side.room left.length)).recover, some failure) := by
  fun_induction writeFrom limit side done left with
  | case1 side done => simp [met?_zero, advance]
  | case2 side done left hleft failure hdue =>
    have hwant := List.length_pos_iff.2 hleft
    simp [room_of_due? hdue, met?_of_due? hwant hdue, advance]
  | case3 side done left hleft hdue count hlt ih =>
    have hcount : count ≤ side.room left.length := limit.cut_le _
    have hlength : count ≤ left.length := hcount.trans (side.room_le _)
    rw [ih, List.length_drop, room_advance hcount, met?_advance hcount]
    cases side.met? left.length with
    | none => simp only [append_drop, advance_advance_sub _ hlength]
    | some failure => simp only [append_take hcount, advance_advance_sub _ hcount]

/-- A buffer that ends before the failure is accepted whole. -/
theorem writeAll_of_passes (hpass : pipe.writer.Passes data.length) :
    pipe.writeAll data = (none,
      { pipe with queue := pipe.queue ++ data, writer := pipe.writer.advance data.length }) := by
  rw [writeAll, writeFrom_eq, passes_iff_met?_eq_none.1 hpass]
  rfl

/-- Of a buffer that runs over the failure, the octets before it are accepted. -/
theorem writeAll_of_failsAfter (hfail : pipe.writer.FailsAfter n failure)
    (hshort : n < data.length) :
    pipe.writeAll data = (some failure, { pipe with
      queue := pipe.queue ++ data.take n
      writer := (pipe.writer.advance n).recover }) := by
  rw [writeAll, writeFrom_eq, hfail.met?_eq hshort, hfail.room_eq hshort]
  rfl

/-! ### An end without a failure -/

/-- Octets at the front of the queue are read whole. -/
theorem gather_append (hpending : pipe.reader.pending = none) (hqueue : pipe.queue = data ++ rest) :
    pipe.gather data.length = (.all data,
      { pipe with queue := rest, reader := pipe.reader.advance data.length }) :=
  gather_of_passes (passes_of_pending hpending _) hqueue

/-- Of octets that are not all there, those that are there are read. -/
theorem gather_of_lt (hpending : pipe.reader.pending = none) (h : pipe.queue.length < want) :
    pipe.gather want = (.ended pipe.queue,
      { pipe with queue := [], reader := pipe.reader.advance pipe.queue.length }) :=
  gather_of_passes_of_lt rfl (passes_of_pending hpending _) h

end Pipe

end ClipExchange
