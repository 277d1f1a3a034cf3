import Mathlib.Data.List.Basic

/-!
# Short writes

A writer may take less than it is offered.  The loop that offers it the rest until nothing is left
hands over the buffer piece by piece.
-/

namespace ShortWrites

variable {σ β ε : Type*}

/-- Offers the writer what is left of the buffer until all of it is taken.  A write that takes
nothing fails as `closed`. -/
def writeAll (write : σ → List β → Except ε Nat × σ) (closed : ε) (buf : List β) (written : Nat)
    (state : σ) : Except ε Unit × σ :=
  if written < buf.length then
    match write state (buf.drop written) with
    | (.error error, next) => (.error error, next)
    | (.ok 0, next) => (.error closed, next)
    | (.ok (count + 1), next) => writeAll write closed buf (written + (count + 1)) next
  else (.ok (), state)
termination_by buf.length - written

/-- One write: what was offered and what came of it. -/
structure Call (β ε : Type*) where
  offered : List β
  result : Except ε Nat

namespace Call

/-- What the writer took of the offer. -/
def piece (call : Call β ε) : List β :=
  match call.result with
  | .ok count => call.offered.take count
  | .error _ => []

/-- The writer takes no more than it is offered. -/
def Bounded (call : Call β ε) : Prop :=
  ∀ count, call.result = .ok count → count ≤ call.offered.length

/-- The write takes something. -/
def Progress (call : Call β ε) : Prop :=
  ∃ count, call.result = .ok count ∧ 0 < count

theorem piece_length_pos {call : Call β ε} (bounded : call.Bounded) (progress : call.Progress) :
    0 < call.piece.length := by
  obtain ⟨count, result, positive⟩ := progress
  have fits : count ≤ call.offered.length := bounded count result
  rw [piece, result, List.length_take]
  omega

end Call

/-- All that the writer took over a series of writes. -/
def accepted (calls : List (Call β ε)) : List β :=
  (calls.map Call.piece).flatten

@[simp]
theorem accepted_append (first second : List (Call β ε)) :
    accepted (first ++ second) = accepted first ++ accepted second := by
  simp [accepted]

@[simp]
theorem accepted_singleton (call : Call β ε) : accepted [call] = call.piece := by
  simp [accepted]

theorem length_le_accepted {calls : List (Call β ε)} (bounded : ∀ call ∈ calls, call.Bounded)
    (progress : ∀ call ∈ calls, call.Progress) : calls.length ≤ (accepted calls).length := by
  induction calls with
  | nil => exact Nat.zero_le _
  | cons call calls ih =>
      have positive : 0 < call.piece.length :=
        Call.piece_length_pos (bounded call List.mem_cons_self) (progress call List.mem_cons_self)
      have rest : calls.length ≤ (accepted calls).length :=
        ih (fun other member => bounded other (List.mem_cons_of_mem call member))
          fun other member => progress other (List.mem_cons_of_mem call member)
      have split : accepted (call :: calls) = call.piece ++ accepted calls := rfl
      rw [split, List.length_append, List.length_cons]
      omega

/-- A writer that keeps a record of the writes made. -/
def recording (write : σ → List β → Except ε Nat × σ) (state : σ × List (Call β ε))
    (offered : List β) : Except ε Nat × (σ × List (Call β ε)) :=
  ((write state.1 offered).1,
    ((write state.1 offered).2, state.2 ++ [⟨offered, (write state.1 offered).1⟩]))

/-- What the outcome of the loop says of the writes that it made. -/
def Delivered (closed : ε) (buf : List β) (calls : List (Call β ε)) : Except ε Unit → Prop
  | .ok () => accepted calls = buf ∧ ∀ call ∈ calls, call.Progress
  | .error error => ∃ earlier last, calls = earlier ++ [last] ∧
      (∀ call ∈ earlier, call.Progress) ∧
      (last.result = .ok 0 ∧ error = closed ∨ last.result = .error error) ∧
      accepted calls <+: buf ∧ accepted calls ≠ buf

/-- A last write that takes nothing leaves a proper prefix. -/
theorem delivered_of_fruitless {closed error : ε} {buf : List β} {earlier : List (Call β ε)}
    {last : Call β ε} {written : Nat} (left : written < buf.length)
    (taken : accepted earlier = buf.take written) (progress : ∀ call ∈ earlier, call.Progress)
    (fruitless : last.result = .ok 0 ∧ error = closed ∨ last.result = .error error) :
    Delivered closed buf (earlier ++ [last]) (.error error) := by
  have nothing : last.piece = [] := by
    rcases fruitless with ⟨result, _⟩ | result
    · simp [Call.piece, result]
    · simp [Call.piece, result]
  refine ⟨earlier, last, rfl, progress, fruitless, ?_, ?_⟩
  · rw [accepted_append, accepted_singleton, nothing, List.append_nil, taken]
    exact List.take_prefix written buf
  · rw [accepted_append, accepted_singleton, nothing, List.append_nil, taken]
    intro whole
    have short : (buf.take written).length = buf.length := congrArg List.length whole
    rw [List.length_take] at short
    omega

variable {write : σ → List β → Except ε Nat × σ} {closed : ε} {buf : List β}

/-- The record only grows. -/
theorem recorded_kept (written : Nat) (state : σ × List (Call β ε)) :
    state.2 <+: (writeAll (recording write) closed buf written state).2.2 := by
  fun_induction writeAll (recording write) closed buf written state with
  | case1 written state left error next returned =>
      obtain ⟨_, rfl⟩ := Prod.mk.inj returned
      exact List.prefix_append _ _
  | case2 written state left next returned =>
      obtain ⟨_, rfl⟩ := Prod.mk.inj returned
      exact List.prefix_append _ _
  | case3 written state left count next returned ih =>
      obtain ⟨_, rfl⟩ := Prod.mk.inj returned
      exact (List.prefix_append _ _).trans ih
  | case4 written state done => exact List.prefix_refl _

/-- Every write is recorded as bounded if the writer never takes more than it is offered. -/
theorem recorded_bounded
    (honest : ∀ state offered, Call.Bounded ⟨offered, (write state offered).1⟩) (written : Nat)
    (state : σ × List (Call β ε)) (bounded : ∀ call ∈ state.2, call.Bounded) :
    ∀ call ∈ (writeAll (recording write) closed buf written state).2.2, call.Bounded := by
  have extended (state : σ × List (Call β ε)) (offered : List β)
      (bounded : ∀ call ∈ state.2, call.Bounded) :
      ∀ call ∈ (recording write state offered).2.2, call.Bounded := by
    intro call member
    rcases List.mem_append.mp member with before | last
    · exact bounded call before
    · rw [List.mem_singleton] at last
      subst last
      exact honest state.1 offered
  fun_induction writeAll (recording write) closed buf written state with
  | case1 written state left error next returned =>
      obtain ⟨_, rfl⟩ := Prod.mk.inj returned
      exact extended state _ bounded
  | case2 written state left next returned =>
      obtain ⟨_, rfl⟩ := Prod.mk.inj returned
      exact extended state _ bounded
  | case3 written state left count next returned ih =>
      obtain ⟨_, rfl⟩ := Prod.mk.inj returned
      exact ih (extended state _ bounded)
  | case4 written state done => exact bounded

/-- The loop delivers what its outcome says when it starts behind what was taken before. -/
theorem writeAll_recording (written : Nat) (state : σ × List (Call β ε))
    (taken : accepted state.2 = buf.take written) (progress : ∀ call ∈ state.2, call.Progress)
    (bounded : ∀ call ∈ (writeAll (recording write) closed buf written state).2.2, call.Bounded) :
    Delivered closed buf (writeAll (recording write) closed buf written state).2.2
      (writeAll (recording write) closed buf written state).1 := by
  fun_induction writeAll (recording write) closed buf written state with
  | case1 written state left error next returned =>
      obtain ⟨result, rfl⟩ := Prod.mk.inj returned
      rw [result] at bounded ⊢
      exact delivered_of_fruitless left taken progress (.inr rfl)
  | case2 written state left next returned =>
      obtain ⟨result, rfl⟩ := Prod.mk.inj returned
      rw [result] at bounded ⊢
      exact delivered_of_fruitless left taken progress (.inl ⟨rfl, rfl⟩)
  | case3 written state left count next returned ih =>
      obtain ⟨result, rfl⟩ := Prod.mk.inj returned
      have fits : count + 1 ≤ (buf.drop written).length :=
        bounded _ ((recorded_kept _ _).subset (List.mem_append_right _ List.mem_cons_self)) _
          result
      refine ih ?_ ?_ bounded
      · rw [accepted_append, accepted_singleton, taken, Call.piece, result]
        exact (List.take_add ..).symm
      · intro call member
        rcases List.mem_append.mp member with before | last
        · exact progress call before
        · rw [List.mem_singleton] at last
          subst last
          exact ⟨count + 1, result, Nat.succ_pos count⟩
  | case4 written state done =>
      refine ⟨?_, progress⟩
      rw [taken, List.take_of_length_le (Nat.le_of_not_lt done)]

/-- What is delivered takes at most as many writes as there are bytes. -/
theorem Delivered.length_le {calls : List (Call β ε)} {outcome : Except ε Unit}
    (delivered : Delivered closed buf calls outcome) (bounded : ∀ call ∈ calls, call.Bounded) :
    calls.length ≤ buf.length := by
  cases outcome with
  | ok done =>
      obtain ⟨whole, progress⟩ := delivered
      rw [← whole]
      exact length_le_accepted bounded progress
  | error error =>
      obtain ⟨earlier, last, rfl, progress, _, part, proper⟩ := delivered
      have before : earlier.length ≤ (accepted earlier).length :=
        length_le_accepted (fun call member => bounded call (List.mem_append_left _ member))
          progress
      have shorter : (accepted (earlier ++ [last])).length < buf.length :=
        Nat.lt_of_le_of_ne part.length_le fun same => proper (part.eq_of_length same)
      rw [accepted_append, List.length_append] at shorter
      rw [List.length_append, List.length_singleton]
      omega

/-- Keeping the record changes nothing else. -/
theorem writeAll_recording_fst (written : Nat) (state : σ) (calls : List (Call β ε)) :
    (writeAll (recording write) closed buf written (state, calls)).1 =
        (writeAll write closed buf written state).1 ∧
      (writeAll (recording write) closed buf written (state, calls)).2.1 =
        (writeAll write closed buf written state).2 := by
  fun_induction writeAll write closed buf written state generalizing calls with
  | case1 written state left error next returned =>
      rw [writeAll, if_pos left]
      simp [recording, returned]
  | case2 written state left next returned =>
      rw [writeAll, if_pos left]
      simp [recording, returned]
  | case3 written state left count next returned ih =>
      rw [writeAll, if_pos left]
      simpa [recording, returned] using ih _
  | case4 written state done =>
      rw [writeAll, if_neg done]
      exact ⟨rfl, rfl⟩

/-- What the loop reports is what its writes amount to, and it makes no more of them than the buffer
has bytes. -/
theorem writeAll_delivered {start after : σ} {calls : List (Call β ε)} {outcome : Except ε Unit}
    (ran : writeAll (recording write) closed buf 0 (start, []) = (outcome, after, calls))
    (bounded : ∀ call ∈ calls, call.Bounded) :
    writeAll write closed buf 0 start = (outcome, after) ∧ Delivered closed buf calls outcome ∧
      calls.length ≤ buf.length := by
  have delivered : Delivered closed buf (writeAll (recording write) closed buf 0 (start, [])).2.2
      (writeAll (recording write) closed buf 0 (start, [])).1 :=
    writeAll_recording 0 (start, []) rfl nofun (by rw [ran]; exact bounded)
  obtain ⟨same_outcome, same_after⟩ := @writeAll_recording_fst _ _ _ write closed buf 0 start []
  rw [ran] at delivered same_outcome same_after
  exact ⟨Prod.ext same_outcome.symm same_after.symm, delivered, delivered.length_le bounded⟩

/-- A writer that notes its writes in a log that may hold other things. -/
def noting {γ : Type*} (entry : Call β ε → γ) (write : σ → List β → Except ε Nat × σ)
    (state : σ × List γ) (offered : List β) : Except ε Nat × (σ × List γ) :=
  ((write state.1 offered).1,
    ((write state.1 offered).2, state.2 ++ [entry ⟨offered, (write state.1 offered).1⟩]))

/-- The same writes are recorded and noted behind whatever was there before. -/
theorem writeAll_noting {γ : Type*} (entry : Call β ε → γ) (written : Nat) (state : σ) :
    ∃ (calls : List (Call β ε)) (outcome : Except ε Unit) (after : σ),
      (∀ before, writeAll (recording write) closed buf written (state, before) =
        (outcome, after, before ++ calls)) ∧
      ∀ log, writeAll (noting entry write) closed buf written (state, log) =
        (outcome, after, log ++ calls.map entry) := by
  fun_induction writeAll write closed buf written state with
  | case1 written state left error next returned =>
      refine ⟨[⟨buf.drop written, .error error⟩], .error error, next, ?_, ?_⟩
      · intro before
        rw [writeAll, if_pos left]
        simp [recording, returned]
      · intro log
        rw [writeAll, if_pos left]
        simp [noting, returned]
  | case2 written state left next returned =>
      refine ⟨[⟨buf.drop written, .ok 0⟩], .error closed, next, ?_, ?_⟩
      · intro before
        rw [writeAll, if_pos left]
        simp [recording, returned]
      · intro log
        rw [writeAll, if_pos left]
        simp [noting, returned]
  | case3 written state left count next returned ih =>
      obtain ⟨calls, outcome, after, recorded, noted⟩ := ih
      refine ⟨⟨buf.drop written, .ok (count + 1)⟩ :: calls, outcome, after, ?_, ?_⟩
      · intro before
        rw [writeAll, if_pos left]
        simp [recording, returned, recorded]
      · intro log
        rw [writeAll, if_pos left]
        simp [noting, returned, noted]
  | case4 written state done =>
      refine ⟨[], .ok (), state, ?_, ?_⟩
      · intro before
        rw [writeAll, if_neg done, List.append_nil]
      · intro log
        rw [writeAll, if_neg done, List.map_nil, List.append_nil]

/-- A writer that always takes something takes the whole buffer, and what each write keeps of the
state and of what was taken before is kept. -/
theorem writeAll_succeeds (holds : σ → List β → Prop) {state : σ} {taken : List β}
    (step : ∀ state taken offered, holds state taken → offered ≠ [] →
      ∃ count next, write state offered = (.ok (count + 1), next) ∧
        holds next (taken ++ offered.take (count + 1)))
    (start : holds state taken) :
    ∃ after, writeAll write closed buf 0 state = (.ok (), after) ∧ holds after (taken ++ buf) := by
  have from_here (written : Nat) (state : σ) (before : holds state (taken ++ buf.take written)) :
      ∃ after, writeAll write closed buf written state = (.ok (), after) ∧
        holds after (taken ++ buf) := by
    fun_induction writeAll write closed buf written state with
    | case1 written state left error next returned =>
        obtain ⟨count, other, succeeded, -⟩ :=
          step state _ (buf.drop written) before
            (List.drop_eq_nil_iff.not.mpr (Nat.not_le.mpr left))
        cases returned.symm.trans succeeded
    | case2 written state left next returned =>
        obtain ⟨count, other, succeeded, -⟩ :=
          step state _ (buf.drop written) before
            (List.drop_eq_nil_iff.not.mpr (Nat.not_le.mpr left))
        cases returned.symm.trans succeeded
    | case3 written state left count next returned ih =>
        obtain ⟨other, reached, succeeded, kept⟩ :=
          step state _ (buf.drop written) before
            (List.drop_eq_nil_iff.not.mpr (Nat.not_le.mpr left))
        cases returned.symm.trans succeeded
        rw [List.append_assoc, ← List.take_add] at kept
        exact ih kept
    | case4 written state done =>
        rw [List.take_of_length_le (Nat.le_of_not_lt done)] at before
        exact ⟨state, rfl, before⟩
  exact from_here 0 state (by rwa [List.take_zero, List.append_nil])

end ShortWrites
