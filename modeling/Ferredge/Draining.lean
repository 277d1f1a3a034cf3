import Mathlib.Data.List.Basic

/-!
# Reading to the end

A reader hands over a stream piece by piece, and an empty piece at its end.  What the loop that
gathers the pieces returns does not depend on where the stream is cut.
-/

namespace Draining

variable {σ β ε : Type*}

/-- Gathers what is read until a read brings nothing or fails.  It is `none` if a read has not
returned, or after as many reads as allowed. -/
def drain (read : σ → Option (Except ε (List β) × σ)) :
    Nat → List β → σ → Option (Except ε (List β) × σ)
  | 0, _, _ => none
  | limit + 1, gathered, state =>
      match read state with
      | none => none
      | some (.error error, next) => some (.error error, next)
      | some (.ok [], next) => some (.ok gathered, next)
      | some (.ok (item :: items), next) => drain read limit (gathered ++ item :: items) next

variable {read : σ → Option (Except ε (List β) × σ)} {limit : Nat} {gathered : List β}
  {state after : σ} {outcome : Except ε (List β)}

/-- The last read ends the loop, and decides what comes of what was gathered before it. -/
inductive Ends (read : σ → Option (Except ε (List β) × σ)) (last : σ) (total : List β)
    (after : σ) : Except ε (List β) → Prop
  | through (returned : read last = some (.ok [], after)) : Ends read last total after (.ok total)
  | failed {error : ε} (returned : read last = some (.error error, after)) :
      Ends read last total after (.error error)

/-- What every read keeps of the state and of what is gathered holds before the last read. -/
theorem drain_invariant (holds : σ → List β → Prop)
    (step : ∀ state gathered piece next, holds state gathered → piece ≠ [] →
      read state = some (.ok piece, next) → holds next (gathered ++ piece))
    (start : holds state gathered)
    (ran : drain read limit gathered state = some (outcome, after)) :
    ∃ last total, holds last total ∧ Ends read last total after outcome := by
  induction limit generalizing gathered state with
  | zero => cases ran
  | succ limit ih =>
      rw [drain] at ran
      cases returned : read state with
      | none => simp [returned] at ran
      | some result =>
          obtain ⟨brought, next⟩ := result
          rw [returned] at ran
          cases brought with
          | error error =>
              cases ran
              exact ⟨state, gathered, start, .failed returned⟩
          | ok piece =>
              cases piece with
              | nil =>
                  cases ran
                  exact ⟨state, gathered, start, .through returned⟩
              | cons item items =>
                  have kept : holds next (gathered ++ item :: items) :=
                    step state gathered (item :: items) next start (List.cons_ne_nil item items)
                      returned
                  exact ih kept ran

/-- The loop returns if every read does and leaves less to read. -/
theorem drain_returns (holds : σ → Prop) (left : σ → Nat)
    (step : ∀ state, holds state → ∃ result next, read state = some (result, next) ∧
      ∀ piece, result = .ok piece → piece ≠ [] → holds next ∧ left next < left state)
    (start : holds state) (enough : left state < limit) :
    ∃ result, drain read limit gathered state = some result := by
  induction limit generalizing gathered state with
  | zero => exact absurd enough (Nat.not_lt_zero _)
  | succ limit ih =>
      obtain ⟨result, next, returned, shorter⟩ := step state start
      rw [drain, returned]
      cases result with
      | error error => exact ⟨_, rfl⟩
      | ok piece =>
          cases piece with
          | nil => exact ⟨_, rfl⟩
          | cons item items =>
              obtain ⟨kept, less⟩ := shorter _ rfl (List.cons_ne_nil item items)
              exact ih kept (Nat.lt_of_lt_of_le less (Nat.le_of_lt_succ enough))

/-- A reader that keeps more than another and does the same gathers the same. -/
theorem drain_map {τ : Type*} {read' : τ → Option (Except ε (List β) × τ)} (forget : τ → σ)
    (same : ∀ state, (read' state).map (Prod.map id forget) = read (forget state))
    (limit : Nat) (gathered : List β) (state : τ) :
    (drain read' limit gathered state).map (Prod.map id forget) =
      drain read limit gathered (forget state) := by
  induction limit generalizing gathered state with
  | zero => rfl
  | succ limit ih =>
      rw [drain, drain, ← same state]
      cases read' state with
      | none => rfl
      | some result =>
          obtain ⟨brought, next⟩ := result
          cases brought with
          | error error => rfl
          | ok piece =>
              cases piece with
              | nil => rfl
              | cons item items => exact ih _ next

end Draining
