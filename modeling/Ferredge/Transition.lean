import Mathlib.Logic.Basic

/-!
# Runs of a transition system

Steps carry a label, and a run may be restricted to steps that meet a condition on the state they
start from and on their label.  A property that such steps preserve holds along the whole run.
-/

namespace Transition

variable {σ ι : Type*}

/-- Runs of a labelled step relation whose steps all meet the condition `careful`. -/
inductive Run (step : σ → ι → σ → Prop) (careful : σ → ι → Prop) : σ → σ → Prop
  | refl (state : σ) : Run step careful state state
  | tail {start state after : σ} {label : ι} (earlier : Run step careful start state)
      (met : careful state label) (last : step state label after) : Run step careful start after

namespace Run

variable {step : σ → ι → σ → Prop} {careful : σ → ι → Prop} {start state after : σ}

/-- What every step of a run preserves holds at its end. -/
theorem invariant (holds : σ → Prop) (run : Run step careful start state) (initial : holds start)
    (preserved : ∀ {before label next}, holds before → careful before label →
      step before label next → holds next) : holds state := by
  induction run with
  | refl => exact initial
  | tail _ met last ih => exact preserved ih met last

/-- The steps of a run meet every weaker condition. -/
theorem mono {weaker : σ → ι → Prop} (run : Run step careful start state)
    (weaken : ∀ before label, careful before label → weaker before label) :
    Run step weaker start state := by
  induction run with
  | refl => exact .refl _
  | tail _ met last ih => exact ih.tail (weaken _ _ met) last

/-- Extends a run by a step with the given label. -/
theorem perform (run : Run step careful start state) (label : ι) (met : careful state label)
    (last : step state label after) : Run step careful start after :=
  run.tail met last

theorem trans {middle : σ} (first : Run step careful start middle)
    (second : Run step careful middle state) : Run step careful start state := by
  induction second with
  | refl => exact first
  | tail _ met last ih => exact ih.tail met last

/-- If every step leads to whatever related state is wanted after it, from some related state, so
does every run. -/
theorem backward {τ : Type*} {other : τ → ι → τ → Prop} {wary : τ → ι → Prop}
    (holds : σ → Prop) (same : σ → τ → Prop) (run : Run step careful start state)
    (initial : holds start)
    (preserved : ∀ {before label next}, holds before → careful before label →
      step before label next → holds next)
    (foretold : ∀ {before label next}, holds before → careful before label →
      step before label next → ∀ wanted, same next wanted →
        ∃ known, same before known ∧ wary known label ∧ other known label wanted)
    {wanted : τ} (related : same state wanted) :
    ∃ begun, same start begun ∧ Run other wary begun wanted := by
  induction run generalizing wanted with
  | refl => exact ⟨wanted, related, .refl wanted⟩
  | tail earlier met last ih =>
      have held := earlier.invariant holds initial preserved
      obtain ⟨known, before, cautious, step⟩ := foretold held met last wanted related
      obtain ⟨begun, first, run⟩ := ih before
      exact ⟨begun, first, run.tail cautious step⟩

end Run
end Transition
