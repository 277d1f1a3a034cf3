import Mathlib.Logic.Relation
import Mathlib.Order.WellFounded

/-!
# Waiting for locks

Tasks hold locks, and each task waits for at most one lock more.  Where every task waits for a lock
that ranks above all the locks it holds, no tasks wait for each other in a circle, and every chain
of waiting tasks ends at a task that can go on.
-/

namespace Locking

variable {τ κ ρ : Type*}

/-- The locks that each task holds, and the one that it waits for. -/
structure Waiting (τ κ : Type*) where
  holds : τ → κ → Prop
  awaits : τ → Option κ

namespace Waiting

variable {waiting : Waiting τ κ} {task holder : τ}

/-- The task waits for a lock that the holder holds. -/
def BlockedOn (waiting : Waiting τ κ) (task holder : τ) : Prop :=
  ∃ lock, waiting.awaits task = some lock ∧ waiting.holds holder lock

/-- Some task waits, through others, for itself. -/
def Deadlock (waiting : Waiting τ κ) : Prop :=
  ∃ task, Relation.TransGen waiting.BlockedOn task task

/-- The task waits, if at all, for tasks that wait for a task which waits for no other one. -/
def Released (waiting : Waiting τ κ) (task : τ) : Prop :=
  ∃ last, Relation.ReflTransGen waiting.BlockedOn task last ∧
    ∀ holder, ¬waiting.BlockedOn last holder

/-- Every task waits for a lock that ranks above all it holds. -/
def Ordered [Preorder ρ] (waiting : Waiting τ κ) (rank : κ → ρ) : Prop :=
  ∀ task held lock, waiting.holds task held → waiting.awaits task = some lock →
    rank held < rank lock

/-- Two tasks that wait for each other are in a deadlock. -/
theorem deadlock_of_circle (there : waiting.BlockedOn task holder)
    (back : waiting.BlockedOn holder task) : waiting.Deadlock :=
  ⟨task, .tail (.single there) back⟩

/-- Along a chain of waiting tasks the lock that is waited for rises. -/
theorem Ordered.exists_held [Preorder ρ] {rank : κ → ρ} (ordered : waiting.Ordered rank)
    (chain : Relation.TransGen waiting.BlockedOn task holder) :
    ∃ first last, waiting.awaits task = some first ∧ waiting.holds holder last ∧
      rank first ≤ rank last := by
  induction chain with
  | single blocked =>
      obtain ⟨lock, awaited, held⟩ := blocked
      exact ⟨lock, lock, awaited, held, le_rfl⟩
  | tail _ blocked ih =>
      obtain ⟨first, last, awaited, held, risen⟩ := ih
      obtain ⟨lock, next, later⟩ := blocked
      exact ⟨first, lock, awaited, later, risen.trans (ordered _ _ _ held next).le⟩

/-- Ranked locks admit no deadlock. -/
theorem Ordered.not_deadlock [Preorder ρ] {rank : κ → ρ} (ordered : waiting.Ordered rank) :
    ¬waiting.Deadlock := by
  rintro ⟨task, circle⟩
  obtain ⟨first, last, awaited, held, risen⟩ := ordered.exists_held circle
  exact (ordered task last first held awaited).not_ge risen

/-- Where ranks cannot rise for ever, every task is released. -/
theorem Ordered.released [Preorder ρ] [WellFoundedGT ρ] {rank : κ → ρ}
    (ordered : waiting.Ordered rank) (task : τ) : waiting.Released task := by
  have holderReleased : ∀ bound : ρ, ∀ holder lock, waiting.holds holder lock →
      rank lock = bound → waiting.Released holder := by
    intro bound
    induction bound using WellFoundedGT.induction with
    | ind bound ih =>
        rintro holder lock held rfl
        by_cases stuck : ∃ other, waiting.BlockedOn holder other
        · obtain ⟨other, next, awaited, later⟩ := stuck
          obtain ⟨last, chain, free⟩ := ih _ (ordered _ _ _ held awaited) other next later rfl
          exact ⟨last, .head ⟨next, awaited, later⟩ chain, free⟩
        · exact ⟨holder, .refl, fun other blocked => stuck ⟨other, blocked⟩⟩
  by_cases stuck : ∃ holder, waiting.BlockedOn task holder
  · obtain ⟨holder, lock, awaited, held⟩ := stuck
    obtain ⟨last, chain, free⟩ := holderReleased _ holder lock held rfl
    exact ⟨last, .head ⟨lock, awaited, held⟩ chain, free⟩
  · exact ⟨task, .refl, fun holder blocked => stuck ⟨holder, blocked⟩⟩

end Waiting
end Locking
