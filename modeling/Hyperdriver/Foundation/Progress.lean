import Mathlib.Data.Nat.Find
import Mathlib.Logic.Relation

/-!
# Invariants and progress of runs

What every step preserves, a finite run preserves.

An infinite run is a sequence of states.  When every step of it either leaves
the state as it is or decreases a measure, the run is constant from some time
on.  A fair run that cannot stay constant outside a goal therefore reaches the
goal.

A system with a clock may instead let time pass.  When it can always go on,
either so or by doing some of the work that it has left, it gets to its end or
to any given time.
-/

namespace Foundation

universe u

section Invariants

variable {σ : Type u}

def Preserves (step : σ → σ → Prop) (P : σ → Prop) : Prop :=
  ∀ before after, P before → step before after → P after

theorem Preserves.run {step : σ → σ → Prop} {P : σ → Prop}
    (preserves : Preserves step P) {start state : σ} (holds : P start)
    (run : Relation.ReflTransGen step start state) : P state := by
  induction run with
  | refl =>
      exact holds
  | tail _ step inductionHypothesis =>
      exact preserves _ _ inductionHypothesis step

end Invariants

/-- What stays enabled from some time on occurs at a later time. -/
def WeakFair (enabled occurs : Nat → Prop) : Prop :=
  ∀ start, (∀ time, start ≤ time → enabled time) →
    ∃ time, start ≤ time ∧ occurs time

section Progress

variable {σ : Type u}

def Descends (measure : σ → Nat) (states : Nat → σ) : Prop :=
  ∀ time,
    states (time + 1) = states time ∨
      measure (states (time + 1)) < measure (states time)

def ConstantFrom (states : Nat → σ) (start : Nat) : Prop :=
  ∀ time, start ≤ time → states time = states start

theorem Descends.exists_constantFrom {measure : σ → Nat} {states : Nat → σ}
    (descends : Descends measure states) :
    ∃ start, ConstantFrom states start := by
  classical
  have attained : ∃ value, ∃ time, measure (states time) = value :=
    ⟨measure (states 0), 0, rfl⟩
  obtain ⟨start, least⟩ := Nat.find_spec attained
  refine ⟨start, ?_⟩
  intro time later
  induction time, later using Nat.le_induction with
  | base =>
      rfl
  | succ time _ inductionHypothesis =>
      rcases descends time with same | smaller
      · rw [same, inductionHypothesis]
      · -- The measure at `start` is the smallest one of the run.
        rw [inductionHypothesis, least] at smaller
        have minimal := Nat.find_min' attained ⟨time + 1, rfl⟩
        omega

/-- A descending run reaches a goal outside of which it cannot stay. -/
theorem Descends.reaches {measure : σ → Nat} {states : Nat → σ}
    (descends : Descends measure states) (Goal : σ → Prop)
    (leaves :
      ∀ start, ConstantFrom states start → Goal (states start)) :
    ∃ time, Goal (states time) := by
  obtain ⟨start, constant⟩ := descends.exists_constantFrom
  exact ⟨start, leaves start constant⟩

end Progress

section Clocks

variable {σ : Type u}

/-- Time passes, or some of the work that is left is done. -/
def MovesOn (now work : σ → Nat) (before after : σ) : Prop :=
  now before < now after ∨
    now after = now before ∧ work after < work before

theorem exists_reaches_time {step : σ → σ → Prop} {Holds Ends : σ → Prop}
    (now work : σ → Nat)
    (goesOn :
      ∀ before, Holds before → ¬ Ends before →
        ∃ after, step before after ∧ Holds after ∧
          MovesOn now work before after)
    (time : Nat) {state : σ} (holds : Holds state) :
    ∃ after, Relation.ReflTransGen step state after ∧
      (time ≤ now after ∨ Ends after) := by
  -- The time that is left gets smaller, or the work does.
  induction hasGap : time - now state using Nat.strong_induction_on
    generalizing state with
  | _ _ gapHypothesis =>
      induction hasWork : work state using Nat.strong_induction_on
        generalizing state with
      | _ _ workHypothesis =>
          by_cases isLate : time ≤ now state
          · exact ⟨state, .refl, Or.inl isLate⟩
          by_cases ends : Ends state
          · exact ⟨state, .refl, Or.inr ends⟩
          obtain ⟨next, nextStep, held, movesOn⟩ := goesOn state holds ends
          have reaches :
              ∃ after, Relation.ReflTransGen step next after ∧
                (time ≤ now after ∨ Ends after) := by
            rcases movesOn with later | ⟨sameNow, smaller⟩
            · have sooner : time - now next < time - now state := by
                omega
              exact gapHypothesis _ (hasGap ▸ sooner) held rfl
            · have sameGap : time - now next = time - now state := by
                rw [sameNow]
              exact
                workHypothesis _ (hasWork ▸ smaller) held
                  (sameGap.trans hasGap) rfl
          obtain ⟨after, continues, reached⟩ := reaches
          exact ⟨after, continues.head nextStep, reached⟩

end Clocks

end Foundation
