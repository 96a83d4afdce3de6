import Hyperdriver.Foundation.Progress

/-!
# Pacing

Something happens again and again: each time either in return for something
else, or because it is due, a pause after it last happened.  Whoever makes it
happen may have promised not to let it wait for longer than that.

How often it was due is then bounded by the time that has passed, and with such
a promise the time that has passed is bounded by how often it has happened.
-/

namespace Foundation

/-- When the pacing began, the time, when it last happened, and how often it
has happened in return for something and because it was due. -/
structure Pacer where
  begun : Nat
  now : Nat
  last : Nat
  returned : Nat
  due : Nat
  deriving DecidableEq, Repr

namespace Pacer

def start (now : Nat) : Pacer where
  begun := now
  now := now
  last := now
  returned := 0
  due := 0

/-- It has not waited for longer than promised, if anything was promised. -/
def InTime (patience : Option Nat) (pacer : Pacer) : Prop :=
  ∀ longest, patience = some longest → pacer.now ≤ pacer.last + longest

inductive Step (pause patience : Option Nat) : Pacer → Pacer → Prop
  | passes {pacer : Pacer} {later : Nat} :
      pacer.now ≤ later → Step pause patience pacer { pacer with now := later }
  | isReturned {pacer : Pacer} :
      pacer.InTime patience →
      Step pause patience pacer
        { pacer with last := pacer.now, returned := pacer.returned + 1 }
  | isDue {pacer : Pacer} {duration : Nat} :
      pause = some duration → pacer.last + duration ≤ pacer.now →
      pacer.InTime patience →
      Step pause patience pacer
        { pacer with last := pacer.now, due := pacer.due + 1 }

def Run (pause patience : Option Nat) : Pacer → Pacer → Prop :=
  Relation.ReflTransGen (Step pause patience)

structure Invariant (pause patience : Option Nat) (pacer : Pacer) : Prop where
  order : pacer.begun ≤ pacer.last ∧ pacer.last ≤ pacer.now
  unpaced : pause = none → pacer.due = 0
  paced :
    ∀ duration, pause = some duration →
      pacer.begun + pacer.due * duration ≤ pacer.last
  patient :
    ∀ longest, patience = some longest →
      pacer.last ≤ pacer.begun + (pacer.returned + pacer.due) * longest

section Runs

variable {pause patience : Option Nat} {before after : Pacer}

theorem invariant_start (pause patience : Option Nat) (now : Nat) :
    Invariant pause patience (start now) where
  order := ⟨Nat.le_refl now, Nat.le_refl now⟩
  unpaced _ := rfl
  paced duration _ := by
    simp [start]
  patient longest _ := by
    simp [start]

/-- What a next time in time adds to a bound on the last time. -/
theorem InTime.le_succ_mul (inTime : before.InTime patience)
    {count longest : Nat} (promised : patience = some longest)
    (bounded : before.last ≤ before.begun + count * longest) :
    before.now ≤ before.begun + (count + 1) * longest := by
  have waited := inTime longest promised
  rw [Nat.succ_mul]
  omega

theorem Invariant.step (invariant : Invariant pause patience before)
    (step : Step pause patience before after) :
    Invariant pause patience after := by
  obtain ⟨begun, last⟩ := invariant.order
  cases step with
  | passes later =>
      exact ⟨⟨begun, Nat.le_trans last later⟩, invariant.unpaced,
        invariant.paced, invariant.patient⟩
  | isReturned inTime =>
      refine
        { order := ⟨Nat.le_trans begun last, Nat.le_refl _⟩
          unpaced := invariant.unpaced
          paced := ?_
          patient := ?_ }
      · intro duration isPaced
        exact Nat.le_trans (invariant.paced duration isPaced) last
      · intro longest promised
        have bounded :=
          inTime.le_succ_mul promised (invariant.patient longest promised)
        rwa [Nat.add_right_comm] at bounded
  | @isDue duration isPaced pauseOver inTime =>
      refine
        { order := ⟨Nat.le_trans begun last, Nat.le_refl _⟩
          unpaced := ?_
          paced := ?_
          patient := ?_ }
      · intro unpaced
        rw [isPaced] at unpaced
        cases unpaced
      · intro other isOther
        cases isPaced.symm.trans isOther
        have paced := invariant.paced duration isPaced
        change before.begun + (before.due + 1) * duration ≤ before.now
        rw [Nat.succ_mul]
        omega
      · intro longest promised
        exact inTime.le_succ_mul promised (invariant.patient longest promised)

theorem Invariant.run (invariant : Invariant pause patience before)
    (run : Run pause patience before after) :
    Invariant pause patience after := by
  have preserves :
      Preserves (Step pause patience) (Invariant pause patience) :=
    fun _ _ invariant step => invariant.step step
  exact preserves.run invariant run

theorem Run.begun (run : Run pause patience before after) :
    after.begun = before.begun := by
  induction run with
  | refl =>
      rfl
  | tail _ step inductionHypothesis =>
      rw [← inductionHypothesis]
      cases step with
      | passes _ =>
          rfl
      | isReturned _ =>
          rfl
      | isDue _ _ _ =>
          rfl

end Runs

end Pacer

end Foundation
