import Hyperdriver.Foundation.Progress

/-!
# Polled computations

A polled computation is a state together with a poll that answers `pending` or
`ready`.  The executor polls it again after every `pending` answer and never
after a `ready` one.  This module names the states such an executor can reach,
and packages the induction over its pending answers once.

A call that stops the program instead of returning is an error of the
`Checked` monad, so that the absence of panics is a statement about values.
-/

namespace Foundation

universe u v

inductive Poll (α : Type u) where
  | pending
  | ready (value : α)
  deriving DecidableEq, Repr

namespace Poll

def map {α : Type u} {β : Type v} (transform : α → β) : Poll α → Poll β
  | .pending => .pending
  | .ready value => .ready (transform value)

def isReady {α : Type u} : Poll α → Bool
  | .pending => false
  | .ready _ => true

/-- What is left to poll after an answer: the state, unless it is ready. -/
def left {α : Type u} {σ : Type v} (state : σ) : Poll α → Option σ
  | .pending => some state
  | .ready _ => none

end Poll

/-! ## Panics -/

inductive Panic where
  | unwrapNone
  | expect (message : String)
  | unreachable (message : String)
  | assertion (message : String)
  | explicit (message : String)
  deriving DecidableEq, Repr

/-- An `async fn` is polled again after it has returned. -/
def Panic.resumed : Panic :=
  .explicit "`async fn` resumed after completion"

/-- The result of a call that may panic. -/
abbrev Checked (α : Type u) := Except Panic α

/-- `Option::unwrap`. -/
def unwrap {α : Type u} : Option α → Checked α
  | some value => .ok value
  | none => .error .unwrapNone

/-- `Option::expect`. -/
def expect {α : Type u} (message : String) : Option α → Checked α
  | some value => .ok value
  | none => .error (.expect message)

@[simp]
theorem unwrap_some {α : Type u} (value : α) :
    unwrap (some value) = .ok value :=
  rfl

@[simp]
theorem expect_some {α : Type u} (message : String) (value : α) :
    expect message (some value) = .ok value :=
  rfl

/-! ## Suspension and completion -/

section Resumable

variable {σ : Type u} {α : Type v}

/-- `Suspends answers start state`: some number of polls, every one of them
answered `pending`, leads from `start` to `state`. -/
def Suspends (answers : σ → Poll α → σ → Prop) : σ → σ → Prop :=
  Relation.ReflTransGen fun before after => answers before .pending after

/-- Polling from `start` until the first `ready` answer yields `value` and
leaves the computation in `final`. -/
def Completes (answers : σ → Poll α → σ → Prop)
    (start : σ) (value : α) (final : σ) : Prop :=
  ∃ last, Suspends answers start last ∧ answers last (.ready value) final

variable {answers : σ → Poll α → σ → Prop}

theorem Completes.of_ready {start final : σ} {value : α}
    (answered : answers start (.ready value) final) :
    Completes answers start value final :=
  ⟨start, Relation.ReflTransGen.refl, answered⟩

theorem Completes.of_pending {start next final : σ} {value : α}
    (answered : answers start .pending next)
    (completes : Completes answers next value final) :
    Completes answers start value final := by
  obtain ⟨last, suspends, ready⟩ := completes
  exact ⟨last, suspends.head answered, ready⟩

/-- What every pending answer preserves holds in every suspended state. -/
theorem Suspends.invariant {start state : σ}
    (suspends : Suspends answers start state) (Holds : σ → Prop)
    (preserved :
      ∀ before after,
        Holds before → answers before .pending after → Holds after)
    (initial : Holds start) :
    Holds state := by
  have preserves :
      Preserves (fun before after => answers before .pending after) Holds :=
    preserved
  exact preserves.run initial suspends

/-- Polls whose answers are determined by the state complete in one way. -/
theorem Completes.unique
    (deterministic :
      ∀ state first second left right,
        answers state first left → answers state second right →
          first = second ∧ left = right)
    {start leftFinal rightFinal : σ} {leftValue rightValue : α}
    (left : Completes answers start leftValue leftFinal)
    (right : Completes answers start rightValue rightFinal) :
    leftValue = rightValue ∧ leftFinal = rightFinal := by
  obtain ⟨leftLast, leftSuspends, leftReady⟩ := left
  induction leftSuspends using Relation.ReflTransGen.head_induction_on with
  | refl =>
      obtain ⟨rightLast, rightSuspends, rightReady⟩ := right
      rcases rightSuspends.cases_head with same | ⟨next, answered, _⟩
      · subst same
        obtain ⟨answer, state⟩ :=
          deterministic _ _ _ _ _ leftReady rightReady
        exact ⟨Poll.ready.inj answer, state⟩
      · have impossible := deterministic _ _ _ _ _ leftReady answered
        cases impossible.1
  | head answered _ inductionHypothesis =>
      obtain ⟨rightLast, rightSuspends, rightReady⟩ := right
      rcases rightSuspends.cases_head with same | ⟨next, other, rest⟩
      · subst same
        have impossible := deterministic _ _ _ _ _ answered rightReady
        cases impossible.1
      · obtain ⟨_, state⟩ := deterministic _ _ _ _ _ answered other
        subst state
        exact inductionHypothesis ⟨rightLast, rest, rightReady⟩

end Resumable

end Foundation
