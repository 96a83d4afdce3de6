import Hyperdriver.Foundation.Poll

/-!
# Behaviours of futures

What a future learns in a poll, such as the time or what another task has done,
is the input of that poll.  The behaviour of a future says what it has answered
after any sequence of polls that stops at the first ready answer.  Futures with
the same behaviour are the same to everyone who polls them.
-/

namespace Foundation

universe u v w x

/-- The other answer, while the first is pending. -/
def Poll.orElse {α : Type u} : Poll α → Poll α → Poll α
  | .pending, other => other
  | .ready value, _ => .ready value

/-- What is answered to the last of the polls, or to the first that is
ready. -/
abbrev Behaviour (Input : Type u) (α : Type w) : Type (max u w) :=
  List Input → Checked (Poll α)

section Behaviours

variable {Input : Type u} {σ : Type v} {τ : Type x} {α β : Type w}

/-- The behaviour of a future in a state. -/
def behaviour (poll : Input → σ → Checked (Poll α × σ)) :
    σ → Behaviour Input α
  | _, [] => .ok .pending
  | state, input :: rest =>
      match poll input state with
      | .error panic => .error panic
      | .ok (.ready value, _) => .ok (.ready value)
      | .ok (.pending, next) => behaviour poll next rest

namespace Behaviour

/-- The future that is ready at its first poll. -/
def immediate (value : α) : Behaviour Input α
  | [] => .ok .pending
  | _ :: _ => .ok (.ready value)

def map (transform : α → β) (inner : Behaviour Input α) : Behaviour Input β :=
  fun polls => (inner polls).map (Poll.map transform)

/-- The polls up to the first one that finds the time over. -/
def upTo (expired : Input → Bool) : List Input → List Input
  | [] => []
  | input :: rest =>
    if expired input then [input] else input :: upTo expired rest

theorem map_immediate (transform : α → β) (value : α) :
    map transform (immediate value : Behaviour Input α) =
      immediate (transform value) := by
  funext polls
  cases polls with
  | nil => rfl
  | cons input rest => rfl

theorem exists_of_map_eq_ready {transform : α → β}
    {inner : Behaviour Input α} {polls : List Input} {value : β}
    (isReady : map transform inner polls = .ok (.ready value)) :
    ∃ source, inner polls = .ok (.ready source) ∧ transform source = value := by
  rw [map] at isReady
  rcases answered : inner polls with panic | _ | source
  · rw [answered] at isReady
    cases isReady
  · rw [answered] at isReady
    cases isReady
  · rw [answered] at isReady
    cases isReady
    exact ⟨source, rfl, rfl⟩

theorem upTo_of_expired {expired : Input → Bool} {input : Input}
    (isExpired : expired input = true) (rest : List Input) :
    upTo expired (input :: rest) = [input] :=
  if_pos isExpired

theorem upTo_of_not_expired {expired : Input → Bool} {input : Input}
    (notExpired : expired input = false) (rest : List Input) :
    upTo expired (input :: rest) = input :: upTo expired rest :=
  if_neg (by simp [notExpired])

/-- An inner future with a time limit.  It is polled up to the first poll that
finds the time over, and if it still is pending then, the value is the
answer. -/
def within (expired : Input → Bool) (value : α) (inner : Behaviour Input α) :
    Behaviour Input α :=
  fun polls =>
    (inner (upTo expired polls)).map fun answer =>
      answer.orElse (if polls.any expired then .ready value else .pending)

/-- An inner future that is polled no more once a poll stops it.  If it still is
pending then, the value is the answer. -/
def stoppedBy (stops : Input → Bool) (value : α) (inner : Behaviour Input α) :
    Behaviour Input α :=
  fun polls =>
    (inner (polls.takeWhile fun input => !stops input)).map fun answer =>
      answer.orElse (if polls.any stops then .ready value else .pending)

/-- A future that becomes another one when it is ready.  The poll that finds it
ready goes on to the other one. -/
def andThen (next : α → Behaviour Input β) :
    Behaviour Input α → Behaviour Input β
  | _, [] => .ok .pending
  | first, input :: rest =>
      match first [input] with
      | .error panic => .error panic
      | .ok .pending => andThen next (fun polls => first (input :: polls)) rest
      | .ok (.ready value) => next value (input :: rest)

theorem map_map {γ : Type w} (first : α → β) (second : β → γ)
    (inner : Behaviour Input α) :
    map second (map first inner) = map (second ∘ first) inner := by
  funext polls
  rw [map, map, map]
  rcases inner polls with panic | _ | value
  · rfl
  · rfl
  · rfl

theorem map_id (inner : Behaviour Input α) : map id inner = inner := by
  funext polls
  rw [map]
  rcases inner polls with panic | _ | value
  · rfl
  · rfl
  · rfl

/-- A value that the inner future never has is the answer exactly if the inner
future is pending when the time is over. -/
theorem within_eq_value_iff {expired : Input → Bool} {value : α}
    {inner : Behaviour Input α} {polls : List Input}
    (other : ∀ polls, inner polls ≠ .ok (.ready value)) :
    within expired value inner polls = .ok (.ready value) ↔
      inner (upTo expired polls) = .ok .pending ∧
        ∃ input ∈ polls, expired input = true := by
  have notReady := other (upTo expired polls)
  rw [within, ← List.any_eq_true]
  generalize inner (upTo expired polls) = answer at notReady ⊢
  rcases answer with panic | _ | answer
  · simp [Except.map]
  · by_cases isExpired : polls.any expired = true
    · simp [Except.map, Poll.orElse, isExpired]
    · simp [Except.map, Poll.orElse, isExpired]
  · have different : answer ≠ value := by
      rintro rfl
      exact notReady rfl
    simp [Except.map, Poll.orElse, different]

/-- Another answer than the value comes from the inner future. -/
theorem ready_of_stoppedBy {stops : Input → Bool} {value answer : α}
    {inner : Behaviour Input α} {polls : List Input}
    (isReady : stoppedBy stops value inner polls = .ok (.ready answer))
    (different : answer ≠ value) :
    inner (polls.takeWhile fun input => !stops input) =
      .ok (.ready answer) := by
  rw [stoppedBy] at isReady
  generalize inner (polls.takeWhile fun input => !stops input) = found
    at isReady ⊢
  rcases found with panic | _ | other
  · cases isReady
  · by_cases isStopped : polls.any stops = true
    · rw [if_pos isStopped] at isReady
      cases isReady
      exact (different rfl).elim
    · rw [if_neg isStopped] at isReady
      cases isReady
  · cases isReady
    rfl

/-- When a poll finds the time over, there is an answer. -/
theorem within_ne_pending {expired : Input → Bool} {value : α}
    {inner : Behaviour Input α} {polls : List Input}
    (isExpired : ∃ input ∈ polls, expired input = true) :
    within expired value inner polls ≠ .ok .pending := by
  rw [within, List.any_eq_true.mpr isExpired]
  rcases inner (upTo expired polls) with panic | _ | answer
  · exact nofun
  · exact nofun
  · exact nofun

end Behaviour

/-! ## Wrapped futures -/

variable {outer : Input → τ → Checked (Poll β × τ)}
  {poll : Input → σ → Checked (Poll α × σ)} {wrap : σ → τ}

/-- A wrapper that transforms each answer transforms the behaviour. -/
theorem behaviour_map {transform : α → β}
    (polls :
      ∀ input state,
        outer input (wrap state) =
          (poll input state).map fun (answer, next) =>
            (answer.map transform, wrap next))
    (state : σ) :
    behaviour outer (wrap state) =
      (behaviour poll state).map transform := by
  funext inputs
  induction inputs generalizing state with
  | nil =>
      rfl
  | cons input rest inductionHypothesis =>
      rw [behaviour, Behaviour.map, behaviour, polls]
      rcases poll input state with panic | ⟨_ | value, next⟩
      · rfl
      · exact inductionHypothesis next
      · rfl

/-- A wrapper that asks for the time after a pending answer limits the time of
the inner future. -/
theorem behaviour_within {limited : Input → τ → Checked (Poll α × τ)}
    (expired : Input → Bool) (value : α) (wrap : σ → τ)
    (polls :
      ∀ input state,
        limited input (wrap state) =
          (poll input state).map fun (answer, next) =>
            (answer.orElse (if expired input then .ready value else .pending),
              wrap next))
    (state : σ) :
    behaviour limited (wrap state) =
      (behaviour poll state).within expired value := by
  funext inputs
  induction inputs generalizing state with
  | nil =>
      rfl
  | cons input rest inductionHypothesis =>
      rw [behaviour, polls, Behaviour.within, List.any_cons]
      cases isExpired : expired input with
      | true =>
          rw [Behaviour.upTo_of_expired isExpired, behaviour]
          rcases poll input state with panic | ⟨_ | answer, next⟩
          · rfl
          · rfl
          · rfl
      | false =>
          rw [Behaviour.upTo_of_not_expired isExpired, behaviour]
          rcases poll input state with panic | ⟨_ | answer, next⟩
          · rfl
          · exact inductionHypothesis next
          · rfl

/-- The poll of the outer future answers like the one of the inner future, and
while they are pending their states stay related. -/
inductive SameAnswer (Related : τ → σ → Prop) :
    Checked (Poll α × τ) → Checked (Poll α × σ) → Prop
  | panics (panic : Panic) : SameAnswer Related (.error panic) (.error panic)
  | ready (value : α) (left : τ) (right : σ) :
      SameAnswer Related (.ok (.ready value, left)) (.ok (.ready value, right))
  | pending {left : τ} {right : σ} :
      Related left right →
        SameAnswer Related (.ok (.pending, left)) (.ok (.pending, right))

/-- A wrapper that answers a poll itself once it is stopped. -/
theorem behaviour_stoppedBy {limited : Input → τ → Checked (Poll α × τ)}
    (stops : Input → Bool) (value : α) (wrap : σ → τ)
    (polls :
      ∀ input state,
        if stops input then
          ∃ next, limited input (wrap state) = .ok (.ready value, next)
        else
          SameAnswer (fun left right => left = wrap right)
            (limited input (wrap state)) (poll input state))
    (state : σ) :
    behaviour limited (wrap state) =
      (behaviour poll state).stoppedBy stops value := by
  funext inputs
  induction inputs generalizing state with
  | nil =>
      rfl
  | cons input rest inductionHypothesis =>
      have polled := polls input state
      rw [behaviour, Behaviour.stoppedBy, List.any_cons]
      cases isStopped : stops input with
      | true =>
          rw [isStopped, if_pos rfl] at polled
          obtain ⟨next, answered⟩ := polled
          rw [answered, List.takeWhile_cons_of_neg (by simp [isStopped])]
          rfl
      | false =>
          rw [isStopped, if_neg Bool.false_ne_true] at polled
          rw [List.takeWhile_cons_of_pos (by simp [isStopped]), behaviour]
          generalize limited input (wrap state) = leftPolled at polled ⊢
          generalize poll input state = rightPolled at polled ⊢
          cases polled with
          | panics panic => rfl
          | ready answer nextLeft nextRight => rfl
          | @pending left right related =>
              subst related
              exact inductionHypothesis right

/-- A future that goes on as another one when its first part is ready. -/
theorem behaviour_andThen (wrap : σ → τ) (next : α → Behaviour Input β)
    (polls :
      ∀ input state,
        match poll input state with
        | .error panic => outer input (wrap state) = .error panic
        | .ok (.pending, after) =>
            outer input (wrap state) = .ok (.pending, wrap after)
        | .ok (.ready value, _) =>
            ∀ rest,
              behaviour outer (wrap state) (input :: rest) =
                next value (input :: rest))
    (state : σ) :
    behaviour outer (wrap state) =
      (behaviour poll state).andThen next := by
  funext inputs
  induction inputs generalizing state with
  | nil =>
      rfl
  | cons input rest inductionHypothesis =>
      have polled := polls input state
      rw [Behaviour.andThen]
      rcases answered : poll input state with panic | ⟨_ | value, after⟩
      · simp only [answered] at polled
        simp only [behaviour, answered, polled]
      · simp only [answered] at polled
        simp only [behaviour, answered, polled]
        exact inductionHypothesis after
      · simp only [answered] at polled
        rw [polled]
        simp only [behaviour, answered]

/-- A future that has answered was polled until it was ready. -/
theorem completes_of_behaviour {state : σ} {inputs : List Input} {value : α}
    (isReady : behaviour poll state inputs = .ok (.ready value)) :
    ∃ final,
      Completes
        (fun before answer after =>
          ∃ input, poll input before = .ok (answer, after))
        state value final := by
  induction inputs generalizing state with
  | nil =>
      cases isReady
  | cons input rest inductionHypothesis =>
      rw [behaviour] at isReady
      rcases polled : poll input state with panic | ⟨_ | answer, next⟩
      · rw [polled] at isReady
        cases isReady
      · rw [polled] at isReady
        obtain ⟨final, completes⟩ := inductionHypothesis isReady
        exact ⟨final, .of_pending ⟨input, polled⟩ completes⟩
      · rw [polled] at isReady
        cases isReady
        exact ⟨next, .of_ready ⟨input, polled⟩⟩

/-- A future that is ready at once, whatever it is polled with. -/
theorem behaviour_immediate {state : σ} {value : α}
    (ready : ∀ input, ∃ next, poll input state = .ok (.ready value, next)) :
    behaviour poll state = Behaviour.immediate value := by
  funext inputs
  cases inputs with
  | nil =>
      rfl
  | cons input rest =>
      obtain ⟨next, polled⟩ := ready input
      rw [behaviour, polled]
      rfl

end Behaviours

end Foundation
