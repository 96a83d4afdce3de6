import Hyperdriver.Foundation.FuturesUnordered

/-!
# Happy eyeballs

An `EyeballSet` starts attempts one after the other and finishes with the first
that succeeds.  A first batch is started at once; each further attempt is taken
from the queue, held while the set waits for an outcome or for the delay to
elapse, and then started; in the end the set waits for the attempts that are
left.

`finish` is a future.  It is suspended where it awaits the next outcome, and an
overall timeout may drop it there.
-/

namespace Hyperdriver

open Foundation

universe u v w

namespace HappyEyeballs

abbrev Duration := Nat

abbrev Instant := Nat

inductive HappyEyeballsError (E : Type w) where
  | timeout (elapsed : Duration)
  | noProgress
  | error (error : E)
  deriving DecidableEq, Repr

abbrev HappyEyeballsResult (T : Type v) (E : Type w) :=
  Except (HappyEyeballsError E) T

structure EyeballSet (F : Type u) (T : Type v) (E : Type w) where
  queue : List F
  tasks : FuturesUnordered F (Except E T)
  delay : Option Duration
  timeout : Option Duration
  started : Option Instant
  initialConcurrency : Option Nat
  error : Option (HappyEyeballsError E)

/-- What awaiting the next outcome results in. -/
inductive Eyeball (T : Type v) where
  | ok (outcome : T)
  | error
  | timeout
  | exhausted
  deriving DecidableEq, Repr

/-- Where the processing of all attempts is suspended: with an attempt taken
from the queue, or with none left there. -/
inductive AwaitPoint (F : Type u) where
  | launching (future : F)
  | draining
  deriving DecidableEq, Repr

/-- The future of `finish`. -/
inductive FinishFuture (F : Type u) (T : Type v) (E : Type w) where
  | unstarted
  | suspended (point : AwaitPoint F)
  | done (result : HappyEyeballsResult T E)

/-- A set together with the future that finishes it. -/
structure Finishing (F : Type u) (T : Type v) (E : Type w) where
  set : EyeballSet F T E
  future : FinishFuture F T E

variable {F : Type u} {T : Type v} {E : Type w}

namespace EyeballSet

/-! ## Building a set -/

def new (delay timeout : Option Duration) (initialConcurrency : Option Nat) :
    EyeballSet F T E where
  queue := []
  tasks := .new
  delay := delay
  timeout := timeout
  started := none
  initialConcurrency := initialConcurrency
  error := none

def isEmpty (set : EyeballSet F T E) : Bool :=
  set.tasks.len = 0 && set.queue.isEmpty

def len (set : EyeballSet F T E) : Nat :=
  set.tasks.len + set.queue.length

def push (set : EyeballSet F T E) (future : F) : EyeballSet F T E :=
  { set with queue := set.queue ++ [future] }

def extend (set : EyeballSet F T E) (futures : List F) : EyeballSet F T E :=
  futures.foldl push set

/-! ## Awaiting an outcome -/

/-- The first statement of `join_next`. -/
def markStarted (set : EyeballSet F T E) (now : Instant) : EyeballSet F T E :=
  { set with started := some (set.started.getD now) }

/-- Poll `join_next`, which records the first error. -/
def pollJoinNext (set : EyeballSet F T E) :
    Poll (Eyeball T) × EyeballSet F T E :=
  match set.tasks.pollNext with
  | (.pending, tasks) => (.pending, { set with tasks })
  | (.ready (some (.ok stream)), tasks) =>
      (.ready (.ok stream), { set with tasks })
  | (.ready (some (.error e)), tasks) =>
      if set.error.isNone then
        (.ready .error, { set with tasks, error := some (.error e) })
      else
        (.ready .error, { set with tasks })
  | (.ready none, tasks) => (.ready .exhausted, { set with tasks })

/-- Poll `join_next_with_timeout`.  Whether the delay has `elapsed` matters only
when no outcome is ready. -/
def pollJoinNextWithTimeout (set : EyeballSet F T E) (elapsed : Bool) :
    Poll (Eyeball T) × EyeballSet F T E :=
  match set.delay with
  | some _ =>
      match set.pollJoinNext with
      | (.ready outcome, set) => (.ready outcome, set)
      | (.pending, set) =>
          if elapsed then (.ready .timeout, set) else (.pending, set)
  | none => set.pollJoinNext

/-! ## Processing all attempts -/

def start (set : EyeballSet F T E) (future : F) : EyeballSet F T E :=
  { set with tasks := set.tasks.push future }

/-- The `for` loop of `process_all`. -/
def startBatch (set : EyeballSet F T E) : Nat → EyeballSet F T E
  | 0 => set
  | count + 1 =>
      match set.queue with
      | future :: queue => ({ set with queue }.start future).startBatch count
      | [] => set.startBatch count

/-- The head of the `while` loop, up to where the next outcome is awaited: in
the loop with an attempt from the queue, or after it. -/
def awaitNext (set : EyeballSet F T E) (now : Instant) : Finishing F T E :=
  match set.queue with
  | future :: queue =>
      ⟨{ set with queue }.markStarted now, .suspended (.launching future)⟩
  | [] => ⟨set.markStarted now, .suspended .draining⟩

/-- `process_all` up to where it first awaits. -/
def processAll (set : EyeballSet F T E) (now : Instant) : Finishing F T E :=
  (set.startBatch
    (set.initialConcurrency.getD set.queue.length)).awaitNext now

/-- `process_all` from where it is suspended to where it next awaits, if it can
go on.  In the `while` loop the future that was taken from the queue is dropped
on success and started otherwise. -/
def resume (set : EyeballSet F T E) (elapsed : Bool) (now : Instant) :
    AwaitPoint F → Checked (Finishing F T E)
  | .launching future =>
      match set.pollJoinNextWithTimeout elapsed with
      | (.pending, set) => .ok ⟨set, .suspended (.launching future)⟩
      | (.ready (.ok outcome), set) => .ok ⟨set, .done (.ok outcome)⟩
      | (.ready _, set) => .ok ((set.start future).awaitNext now)
  | .draining =>
      match set.pollJoinNext with
      | (.pending, set) => .ok ⟨set, .suspended .draining⟩
      | (.ready (.ok outcome), set) => .ok ⟨set, .done (.ok outcome)⟩
      | (.ready .error, set) =>
          .ok ⟨set.markStarted now, .suspended .draining⟩
      | (.ready .timeout, _) => .error (.explicit "unexpected timeout")
      | (.ready .exhausted, set) =>
          .ok ⟨{ set with error := none },
            .done (.error (set.error.getD .noProgress))⟩

/-- The end of `finish` when its timeout has elapsed, with the two readings of
the clock that it makes. -/
def timeOut (set : EyeballSet F T E) (now later : Instant) :
    Finishing F T E :=
  ⟨set, .done (.error (.timeout (later - set.started.getD now)))⟩

end EyeballSet

/-! ## What each function does -/

namespace EyeballSet

/-- Everything polling for the next outcome can do. -/
inductive JoinNext (set : EyeballSet F T E) :
    Poll (Eyeball T) → EyeballSet F T E → Prop
  | succeeds {attempt : F} {outcome : T} {rest : List (F × Except E T)}
      (found : set.tasks.completed = (attempt, .ok outcome) :: rest) :
      JoinNext set (.ready (.ok outcome))
        { set with tasks := set.tasks.yieldFirst found }
  | fails {attempt : F} {e : E} {rest : List (F × Except E T)}
      (found : set.tasks.completed = (attempt, .error e) :: rest) :
      JoinNext set (.ready .error)
        { set with
          tasks := set.tasks.yieldFirst found
          error := set.error.or (some (.error e)) }
  | exhausted :
      set.tasks.completed = [] → set.tasks.running = [] →
        JoinNext set (.ready .exhausted) set
  | waits :
      set.tasks.completed = [] → set.tasks.running ≠ [] →
        JoinNext set .pending set

theorem pollJoinNext_spec (set : EyeballSet F T E) :
    JoinNext set set.pollJoinNext.1 set.pollJoinNext.2 := by
  have spec := set.tasks.pollNext_spec
  unfold pollJoinNext
  rcases polled : set.tasks.pollNext with ⟨answer, tasks⟩
  rw [polled] at spec
  cases spec with
  | @yields attempt output rest found =>
      cases output with
      | ok outcome =>
          exact .succeeds found
      | error e =>
          have recorded := JoinNext.fails found
          rcases hasError : set.error with _ | earlier
          · rw [hasError] at recorded
            exact recorded
          · rw [hasError] at recorded
            exact recorded
  | empty none idle =>
      exact .exhausted none idle
  | waits none busy =>
      exact .waits none busy

/-- Everything that can happen while an attempt is held. -/
inductive Launching (set : EyeballSet F T E) (future : F) (now : Instant) :
    Finishing F T E → Prop
  | waits :
      set.tasks.completed = [] → set.tasks.running ≠ [] →
        Launching set future now ⟨set, .suspended (.launching future)⟩
  | succeeds {attempt : F} {outcome : T} {rest : List (F × Except E T)}
      (found : set.tasks.completed = (attempt, .ok outcome) :: rest) :
      Launching set future now
        ⟨{ set with tasks := set.tasks.yieldFirst found },
          .done (.ok outcome)⟩
  | fails {attempt : F} {e : E} {rest : List (F × Except E T)}
      (found : set.tasks.completed = (attempt, .error e) :: rest) :
      Launching set future now
        (({ set with
            tasks := set.tasks.yieldFirst found
            error := set.error.or (some (.error e)) }.start future).awaitNext
          now)
  | continues :
      set.tasks.completed = [] →
        set.tasks.running = [] ∨ set.delay ≠ none →
          Launching set future now ((set.start future).awaitNext now)

theorem resume_launching (set : EyeballSet F T E) (future : F)
    (elapsed : Bool) (now : Instant) :
    ∃ next, set.resume elapsed now (.launching future) = .ok next ∧
      Launching set future now next := by
  have spec := set.pollJoinNext_spec
  rcases polled : set.pollJoinNext with ⟨answer, joined⟩
  rw [polled] at spec
  rcases hasDelay : set.delay with _ | delay
  · have same : set.pollJoinNextWithTimeout elapsed = (answer, joined) := by
      simp only [pollJoinNextWithTimeout, hasDelay, polled]
    simp only [resume, same]
    cases spec with
    | succeeds found =>
        exact ⟨_, rfl, .succeeds found⟩
    | fails found =>
        exact ⟨_, rfl, .fails found⟩
    | exhausted none idle =>
        exact ⟨_, rfl, .continues none (Or.inl idle)⟩
    | waits none busy =>
        exact ⟨_, rfl, .waits none busy⟩
  · have delayed : set.delay ≠ none := by
      rw [hasDelay]
      exact Option.some_ne_none delay
    simp only [resume, pollJoinNextWithTimeout, hasDelay, polled]
    cases spec with
    | succeeds found =>
        exact ⟨_, rfl, .succeeds found⟩
    | fails found =>
        exact ⟨_, rfl, .fails found⟩
    | exhausted none idle =>
        exact ⟨_, rfl, .continues none (Or.inl idle)⟩
    | waits none busy =>
        cases elapsed with
        | true =>
            exact ⟨_, rfl, .continues none (Or.inr delayed)⟩
        | false =>
            exact ⟨_, rfl, .waits none busy⟩

/-- Everything that can happen once the queue is empty.  The delay plays no
part in it. -/
inductive Draining (set : EyeballSet F T E) (now : Instant) :
    Finishing F T E → Prop
  | waits :
      set.tasks.completed = [] → set.tasks.running ≠ [] →
        Draining set now ⟨set, .suspended .draining⟩
  | succeeds {attempt : F} {outcome : T} {rest : List (F × Except E T)}
      (found : set.tasks.completed = (attempt, .ok outcome) :: rest) :
      Draining set now
        ⟨{ set with tasks := set.tasks.yieldFirst found },
          .done (.ok outcome)⟩
  | fails {attempt : F} {e : E} {rest : List (F × Except E T)}
      (found : set.tasks.completed = (attempt, .error e) :: rest) :
      Draining set now
        ⟨{ set with
            tasks := set.tasks.yieldFirst found
            error := set.error.or (some (.error e)) }.markStarted now,
          .suspended .draining⟩
  | exhausted :
      set.tasks.completed = [] → set.tasks.running = [] →
        Draining set now
          ⟨{ set with error := none },
            .done (.error (set.error.getD .noProgress))⟩

theorem resume_draining (set : EyeballSet F T E) (elapsed : Bool)
    (now : Instant) :
    ∃ next, set.resume elapsed now .draining = .ok next ∧
      Draining set now next := by
  have spec := set.pollJoinNext_spec
  rcases polled : set.pollJoinNext with ⟨answer, joined⟩
  rw [polled] at spec
  simp only [resume, polled]
  cases spec with
  | succeeds found =>
      exact ⟨_, rfl, .succeeds found⟩
  | fails found =>
      exact ⟨_, rfl, .fails found⟩
  | exhausted none idle =>
      exact ⟨_, rfl, .exhausted none idle⟩
  | waits none busy =>
      exact ⟨_, rfl, .waits none busy⟩

/-- The processing never panics where it is suspended. -/
theorem resume_total (set : EyeballSet F T E) (elapsed : Bool)
    (now : Instant) (point : AwaitPoint F) :
    ∃ next, set.resume elapsed now point = .ok next := by
  cases point with
  | launching future =>
      obtain ⟨next, resumed, _⟩ := set.resume_launching future elapsed now
      exact ⟨next, resumed⟩
  | draining =>
      obtain ⟨next, resumed, _⟩ := set.resume_draining elapsed now
      exact ⟨next, resumed⟩

theorem startBatch_eq (set : EyeballSet F T E) (count : Nat) :
    set.startBatch count =
      { set with
        queue := set.queue.drop count
        tasks := set.tasks.pushAll (set.queue.take count) } := by
  induction count generalizing set with
  | zero =>
      rfl
  | succ count inductionHypothesis =>
      rcases hasQueue : set.queue with _ | ⟨future, queue⟩
      · simp only [startBatch, hasQueue]
        rw [inductionHypothesis, hasQueue]
        simp [FuturesUnordered.pushAll]
      · simp only [startBatch, hasQueue]
        rw [inductionHypothesis]
        rfl

section AwaitNext

variable (set : EyeballSet F T E) (now : Instant)

@[simp]
theorem tasks_awaitNext : (set.awaitNext now).set.tasks = set.tasks := by
  unfold awaitNext
  split <;> rfl

@[simp]
theorem delay_awaitNext : (set.awaitNext now).set.delay = set.delay := by
  unfold awaitNext
  split <;> rfl

theorem future_awaitNext :
    ∃ point, (set.awaitNext now).future = .suspended point := by
  unfold awaitNext
  split
  · exact ⟨_, rfl⟩
  · exact ⟨_, rfl⟩

theorem awaitNext_ne_done (result : HappyEyeballsResult T E) :
    (set.awaitNext now).future ≠ .done result := by
  obtain ⟨point, isSuspended⟩ := set.future_awaitNext now
  rw [isSuspended]
  intro isDone
  cases isDone

end AwaitNext

end EyeballSet

/-! ## Steps -/

/-- An attempt that runs completes with an outcome. -/
inductive Completes (attempt : F) : Finishing F T E → Finishing F T E → Prop
  | intro {set : EyeballSet F T E} {future : FinishFuture F T E}
      {before after : List F} (outcome : Except E T)
      (isRunning : set.tasks.running = before ++ attempt :: after) :
      Completes attempt ⟨set, future⟩
        ⟨{ set with tasks := set.tasks.complete outcome isRunning }, future⟩

/-- The future of `finish` runs to where it next awaits, if it can. -/
inductive Advances : Finishing F T E → Finishing F T E → Prop
  | begins (set : EyeballSet F T E) (now : Instant) :
      Advances ⟨set, .unstarted⟩ (set.processAll now)
  | resumes {set : EyeballSet F T E} {point : AwaitPoint F}
      {next : Finishing F T E} (elapsed : Bool) (now : Instant)
      (resumed : set.resume elapsed now point = .ok next) :
      Advances ⟨set, .suspended point⟩ next

/-- The overall timeout elapses while no outcome is ready, and the suspended
processing is dropped. -/
inductive TimesOut : Finishing F T E → Finishing F T E → Prop
  | intro {set : EyeballSet F T E} {point : AwaitPoint F} {limit : Duration}
      (now later : Instant) (limited : set.timeout = some limit)
      (waiting : set.tasks.pollNext.1 = .pending) :
      TimesOut ⟨set, .suspended point⟩ (set.timeOut now later)

theorem Advances.launching {set : EyeballSet F T E} {future : F}
    {next : Finishing F T E}
    (advances : Advances ⟨set, .suspended (.launching future)⟩ next) :
    ∃ now, set.Launching future now next := by
  cases advances with
  | resumes elapsed now resumed =>
      obtain ⟨other, same, spec⟩ := set.resume_launching future elapsed now
      cases resumed.symm.trans same
      exact ⟨now, spec⟩

theorem Advances.draining {set : EyeballSet F T E} {next : Finishing F T E}
    (advances : Advances ⟨set, .suspended .draining⟩ next) :
    ∃ now, set.Draining now next := by
  cases advances with
  | resumes elapsed now resumed =>
      obtain ⟨other, same, spec⟩ := set.resume_draining elapsed now
      cases resumed.symm.trans same
      exact ⟨now, spec⟩

inductive Step : Finishing F T E → Finishing F T E → Prop
  | completes {before after : Finishing F T E} {attempt : F} :
      Completes attempt before after → Step before after
  | advances {before after : Finishing F T E} :
      Advances before after → Step before after
  | timesOut {before after : Finishing F T E} :
      TimesOut before after → Step before after

/-- `Run start state`: some schedule leads from `start` to `state`. -/
def Run : Finishing F T E → Finishing F T E → Prop :=
  Relation.ReflTransGen Step

end HappyEyeballs

end Hyperdriver
