import Hyperdriver.HappyEyeballs.Outcome

/-!
# Happy eyeballs finish

A schedule is an infinite run in which `finish` is polled whenever an outcome is
ready and every attempt that runs completes in the end.  The work that is left
gets smaller with every step that changes anything, and so each schedule comes
to an end of `finish`.
-/

namespace Hyperdriver

open Foundation

universe u v w

namespace HappyEyeballs

variable {F : Type u} {T : Type v} {E : Type w}

/-! ## The work that is left -/

namespace EyeballSet

def load (set : EyeballSet F T E) : Nat :=
  4 * set.queue.length + 2 * set.tasks.running.length +
    set.tasks.completed.length

end EyeballSet

/-- A held attempt is still to be started and to complete; an unstarted future
is at least to be polled once. -/
def FinishFuture.work : FinishFuture F T E → Nat
  | .unstarted => 2
  | .suspended (.launching _) => 4
  | .suspended .draining => 1
  | .done _ => 0

def Finishing.work (state : Finishing F T E) : Nat :=
  state.set.load + state.future.work

/-- Polling the future lets it go on. -/
def Ready : Finishing F T E → Prop
  | ⟨_, .unstarted⟩ => True
  | ⟨set, .suspended _⟩ => set.tasks.pollNext.1 ≠ .pending
  | ⟨_, .done _⟩ => False

section Work

variable {set : EyeballSet F T E}

private theorem load_startBatch (set : EyeballSet F T E) (count : Nat) :
    (set.startBatch count).load ≤ set.load := by
  rw [set.startBatch_eq]
  have split :
      (set.queue.take count).length + (set.queue.drop count).length =
        set.queue.length := by
    rw [← List.length_append, List.take_append_drop]
  simp only [EyeballSet.load, FuturesUnordered.running_pushAll,
    FuturesUnordered.completed_pushAll, List.length_append]
  omega

private theorem load_start (set : EyeballSet F T E) (future : F) :
    (set.start future).load = set.load + 2 := by
  simp only [EyeballSet.load, EyeballSet.start, FuturesUnordered.push,
    List.length_append, List.length_singleton]
  omega

private theorem load_yieldFirst {first : F × Except E T}
    {rest : List (F × Except E T)}
    (found : set.tasks.completed = first :: rest)
    (error : Option (HappyEyeballsError E)) :
    ({ set with tasks := set.tasks.yieldFirst found, error } :
        EyeballSet F T E).load + 1 = set.load := by
  simp only [EyeballSet.load, FuturesUnordered.yieldFirst, found,
    List.length_cons]
  omega

private theorem work_awaitNext (set : EyeballSet F T E) (now : Instant) :
    (set.awaitNext now).work ≤ set.load + 1 := by
  unfold EyeballSet.awaitNext
  split
  · rename_i future queue hasQueue
    simp only [Finishing.work, FinishFuture.work, EyeballSet.load,
      EyeballSet.markStarted, hasQueue, List.length_cons]
    omega
  · exact Nat.le_refl _

private theorem work_completes {before after : Finishing F T E} {attempt : F}
    (completes : Completes attempt before after) :
    after.work < before.work := by
  cases completes with
  | intro outcome isRunning =>
      simp only [Finishing.work, EyeballSet.load, FuturesUnordered.complete,
        isRunning, List.length_append, List.length_cons, List.length_nil]
      omega

theorem work_processAll (set : EyeballSet F T E) (now : Instant) :
    (set.processAll now).work <
      (⟨set, .unstarted⟩ : Finishing F T E).work := by
  have started :=
    load_startBatch set (set.initialConcurrency.getD set.queue.length)
  have awaited :=
    work_awaitNext
      (set.startBatch (set.initialConcurrency.getD set.queue.length)) now
  simp only [EyeballSet.processAll, Finishing.work, FinishFuture.work]
    at awaited ⊢
  omega

theorem work_start_awaitNext (set : EyeballSet F T E) (future : F)
    (now : Instant) :
    ((set.start future).awaitNext now).work ≤ set.load + 3 := by
  have started := load_start set future
  have awaited := work_awaitNext (set.start future) now
  omega

private theorem not_ready_of_busy {point : AwaitPoint F}
    (none : set.tasks.completed = []) (busy : set.tasks.running ≠ []) :
    ¬ Ready (⟨set, .suspended point⟩ : Finishing F T E) := by
  intro ready
  exact ready (set.tasks.pollNext_pending_iff.mpr ⟨none, busy⟩)

private theorem work_launching {future : F} {now : Instant}
    {next : Finishing F T E}
    (launching : set.Launching future now next) :
    next.work <
        (⟨set, .suspended (.launching future)⟩ : Finishing F T E).work ∨
      next = ⟨set, .suspended (.launching future)⟩ ∧ ¬ Ready next := by
  cases launching with
  | waits none busy =>
      exact Or.inr ⟨rfl, not_ready_of_busy none busy⟩
  | succeeds found =>
      left
      have yielded := load_yieldFirst found set.error
      simp only [Finishing.work, FinishFuture.work]
      omega
  | @fails attempt e rest found =>
      left
      have yielded := load_yieldFirst found (set.error.or (some (.error e)))
      have awaited :=
        work_start_awaitNext
          { set with
            tasks := set.tasks.yieldFirst found
            error := set.error.or (some (.error e)) } future now
      simp only [Finishing.work, FinishFuture.work] at awaited ⊢
      omega
  | continues _ _ =>
      left
      have awaited := work_start_awaitNext set future now
      simp only [Finishing.work, FinishFuture.work] at awaited ⊢
      omega

private theorem work_draining {now : Instant} {next : Finishing F T E}
    (draining : set.Draining now next) :
    next.work < (⟨set, .suspended .draining⟩ : Finishing F T E).work ∨
      next = ⟨set, .suspended .draining⟩ ∧ ¬ Ready next := by
  cases draining with
  | waits none busy =>
      exact Or.inr ⟨rfl, not_ready_of_busy none busy⟩
  | succeeds found =>
      left
      have yielded := load_yieldFirst found set.error
      simp only [Finishing.work, FinishFuture.work]
      omega
  | @fails attempt e rest found =>
      left
      have yielded := load_yieldFirst found (set.error.or (some (.error e)))
      simp only [Finishing.work, FinishFuture.work, EyeballSet.markStarted,
        EyeballSet.load] at yielded ⊢
      omega
  | exhausted _ _ =>
      left
      simp only [Finishing.work, FinishFuture.work, EyeballSet.load]
      omega

/-- An advance does some of the work, unless the future has to wait. -/
theorem work_advances {before after : Finishing F T E}
    (advances : Advances before after) :
    after.work < before.work ∨ after = before ∧ ¬ Ready after := by
  rcases before with ⟨set, _ | (future | _) | result⟩
  · cases advances with
    | begins _ now =>
        exact Or.inl (work_processAll set now)
  · obtain ⟨now, launching⟩ := advances.launching
    exact work_launching launching
  · obtain ⟨now, draining⟩ := advances.draining
    exact work_draining draining
  · cases advances

theorem work_timesOut {before after : Finishing F T E}
    (timesOut : TimesOut before after) : after.work < before.work := by
  cases timesOut with
  | @intro set point _ now later _ _ =>
      cases point with
      | launching future =>
          simp only [EyeballSet.timeOut, Finishing.work, FinishFuture.work]
          omega
      | draining =>
          simp only [EyeballSet.timeOut, Finishing.work, FinishFuture.work]
          omega

private theorem work_step {before after : Finishing F T E}
    (step : Step before after) :
    after = before ∨ after.work < before.work := by
  cases step with
  | completes completes =>
      exact Or.inr (work_completes completes)
  | advances advances =>
      rcases work_advances advances with smaller | ⟨same, _⟩
      · exact Or.inr smaller
      · exact Or.inl same
  | timesOut timesOut =>
      exact Or.inr (work_timesOut timesOut)

end Work

/-! ## Schedules -/

/-- An infinite run, which may rest, with a fair executor and with attempts that
complete. -/
structure Schedule (start : Finishing F T E)
    (states : Nat → Finishing F T E) : Prop where
  starts : states 0 = start
  steps :
    ∀ time,
      states (time + 1) = states time ∨ Step (states time) (states (time + 1))
  /-- A future that stays ready is polled. -/
  polled :
    WeakFair (fun time => Ready (states time))
      fun time => Advances (states time) (states (time + 1))
  /-- An attempt does not run forever. -/
  completed :
    ∀ attempt,
      WeakFair (fun time => attempt ∈ (states time).set.tasks.running)
        fun time => Completes attempt (states time) (states (time + 1))

section Schedules

variable {start : Finishing F T E} {states : Nat → Finishing F T E}

private theorem Schedule.run (schedule : Schedule start states) (time : Nat) :
    Run start (states time) := by
  induction time with
  | zero =>
      rw [schedule.starts]
      exact Relation.ReflTransGen.refl
  | succ time inductionHypothesis =>
      rcases schedule.steps time with same | step
      · rw [same]
        exact inductionHypothesis
      · exact inductionHypothesis.tail step

private theorem Schedule.descends (schedule : Schedule start states) :
    Descends Finishing.work states := by
  intro time
  rcases schedule.steps time with same | step
  · exact Or.inl same
  · exact work_step step

/-- A future that is not done cannot stay as it is forever. -/
theorem Schedule.done_of_constantFrom (schedule : Schedule start states)
    {stable : Nat} (constant : ConstantFrom states stable) :
    ∃ result, (states stable).future = .done result := by
  have unchanged :
      ∀ time, stable ≤ time →
        states time = states stable ∧ states (time + 1) = states stable :=
    fun time later =>
      ⟨constant time later, constant (time + 1) (Nat.le_succ_of_le later)⟩
  have notReady : ¬ Ready (states stable) := by
    intro ready
    have enabled : ∀ time, stable ≤ time → Ready (states time) := by
      intro time later
      rw [constant time later]
      exact ready
    obtain ⟨time, later, advances⟩ := schedule.polled stable enabled
    rw [(unchanged time later).1, (unchanged time later).2] at advances
    rcases work_advances advances with smaller | ⟨_, waits⟩
    · omega
    · exact waits ready
  have notRunning : (states stable).set.tasks.running = [] := by
    apply List.eq_nil_iff_forall_not_mem.mpr
    intro attempt isRunning
    have enabled :
        ∀ time, stable ≤ time →
          attempt ∈ (states time).set.tasks.running := by
      intro time later
      rw [constant time later]
      exact isRunning
    obtain ⟨time, later, completes⟩ :=
      schedule.completed attempt stable enabled
    rw [(unchanged time later).1, (unchanged time later).2] at completes
    have smaller := work_completes completes
    omega
  rcases shape : states stable with ⟨set, _ | point | result⟩
  · rw [shape] at notReady
    exact (notReady trivial).elim
  · rw [shape] at notReady notRunning
    have pending : set.tasks.pollNext.1 = .pending :=
      not_not.mp notReady
    have busy := (set.tasks.pollNext_pending_iff.mp pending).2
    exact (busy notRunning).elim
  · exact ⟨result, rfl⟩

private theorem Schedule.finishes (schedule : Schedule start states) :
    ∃ time result, (states time).future = .done result :=
  schedule.descends.reaches
    (fun state => ∃ result, state.future = .done result)
    fun _ constant => schedule.done_of_constantFrom constant

end Schedules

/-! ## Main result -/

/-- What finishing a set without an overall timeout guarantees. -/
structure Sound (attempts : List F) (state : Finishing F T E) : Prop where
  /-- The attempts are started in their order. -/
  inOrder : state.set.tasks.pushed <+: attempts
  /-- The next poll does not panic. -/
  total :
    ∀ point, state.future = .suspended point →
      ∀ elapsed now, ∃ next, state.set.resume elapsed now point = .ok next
  succeeded :
    ∀ outcome, state.future = .done (.ok outcome) →
      firstSuccess state.set.tasks.completions = some outcome
  /-- Only when all attempts have been started and have failed is the result an
  error, and it is the first one. -/
  failed :
    ∀ error, state.future = .done (.error error) →
      state.set.tasks.pushed = attempts ∧
        (state.set.tasks.completions.map Prod.fst).Perm attempts ∧
          AllFailed state.set.tasks.completions ∧
            error =
                (firstError state.set.tasks.completions).elim .noProgress
                  .error ∧
              (error = .noProgress ↔ attempts = [])
  /-- One attempt that succeeds is enough. -/
  succeeds :
    ∀ outcomes : F → Except E T,
      (∀ completion, completion ∈ state.set.tasks.completions →
        completion.2 = outcomes completion.1) →
        (∃ attempt outcome,
          attempt ∈ attempts ∧ outcomes attempt = .ok outcome) →
          ∀ result, state.future = .done result →
            ∃ outcome, result = .ok outcome ∧
              firstSuccess state.set.tasks.completions = some outcome

private theorem Settled.cases_of_unlimited {attempts : List F}
    {set : EyeballSet F T E} {result : HappyEyeballsResult T E}
    (settled : Settled none attempts set result) :
    (∃ outcome, result = .ok outcome ∧
        firstSuccess set.tasks.completions = some outcome) ∨
      ∃ error, result = .error error ∧ set.tasks.pushed = attempts ∧
        (set.tasks.completions.map Prod.fst).Perm attempts ∧
          AllFailed set.tasks.completions ∧
            error =
                (firstError set.tasks.completions).elim .noProgress .error ∧
              (error = .noProgress ↔ attempts = []) := by
  cases settled with
  | @succeeded outcome _ found =>
      exact Or.inl ⟨outcome, rfl, found⟩
  | failed started idle none failed =>
      have all : set.tasks.completions = set.tasks.yielded := by
        rw [FuturesUnordered.completions, none, List.append_nil]
      have conserved := set.tasks.conserved
      rw [idle, List.nil_append, started] at conserved
      have noAttempts :
          firstError set.tasks.completions = Option.none ↔ attempts = [] := by
        rw [all, failed.firstError_eq_none_iff, ← all,
          ← List.map_eq_nil_iff (f := Prod.fst)]
        exact ⟨fun empty => (empty ▸ conserved).eq_nil,
          fun empty => (empty ▸ conserved).symm.eq_nil⟩
      rw [← all] at failed ⊢
      refine Or.inr ⟨_, rfl, started, conserved.symm, failed, rfl, ?_⟩
      rw [← noAttempts]
      cases firstError set.tasks.completions with
      | none => simp
      | some first => simp
  | timedOut _ limited _ =>
      exact (limited rfl).elim

private theorem Invariant.sound {attempts : List F} {state : Finishing F T E}
    (invariant : Invariant none attempts state) : Sound attempts state := by
  have inOrder : state.set.tasks.pushed <+: attempts := by
    rcases state with ⟨set, _ | (future | _) | result⟩
    · exact Live.pushed_isPrefixOf invariant
    · exact Live.pushed_isPrefixOf invariant
    · exact invariant.1.pushed_isPrefixOf
    · cases invariant with
      | succeeded ordered _ => exact ordered
      | failed ordered _ _ _ => exact ordered ▸ List.prefix_refl _
      | timedOut ordered _ _ => exact ordered
  have settled :
      ∀ result, state.future = .done result →
        Settled none attempts state.set result := by
    intro result isDone
    rcases state with ⟨set, future⟩
    subst isDone
    exact invariant
  exact
    { inOrder := inOrder
      total := fun point _ elapsed now =>
        state.set.resume_total elapsed now point
      succeeded := by
        intro outcome isDone
        rcases (settled _ isDone).cases_of_unlimited with
          ⟨value, same, found⟩ | ⟨error, different, _⟩
        · cases same
          exact found
        · cases different
      failed := by
        intro error isDone
        rcases (settled _ isDone).cases_of_unlimited with
          ⟨value, different, _⟩ | ⟨other, same, facts⟩
        · cases different
        · cases same
          exact facts
      succeeds := by
        rintro outcomes agree ⟨attempt, outcome, isAttempt, succeeds⟩ result
          isDone
        rcases (settled _ isDone).cases_of_unlimited with
          success | ⟨error, _, _, completed, failed, _⟩
        · exact success
        · have hasCompleted := completed.symm.mem_iff.mp isAttempt
          obtain ⟨completion, member, rfl⟩ := List.mem_map.mp hasCompleted
          obtain ⟨e, isError⟩ := failed completion member
          rw [← agree completion member, isError] at succeeds
          cases succeeds }

/-- Without an overall timeout `finish` comes to an end on every schedule, and
whatever the schedule, it starts the attempts in order, does not panic, and
results in the first success, or, once all attempts have failed, in the first
error. -/
theorem finish_correct (delay : Option Duration)
    (initialConcurrency : Option Nat) (attempts : List F) :
    (∀ state : Finishing F T E,
      Run (fresh delay none initialConcurrency attempts) state →
        Sound attempts state) ∧
    ∀ states : Nat → Finishing F T E,
      Schedule (fresh delay none initialConcurrency attempts) states →
        ∃ time result,
          Run (fresh delay none initialConcurrency attempts) (states time) ∧
            (states time).future = .done result := by
  constructor
  · intro state run
    have start :=
      invariant_fresh (T := T) (E := E) delay none initialConcurrency attempts
    exact (start.run run).sound
  · intro states schedule
    obtain ⟨time, result, isDone⟩ := schedule.finishes
    exact ⟨time, result, schedule.run time, isDone⟩

/-! ## Two attempts -/

section TwoAttempts

variable (timeout : Option Duration)

/-- Attempt 7 has been started, and attempt 8 waits for the delay. -/
def firstLaunched : Finishing Nat Nat String :=
  EyeballSet.processAll
    ((EyeballSet.new (some 100) timeout (some 1)).extend [7, 8]) 0

/-- The delay has elapsed. -/
def bothLaunched : Finishing Nat Nat String :=
  ((firstLaunched timeout).set.start 8).awaitNext 100

theorem bothLaunched_running :
    (bothLaunched timeout).set.tasks.running = [] ++ 7 :: [8] :=
  rfl

def firstFailed : Finishing Nat Nat String :=
  ⟨{ (bothLaunched timeout).set with
      tasks :=
        (bothLaunched timeout).set.tasks.complete (.error "refused")
          (bothLaunched_running timeout) },
    .suspended .draining⟩

def failureRecorded : Finishing Nat Nat String :=
  ⟨{ (firstFailed timeout).set with
      tasks :=
        (firstFailed timeout).set.tasks.yieldFirst
          (show (firstFailed timeout).set.tasks.completed =
              (7, .error "refused") :: []
            from rfl)
      error := some (.error "refused") },
    .suspended .draining⟩

theorem failureRecorded_running :
    (failureRecorded timeout).set.tasks.running = [] ++ 8 :: [] :=
  rfl

def secondConnected : Finishing Nat Nat String :=
  ⟨{ (failureRecorded timeout).set with
      tasks :=
        (failureRecorded timeout).set.tasks.complete (.ok 5)
          (failureRecorded_running timeout) },
    .suspended .draining⟩

def connectionReported : Finishing Nat Nat String :=
  ⟨{ (secondConnected timeout).set with
      tasks :=
        (secondConnected timeout).set.tasks.yieldFirst
          (show (secondConnected timeout).set.tasks.completed =
              (8, .ok 5) :: []
            from rfl) },
    .done (.ok 5)⟩

theorem firstLaunched_resume :
    (firstLaunched timeout).set.resume true 100 (.launching 8) =
      .ok (bothLaunched timeout) :=
  rfl

theorem firstFailed_resume :
    (firstFailed timeout).set.resume false 0 .draining =
      .ok (failureRecorded timeout) :=
  rfl

theorem secondConnected_resume :
    (secondConnected timeout).set.resume false 0 .draining =
      .ok (connectionReported timeout) :=
  rfl

end TwoAttempts

/-- The delay elapses before the first attempt fails, and the second one
succeeds. -/
def twoAttempts : Nat → Finishing Nat Nat String
  | 0 => fresh (some 100) none (some 1) [7, 8]
  | 1 => firstLaunched none
  | 2 => bothLaunched none
  | 3 => firstFailed none
  | 4 => failureRecorded none
  | 5 => secondConnected none
  | _ + 6 => connectionReported none

private theorem twoAttempts_schedule :
    Schedule (fresh (some 100) none (some 1) [7, 8]) twoAttempts where
  starts := rfl
  steps time := by
    rcases time with _ | _ | _ | _ | _ | _ | time
    · exact Or.inr (.advances (.begins _ 0))
    · exact Or.inr
        (.advances (.resumes true 100 (firstLaunched_resume none)))
    · exact Or.inr
        (.completes (.intro (.error "refused") (bothLaunched_running none)))
    · exact Or.inr
        (.advances (.resumes false 0 (firstFailed_resume none)))
    · exact Or.inr
        (.completes (.intro (.ok 5) (failureRecorded_running none)))
    · exact Or.inr
        (.advances (.resumes false 0 (secondConnected_resume none)))
    · exact Or.inl rfl
  polled start enabled := by
    have ready : Ready (connectionReported none) :=
      enabled (start + 6) (Nat.le_add_right start 6)
    cases ready
  completed attempt start enabled := by
    have running : attempt ∈ (connectionReported none).set.tasks.running :=
      enabled (start + 6) (Nat.le_add_right start 6)
    cases running

/-- The schedule of the two attempts comes to an end, not before the second one
has been reported, and the result is its success although an error was
recorded. -/
theorem finish_correct_twoAttempts :
    (∀ time, Sound [7, 8] (twoAttempts time)) ∧
      ∃ time, 6 ≤ time ∧ (twoAttempts time).future = .done (.ok 5) ∧
        (twoAttempts time).set.error = some (.error "refused") ∧
          firstSuccess (twoAttempts time).set.tasks.completions = some 5 := by
  obtain ⟨sound, terminates⟩ :=
    finish_correct (T := Nat) (E := String) (some 100) (some 1) [7, 8]
  have soundAt : ∀ time, Sound [7, 8] (twoAttempts time) :=
    fun time => sound _ (twoAttempts_schedule.run time)
  refine ⟨soundAt, ?_⟩
  obtain ⟨time, result, _, isDone⟩ :=
    terminates twoAttempts twoAttempts_schedule
  rcases time with _ | _ | _ | _ | _ | _ | time
  · cases isDone
  · cases isDone
  · cases isDone
  · cases isDone
  · cases isDone
  · cases isDone
  · exact ⟨time + 6, Nat.le_add_left 6 time, rfl, rfl,
      (soundAt (time + 6)).succeeded 5 rfl⟩

end HappyEyeballs

end Hyperdriver
