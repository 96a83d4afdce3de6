import Hyperdriver.HappyEyeballs.Outcome

/-!
# How many attempts run at once

Without a delay an attempt is started only in the first batch, in place of one
that has failed, or when none runs.  The number of attempts that run, together
with those that are about to replace the errors at hand, therefore grows with
the first batch only.

The first batch is the whole queue when no initial concurrency is given.
-/

namespace Hyperdriver

open Foundation

universe u v w

namespace HappyEyeballs

variable {F : Type u} {T : Type v} {E : Type w}

/-! ## The first batch and the errors at hand -/

namespace EyeballSet

/-- The documented limit on the attempts that run at once without a delay. -/
def limit (set : EyeballSet F T E) : Nat :=
  max 1 (set.initialConcurrency.getD 1)

def firstBatch (set : EyeballSet F T E) : Nat :=
  min (set.initialConcurrency.getD set.queue.length) set.queue.length

end EyeballSet

/-- The number of errors that will be yielded before any success. -/
def leadingErrors : List (F × Except E T) → Nat
  | (_, .error _) :: rest => leadingErrors rest + 1
  | (_, .ok _) :: _ => 0
  | [] => 0

private theorem leadingErrors_concat_le (completions : List (F × Except E T))
    (last : F × Except E T) :
    leadingErrors (completions ++ [last]) ≤ leadingErrors completions + 1 := by
  induction completions with
  | nil =>
      rcases last with ⟨attempt, outcome | e⟩
      · exact Nat.le_refl _
      · exact Nat.zero_le _
  | cons first rest inductionHypothesis =>
      rcases first with ⟨attempt, e | outcome⟩
      · exact Nat.succ_le_succ inductionHypothesis
      · exact Nat.zero_le _

/-- The number of attempts that run once those that replace the errors at hand
have been started. -/
def Finishing.peak : Finishing F T E → Nat
  | ⟨set, .unstarted⟩ =>
      set.tasks.running.length + set.firstBatch +
        min (leadingErrors set.tasks.completed)
          (set.queue.length - set.firstBatch)
  | ⟨set, .suspended (.launching _)⟩ =>
      set.tasks.running.length +
        min (leadingErrors set.tasks.completed) (set.queue.length + 1)
  | ⟨set, .suspended .draining⟩ => set.tasks.running.length
  | ⟨set, .done _⟩ => set.tasks.running.length

theorem running_le_peak (state : Finishing F T E) :
    state.set.tasks.running.length ≤ state.peak := by
  rcases state with ⟨set, _ | (future | _) | result⟩
  · simp only [Finishing.peak]
    omega
  · exact Nat.le_add_right _ _
  · exact Nat.le_refl _
  · exact Nat.le_refl _

theorem peak_awaitNext (set : EyeballSet F T E) (now : Instant) :
    (set.awaitNext now).peak =
      set.tasks.running.length +
        min (leadingErrors set.tasks.completed) set.queue.length := by
  unfold EyeballSet.awaitNext
  split
  · rename_i future queue hasQueue
    rw [hasQueue]
    rfl
  · rename_i noQueue
    rw [noQueue, List.length_nil, Nat.min_zero]
    rfl

/-- The first batch is the only one that is started for nothing in return. -/
theorem peak_processAll (set : EyeballSet F T E) (now : Instant) :
    (set.processAll now).peak = Finishing.peak ⟨set, .unstarted⟩ := by
  rw [EyeballSet.processAll, peak_awaitNext, set.startBatch_eq]
  simp only [Finishing.peak, EyeballSet.firstBatch,
    FuturesUnordered.running_pushAll, FuturesUnordered.completed_pushAll,
    List.length_append, List.length_take, List.length_drop]
  omega

/-- An attempt that replaces an error at hand leaves the peak as it is. -/
theorem peak_fails {set : EyeballSet F T E} {attempt : F} {e : E}
    {rest : List (F × Except E T)}
    (found : set.tasks.completed = (attempt, .error e) :: rest)
    (error : Option (HappyEyeballsError E)) (future : F) (now : Instant) :
    (({ set with tasks := set.tasks.yieldFirst found, error }.start
        future).awaitNext now).peak =
      Finishing.peak ⟨set, .suspended (.launching future)⟩ := by
  have oneMore :
      leadingErrors set.tasks.completed = leadingErrors rest + 1 := by
    rw [found]
    rfl
  rw [peak_awaitNext]
  simp only [Finishing.peak, oneMore, EyeballSet.start, FuturesUnordered.push,
    FuturesUnordered.yieldFirst, List.length_append, List.length_singleton]
  omega

/-! ## The bound on a run -/

/-- Nothing that can still be started without a delay exceeds the limit. -/
structure Within (limit : Nat) (state : Finishing F T E) : Prop where
  noDelay : state.set.delay = none
  bounded : state.peak ≤ limit

section Runs

variable {limit : Nat} {before after : Finishing F T E}

private theorem Within.completes {attempt : F} (within : Within limit before)
    (completes : Completes attempt before after) : Within limit after := by
  cases completes with
  | @intro set future front back outcome isRunning =>
      have noDelay := within.noDelay
      have bounded := within.bounded
      have oneLess :
          set.tasks.running.length = (front ++ back).length + 1 := by
        rw [isRunning, List.length_append, List.length_append,
          List.length_cons]
        omega
      have oneMore :=
        leadingErrors_concat_le set.tasks.completed (attempt, outcome)
      refine ⟨noDelay, ?_⟩
      rcases future with _ | (held | _) | result
      all_goals
        simp only [Finishing.peak, EyeballSet.firstBatch,
          FuturesUnordered.complete, oneLess] at bounded ⊢
        omega

private theorem Within.advances (positive : 1 ≤ limit)
    (within : Within limit before) (advances : Advances before after) :
    Within limit after := by
  have noDelay := within.noDelay
  have bounded := within.bounded
  rcases before with ⟨set, _ | (future | _) | result⟩
  · cases advances with
    | begins _ now =>
        have sameDelay : (set.processAll now).set.delay = set.delay := by
          rw [EyeballSet.processAll, EyeballSet.delay_awaitNext,
            set.startBatch_eq]
        rw [← peak_processAll set now] at bounded
        exact ⟨sameDelay.trans noDelay, bounded⟩
  · obtain ⟨now, spec⟩ := advances.launching
    have running_le := running_le_peak ⟨set, .suspended (.launching future)⟩
    cases spec with
    | waits _ _ =>
        exact within
    | succeeds found =>
        exact ⟨noDelay, Nat.le_trans running_le bounded⟩
    | @fails attempt e rest found =>
        have samePeak :=
          peak_fails found (set.error.or (some (.error e))) future now
        rw [← samePeak] at bounded
        refine ⟨?_, bounded⟩
        rw [EyeballSet.delay_awaitNext]
        exact noDelay
    | continues none idle =>
        have nothingRuns : set.tasks.running = [] :=
          idle.resolve_right (not_not.mpr noDelay)
        refine ⟨?_, ?_⟩
        · rw [EyeballSet.delay_awaitNext]
          exact noDelay
        · rw [peak_awaitNext]
          simp only [EyeballSet.start, FuturesUnordered.push, nothingRuns,
            none, leadingErrors, List.nil_append, List.length_singleton]
          omega
  · obtain ⟨now, spec⟩ := advances.draining
    cases spec with
    | waits _ _ =>
        exact within
    | succeeds found =>
        exact ⟨noDelay, bounded⟩
    | fails found =>
        exact ⟨noDelay, bounded⟩
    | exhausted _ _ =>
        exact ⟨noDelay, bounded⟩
  · cases advances

private theorem Within.timesOut (within : Within limit before)
    (timesOut : TimesOut before after) : Within limit after := by
  cases timesOut with
  | @intro set point _ _ _ _ _ =>
      have running_le := running_le_peak ⟨set, .suspended point⟩
      exact ⟨within.noDelay, Nat.le_trans running_le within.bounded⟩

private theorem Within.step (positive : 1 ≤ limit)
    (within : Within limit before)
    (step : Step before after) : Within limit after := by
  cases step with
  | completes completes =>
      exact within.completes completes
  | advances advances =>
      exact within.advances positive advances
  | timesOut timesOut =>
      exact within.timesOut timesOut

private theorem Within.run (positive : 1 ≤ limit) (within : Within limit before)
    (run : Run before after) : Within limit after := by
  have preserves :
      Preserves Step (Within limit : Finishing F T E → Prop) :=
    fun _ _ within step => within.step positive step
  exact preserves.run within run

end Runs

/-! ## The peak is reached -/

private theorem advances_fails {set : EyeballSet F T E} {attempt : F} {e : E}
    {rest : List (F × Except E T)}
    (found : set.tasks.completed = (attempt, .error e) :: rest) (future : F) :
    Advances ⟨set, .suspended (.launching future)⟩
      (({ set with
          tasks := set.tasks.yieldFirst found
          error := set.error.or (some (.error e)) }.start future).awaitNext
        0) := by
  obtain ⟨next, resumed, spec⟩ := set.resume_launching future false 0
  have some : set.tasks.completed ≠ [] := by
    rw [found]
    exact List.cons_ne_nil _ _
  cases spec with
  | waits none _ =>
      exact (some none).elim
  | continues none _ =>
      exact (some none).elim
  | succeeds isSuccess =>
      cases found.symm.trans isSuccess
  | fails isError =>
      cases found.symm.trans isError
      exact .resumes false 0 resumed

/-- Polled again and again, a suspended future replaces all errors at hand. -/
theorem exists_run_peak (state : Finishing F T E)
    (suspended : ∃ point, state.future = .suspended point) :
    ∃ final, Run state final ∧
      final.set.tasks.running.length = state.peak := by
  generalize hasCompleted : state.set.tasks.completed = completed
  induction completed generalizing state with
  | nil =>
      rcases state with ⟨set, future⟩
      obtain ⟨future | _, rfl⟩ := suspended
      · refine ⟨_, Relation.ReflTransGen.refl, ?_⟩
        simp only at hasCompleted
        simp only [Finishing.peak, hasCompleted, leadingErrors]
        omega
      · exact ⟨_, Relation.ReflTransGen.refl, rfl⟩
  | cons first rest inductionHypothesis =>
      rcases state with ⟨set, future⟩
      obtain ⟨future | _, rfl⟩ := suspended
      · rcases first with ⟨attempt, e | outcome⟩
        · have advances := advances_fails hasCompleted future
          have samePeak :=
            peak_fails hasCompleted (set.error.or (some (.error e))) future 0
          obtain ⟨final, run, reached⟩ :=
            inductionHypothesis
              (({ set with
                  tasks := set.tasks.yieldFirst hasCompleted
                  error := set.error.or (some (.error e)) }.start
                future).awaitNext 0)
              (EyeballSet.future_awaitNext _ 0)
              (by
                rw [EyeballSet.tasks_awaitNext]
                rfl)
          exact ⟨final, run.head (.advances advances),
            reached.trans samePeak⟩
        · refine ⟨_, Relation.ReflTransGen.refl, ?_⟩
          simp only at hasCompleted
          simp only [Finishing.peak, hasCompleted, leadingErrors]
          omega
      · exact ⟨_, Relation.ReflTransGen.refl, rfl⟩

private theorem running_le_limit_iff_peak {set : EyeballSet F T E}
    (noDelay : set.delay = none) :
    (∀ state, Run ⟨set, .unstarted⟩ state →
        state.set.tasks.running.length ≤ set.limit) ↔
      Finishing.peak ⟨set, .unstarted⟩ ≤ set.limit := by
  constructor
  · intro bounded
    have begins : Run ⟨set, .unstarted⟩ (set.processAll 0) :=
      Relation.ReflTransGen.single (.advances (.begins set 0))
    have suspended :
        ∃ point, (set.processAll 0).future = .suspended point :=
      EyeballSet.future_awaitNext _ 0
    obtain ⟨final, run, reached⟩ :=
      exists_run_peak (set.processAll 0) suspended
    rw [← peak_processAll set 0, ← reached]
    exact bounded final (begins.trans run)
  · intro small state run
    have positive : 1 ≤ set.limit := Nat.le_max_left _ _
    have start : Within set.limit ⟨set, .unstarted⟩ := ⟨noDelay, small⟩
    have within := start.run positive run
    exact Nat.le_trans (running_le_peak state) within.bounded

/-! ## Main result -/

/-- Without a delay the documented limit is kept on every schedule exactly if
the attempts that run already, the first batch and the replacements of the
errors at hand are within it.  A fresh set keeps it exactly if it was given an
initial concurrency or has at most one attempt. -/
theorem running_le_limit_iff :
    (∀ set : EyeballSet F T E, set.delay = none →
      ((∀ state, Run ⟨set, .unstarted⟩ state →
          state.set.tasks.running.length ≤ set.limit) ↔
        set.tasks.running.length + set.firstBatch +
            min (leadingErrors set.tasks.completed)
              (set.queue.length - set.firstBatch) ≤
          set.limit)) ∧
    ∀ (timeout : Option Duration) (initialConcurrency : Option Nat)
      (attempts : List F),
      (∀ state : Finishing F T E,
        Run (fresh none timeout initialConcurrency attempts) state →
          state.set.tasks.running.length ≤
            max 1 (initialConcurrency.getD 1)) ↔
        initialConcurrency ≠ none ∨ attempts.length ≤ 1 := by
  refine ⟨fun _ noDelay => running_le_limit_iff_peak noDelay, ?_⟩
  intro timeout initialConcurrency attempts
  have ofFresh :=
    @running_le_limit_iff_peak F T E
      ((EyeballSet.new none timeout initialConcurrency).extend attempts)
      (by
        rw [extend_eq]
        rfl)
  rw [extend_eq] at ofFresh
  rw [fresh, extend_eq]
  refine ofFresh.trans ?_
  simp only [Finishing.peak, EyeballSet.limit, EyeballSet.firstBatch,
    EyeballSet.new, FuturesUnordered.new, leadingErrors, List.length_nil,
    List.nil_append]
  cases initialConcurrency with
  | none =>
      simp only [Option.getD_none, ne_eq, not_true_eq_false, false_or]
      omega
  | some concurrency =>
      simp only [Option.getD_some, ne_eq, reduceCtorEq, not_false_eq_true,
        true_or, iff_true]
      omega

/-- With an initial concurrency of two, at most two of three attempts run. -/
theorem running_le_limit_two :
    ∀ state : Finishing Nat Nat String,
      Run ⟨(EyeballSet.new none none (some 2)).extend [0, 1, 2], .unstarted⟩
          state →
        state.set.tasks.running.length ≤ 2 :=
  (running_le_limit_iff.1
    ((EyeballSet.new none none (some 2)).extend [0, 1, 2]) rfl).mpr
    (by decide)

/-- Two attempts of a fresh set start together, although no initial concurrency
was given. -/
theorem running_exceeds_limit :
    ∃ state : Finishing Nat Nat String,
      Run (fresh none none none [0, 1]) state ∧
        ¬ state.set.tasks.running.length ≤
          ((EyeballSet.new none none none).extend [0, 1] :
            EyeballSet Nat Nat String).limit :=
  ⟨EyeballSet.processAll ((EyeballSet.new none none none).extend [0, 1]) 0,
    Relation.ReflTransGen.single (.advances (.begins _ 0)), by decide⟩

end HappyEyeballs

end Hyperdriver
