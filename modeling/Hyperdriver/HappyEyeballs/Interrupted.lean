import Hyperdriver.HappyEyeballs.Finish
import Mathlib.Algebra.Order.Group.Multiset
import Mathlib.Tactic.Abel

/-!
# Happy eyeballs interrupted

The overall timeout may drop the processing of all attempts wherever it is
suspended, and a success ends it even while an attempt is held.  An error that
was recorded before is not reported then, and an attempt that is held is lost
with the future that holds it.

Each of the two happens in one kind of step.  A run without such steps reports
the first error and keeps the attempts; a run that takes one does not.
-/

namespace Hyperdriver

open Foundation

universe u v w

namespace HappyEyeballs

variable {F : Type u} {T : Type v} {E : Type w}

/-- `RunAvoiding bad start state`: some schedule without `bad` steps leads from
`start` to `state`. -/
def RunAvoiding (bad : Finishing F T E → Finishing F T E → Prop) :
    Finishing F T E → Finishing F T E → Prop :=
  Relation.ReflTransGen fun before after =>
    Step before after ∧ ¬ bad before after

/-! ## The first error -/

/-- `Error` is the result exactly for the first error that was observed. -/
def ReportsFirstError (state : Finishing F T E) : Prop :=
  ∀ error, state.future = .done (.error error) →
    ∀ e, firstError state.set.tasks.yielded = some e ↔ error = .error e

/-- The overall timeout elapses although an error was observed. -/
inductive MasksError : Finishing F T E → Finishing F T E → Prop
  | intro {before after : Finishing F T E} {e : E}
      (observed : firstError before.set.tasks.yielded = some e)
      (timesOut : TimesOut before after) : MasksError before after

section FirstError

variable {limit : Option Duration} {attempts : List F}
  {before after : Finishing F T E}

private theorem reportsFirstError_awaitNext (set : EyeballSet F T E)
    (now : Instant) : ReportsFirstError (set.awaitNext now) := by
  intro error isDone
  cases set.awaitNext_ne_done now _ isDone

private theorem ReportsFirstError.advances
    (invariant : Invariant limit attempts before)
    (reports : ReportsFirstError before) (advances : Advances before after) :
    ReportsFirstError after := by
  rcases before with ⟨set, _ | (future | _) | result⟩
  · cases advances with
    | begins _ now =>
        exact reportsFirstError_awaitNext _ now
  · obtain ⟨now, spec⟩ := advances.launching
    cases spec with
    | waits _ _ =>
        exact reports
    | succeeds _ =>
        intro error isDone
        cases isDone
    | fails _ =>
        exact reportsFirstError_awaitNext _ now
    | continues _ _ =>
        exact reportsFirstError_awaitNext _ now
  · obtain ⟨now, spec⟩ := advances.draining
    obtain ⟨live, _⟩ := invariant
    cases spec with
    | waits _ _ =>
        exact reports
    | succeeds _ =>
        intro error isDone
        cases isDone
    | fails _ =>
        intro error isDone
        cases isDone
    | exhausted _ _ =>
        intro error isDone e
        cases isDone
        change firstError set.tasks.yielded = some e ↔ _
        rw [live.recorded]
        cases firstError set.tasks.yielded with
        | none => simp
        | some first => simp
  · cases advances

private theorem ReportsFirstError.timesOut (timesOut : TimesOut before after)
    (unmasked : ¬ MasksError before after) : ReportsFirstError after := by
  have noError : firstError before.set.tasks.yielded = none := by
    apply Option.eq_none_iff_forall_ne_some.mpr
    intro e observed
    exact unmasked (.intro observed timesOut)
  cases timesOut with
  | @intro set _ _ now later _ _ =>
      intro error isDone e
      cases isDone
      change firstError set.tasks.yielded = none at noError
      change firstError set.tasks.yielded = some e ↔ _
      rw [noError]
      simp

private theorem ReportsFirstError.step
    (invariant : Invariant limit attempts before)
    (reports : ReportsFirstError before) (step : Step before after)
    (unmasked : ¬ MasksError before after) : ReportsFirstError after := by
  cases step with
  | completes completes =>
      cases completes with
      | intro _ _ =>
          exact reports
  | advances advances =>
      exact reports.advances invariant advances
  | timesOut timesOut =>
      exact .timesOut timesOut unmasked

private theorem ReportsFirstError.run
    (invariant : Invariant limit attempts before)
    (reports : ReportsFirstError before)
    (run : RunAvoiding MasksError before after) :
    ReportsFirstError after := by
  have preserves :
      Preserves
        (fun before after : Finishing F T E =>
          Step before after ∧ ¬ MasksError before after)
        fun state =>
          Invariant limit attempts state ∧ ReportsFirstError state :=
    fun _ _ holds step =>
      ⟨holds.1.step step.1, holds.2.step holds.1 step.1 step.2⟩
  exact (preserves.run ⟨invariant, reports⟩ run).2

private theorem MasksError.not_reportsFirstError
    (masks : MasksError before after) : ¬ ReportsFirstError after := by
  cases masks with
  | @intro e observed timesOut =>
      cases timesOut with
      | intro now later _ _ =>
          intro reports
          cases (reports _ rfl e).mp observed

/-- When `finish` ends with an error, every attempt that has completed was
observed. -/
theorem completed_eq_nil_of_error {error : HappyEyeballsError E}
    (step : Step before after) (changed : after.future ≠ before.future)
    (isDone : after.future = .done (.error error)) :
    after.set.tasks.completed = [] := by
  cases step with
  | completes completes =>
      cases completes with
      | intro _ _ =>
          exact (changed rfl).elim
  | advances advances =>
      rcases before with ⟨set, _ | (future | _) | result⟩
      · cases advances with
        | begins _ now =>
            cases EyeballSet.awaitNext_ne_done _ now _ isDone
      · obtain ⟨now, spec⟩ := advances.launching
        cases spec with
        | waits none _ =>
            exact none
        | succeeds _ =>
            cases isDone
        | fails _ =>
            cases EyeballSet.awaitNext_ne_done _ now _ isDone
        | continues _ _ =>
            cases EyeballSet.awaitNext_ne_done _ now _ isDone
      · obtain ⟨now, spec⟩ := advances.draining
        cases spec with
        | waits none _ =>
            exact none
        | succeeds _ =>
            cases isDone
        | fails _ =>
            cases isDone
        | exhausted none _ =>
            exact none
      · cases advances
  | timesOut timesOut =>
      cases timesOut with
      | @intro set _ _ _ _ _ waiting =>
          exact (set.tasks.pollNext_pending_iff.mp waiting).1

/-- A run on a fresh set reports the first error if the overall timeout never
elapses after one was observed, and does not report it otherwise.  No error is
left unobserved when `finish` ends with one. -/
theorem reportsFirstError_of_unmasked :
    (∀ (delay timeout : Option Duration) (initialConcurrency : Option Nat)
        (attempts : List F) (state : Finishing F T E),
      RunAvoiding MasksError
          (fresh delay timeout initialConcurrency attempts) state →
        ReportsFirstError state) ∧
    (∀ before after : Finishing F T E,
      MasksError before after → ¬ ReportsFirstError after) ∧
    ∀ (before after : Finishing F T E) (error : HappyEyeballsError E),
      Step before after → after.future ≠ before.future →
        after.future = .done (.error error) →
          after.set.tasks.completed = [] := by
  refine ⟨?_, ?_, ?_⟩
  · intro delay timeout initialConcurrency attempts state run
    have invariant :=
      invariant_fresh (T := T) (E := E) delay timeout initialConcurrency
        attempts
    have unstarted :
        ReportsFirstError
          (fresh delay timeout initialConcurrency attempts :
            Finishing F T E) := by
      intro error isDone
      cases isDone
    exact unstarted.run invariant run
  · intro before after masks
    exact masks.not_reportsFirstError
  · intro before after error step changed isDone
    exact completed_eq_nil_of_error step changed isDone

end FirstError

private theorem not_masksError_of_not_timeout {before after : Finishing F T E}
    (inTime :
      ∀ elapsed, after.future ≠ .done (.error (.timeout elapsed))) :
    ¬ MasksError before after := by
  intro masks
  cases masks with
  | intro _ timesOut =>
      cases timesOut with
      | intro now later _ _ =>
          exact inTime _ rfl

def secondFailed : Finishing Nat Nat String :=
  ⟨{ (failureRecorded (some 1000)).set with
      tasks :=
        (failureRecorded (some 1000)).set.tasks.complete
          (.error "unreachable") (failureRecorded_running (some 1000)) },
    .suspended .draining⟩

def bothFailed : Finishing Nat Nat String :=
  ⟨{ secondFailed.set with
      tasks :=
        secondFailed.set.tasks.yieldFirst
          (show secondFailed.set.tasks.completed =
              (8, .error "unreachable") :: []
            from rfl) },
    .suspended .draining⟩

def failureReported : Finishing Nat Nat String :=
  ⟨{ bothFailed.set with error := none },
    .done (.error (.error "refused"))⟩

/-- Both attempts fail before the timeout. -/
theorem failureReported_run :
    RunAvoiding MasksError (fresh (some 100) (some 1000) (some 1) [7, 8])
      failureReported := by
  let start : Finishing Nat Nat String :=
    fresh (some 100) (some 1000) (some 1) [7, 8]
  have unmasked :
      ∀ {before after : Finishing Nat Nat String},
        (∀ elapsed, after.future ≠ .done (.error (.timeout elapsed))) →
          Step before after →
            Step before after ∧ ¬ MasksError before after :=
    fun inTime step => ⟨step, not_masksError_of_not_timeout inTime⟩
  have first :
      RunAvoiding MasksError start (firstLaunched (some 1000)) :=
    .single (unmasked (fun _ => nofun) (.advances (.begins _ 0)))
  have both : RunAvoiding MasksError start (bothLaunched (some 1000)) :=
    first.tail
      (unmasked (fun _ => nofun)
        (.advances (.resumes true 100 (firstLaunched_resume (some 1000)))))
  have failed : RunAvoiding MasksError start (firstFailed (some 1000)) :=
    both.tail
      (unmasked (fun _ => nofun)
        (.completes
          (.intro (.error "refused") (bothLaunched_running (some 1000)))))
  have recorded :
      RunAvoiding MasksError start (failureRecorded (some 1000)) :=
    failed.tail
      (unmasked (fun _ => nofun)
        (.advances (.resumes false 0 (firstFailed_resume (some 1000)))))
  have second : RunAvoiding MasksError start secondFailed :=
    recorded.tail
      (unmasked (fun _ => nofun)
        (.completes
          (.intro (.error "unreachable")
            (failureRecorded_running (some 1000)))))
  have drained : RunAvoiding MasksError start bothFailed :=
    second.tail
      (unmasked (fun _ => nofun)
        (.advances
          (.resumes false 0
            (show secondFailed.set.resume false 0 .draining =
              .ok bothFailed from rfl))))
  exact drained.tail
    (unmasked (fun _ => nofun)
      (.advances
        (.resumes false 0
          (show bothFailed.set.resume false 0 .draining =
            .ok failureReported from rfl))))

def bothRunning : Finishing Nat Nat String :=
  EyeballSet.processAll
    ((EyeballSet.new (some 10) (some 20) none).extend [0, 1]) 0

def oneRefused : Finishing Nat Nat String :=
  ⟨{ bothRunning.set with
      tasks :=
        bothRunning.set.tasks.complete (.error "refused")
          (show bothRunning.set.tasks.running = [] ++ 0 :: [1] from rfl) },
    bothRunning.future⟩

def secondRunning : Finishing Nat Nat String :=
  ⟨{ oneRefused.set with
      tasks :=
        oneRefused.set.tasks.yieldFirst
          (show oneRefused.set.tasks.completed = (0, .error "refused") :: []
            from rfl)
      error := some (.error "refused") },
    .suspended .draining⟩

private theorem secondRunning_run :
    Run (fresh (some 10) (some 20) none [0, 1]) secondRunning := by
  have start : Run (fresh (some 10) (some 20) none [0, 1]) bothRunning :=
    .single (.advances (.begins _ 0))
  have refused := start.tail
    (.completes
      (.intro (.error "refused")
        (show bothRunning.set.tasks.running = [] ++ 0 :: [1] from rfl)))
  exact refused.tail
    (.advances
      (.resumes false 0
        (show oneRefused.set.resume false 0 .draining = .ok secondRunning
          from rfl)))

private theorem secondRunning_timesOut :
    TimesOut secondRunning (secondRunning.set.timeOut 20 20) :=
  .intro 20 20 rfl rfl

/-- Of two attempts that fail the first error is reported, but not when the
second one is still running at the timeout. -/
theorem reportsFirstError_refused :
    ReportsFirstError failureReported ∧
      ¬ ReportsFirstError (secondRunning.set.timeOut 20 20) :=
  ⟨reportsFirstError_of_unmasked.1 (some 100) (some 1000) (some 1) [7, 8]
      failureReported failureReported_run,
    reportsFirstError_of_unmasked.2.1 secondRunning _
      (.intro (rfl : _ = some "refused") secondRunning_timesOut)⟩

/-- The first attempt was refused, and yet the timeout is returned. -/
theorem timeout_masks_error :
    ∃ state : Finishing Nat Nat String,
      Run (fresh (some 10) (some 20) none [0, 1]) state ∧
        ¬ ReportsFirstError state := by
  refine ⟨secondRunning.set.timeOut 20 20, ?_, ?_⟩
  · exact secondRunning_run.tail (.timesOut secondRunning_timesOut)
  · intro reports
    cases (reports _ rfl "refused").mp rfl

/-! ## The attempts -/

namespace EyeballSet

/-- The attempts in a set, in whichever state they are. -/
def attempts (set : EyeballSet F T E) : Multiset F :=
  set.queue + set.tasks.running + set.tasks.completed.map Prod.fst

private theorem card_attempts (set : EyeballSet F T E) :
    set.attempts.card = set.len := by
  simp only [attempts, len, FuturesUnordered.len, Multiset.card_add,
    Multiset.coe_card, List.length_map]
  omega

end EyeballSet

/-- The attempt that is in a local variable of the suspended future. -/
def FinishFuture.held : FinishFuture F T E → Multiset F
  | .suspended (.launching future) => {future}
  | _ => 0

/-- The attempts in the set, the one that is held, and those whose result was
taken. -/
def Finishing.owned (state : Finishing F T E) : Multiset F :=
  state.set.attempts + state.future.held +
    state.set.tasks.yielded.map Prod.fst

theorem owned_eq (state : Finishing F T E) :
    state.owned =
      state.set.queue + state.future.held + state.set.tasks.pushed := by
  have conserved := Multiset.coe_eq_coe.mpr state.set.tasks.conserved
  rw [conserved, Finishing.owned, EyeballSet.attempts, List.map_append,
    ← Multiset.coe_add, ← Multiset.coe_add]
  abel

/-- When `finish` has ended, all attempts of `start` are in the set but those
whose result was taken. -/
def KeepsAttempts (start : EyeballSet F T E) (state : Finishing F T E) :
    Prop :=
  ∀ result, state.future = .done result →
    ∃ taken,
      state.set.tasks.yielded = start.tasks.yielded ++ taken ∧
        state.set.attempts + taken.map Prod.fst = start.attempts ∧
          state.set.len + taken.length = start.len

/-- `finish` ends while it holds an attempt: on a success that is at hand, or
because the overall timeout elapses. -/
inductive DropsHeld : Finishing F T E → Finishing F T E → Prop
  | succeeds {set : EyeballSet F T E} {future attempt : F} {outcome : T}
      {rest : List (F × Except E T)} {after : Finishing F T E}
      (found : set.tasks.completed = (attempt, .ok outcome) :: rest)
      (advances : Advances ⟨set, .suspended (.launching future)⟩ after) :
      DropsHeld ⟨set, .suspended (.launching future)⟩ after
  | timesOut {set : EyeballSet F T E} {future : F} {after : Finishing F T E}
      (timesOut : TimesOut ⟨set, .suspended (.launching future)⟩ after) :
      DropsHeld ⟨set, .suspended (.launching future)⟩ after

section Attempts

variable {start : EyeballSet F T E} {before after : Finishing F T E}

private theorem owned_awaitNext (set : EyeballSet F T E) (now : Instant) :
    (set.awaitNext now).owned =
      set.queue + (set.tasks.pushed : Multiset F) := by
  rw [owned_eq]
  unfold EyeballSet.awaitNext
  split
  · rename_i future queue hasQueue
    rw [hasQueue, ← Multiset.cons_coe, ← Multiset.singleton_add]
    simp only [FinishFuture.held, EyeballSet.markStarted]
    abel
  · rename_i noQueue
    simp only [FinishFuture.held, EyeballSet.markStarted, add_zero]

private theorem owned_start (set : EyeballSet F T E) (future : F)
    (now : Instant) :
    ((set.start future).awaitNext now).owned =
      set.queue + {future} + (set.tasks.pushed : Multiset F) := by
  rw [owned_awaitNext]
  simp only [EyeballSet.start, FuturesUnordered.push, ← Multiset.coe_add,
    Multiset.coe_singleton]
  abel

private theorem owned_processAll (set : EyeballSet F T E) (now : Instant) :
    (set.processAll now).owned = Finishing.owned ⟨set, .unstarted⟩ := by
  have split :
      (set.queue : Multiset F) =
        set.queue.take (set.initialConcurrency.getD set.queue.length) +
          set.queue.drop (set.initialConcurrency.getD set.queue.length) := by
    rw [Multiset.coe_add, List.take_append_drop]
  rw [EyeballSet.processAll, owned_awaitNext, set.startBatch_eq, owned_eq,
    FuturesUnordered.pushed_pushAll, ← Multiset.coe_add]
  simp only [FinishFuture.held]
  rw [split]
  abel

private theorem yielded_processAll (set : EyeballSet F T E) (now : Instant) :
    (set.processAll now).set.tasks.yielded = set.tasks.yielded := by
  rw [EyeballSet.processAll, EyeballSet.tasks_awaitNext, set.startBatch_eq,
    FuturesUnordered.yielded_pushAll]

/-- Only a step that drops the attempt that is held changes what is owned. -/
theorem owned_step (step : Step before after)
    (kept : ¬ DropsHeld before after) : after.owned = before.owned := by
  cases step with
  | completes completes =>
      cases completes with
      | intro _ _ =>
          rw [owned_eq, owned_eq]
          rfl
  | advances advances =>
      rcases before with ⟨set, _ | (future | _) | result⟩
      · cases advances with
        | begins _ now =>
            exact owned_processAll set now
      · obtain ⟨now, spec⟩ := advances.launching
        cases spec with
        | waits _ _ =>
            rfl
        | succeeds found =>
            exact (kept (.succeeds found advances)).elim
        | fails found =>
            rw [owned_start, owned_eq]
            rfl
        | continues _ _ =>
            rw [owned_start, owned_eq]
            rfl
      · obtain ⟨now, spec⟩ := advances.draining
        rw [owned_eq, owned_eq]
        cases spec with
        | waits _ _ => rfl
        | succeeds _ => rfl
        | fails _ => rfl
        | exhausted _ _ => rfl
      · cases advances
  | timesOut timesOut =>
      cases timesOut with
      | @intro set point _ now later limited waiting =>
          cases point with
          | launching future =>
              exact
                (kept (.timesOut (.intro now later limited waiting))).elim
          | draining =>
              rfl

private theorem yielded_step (step : Step before after) :
    before.set.tasks.yielded <+: after.set.tasks.yielded := by
  cases step with
  | completes completes =>
      cases completes with
      | intro _ _ =>
          exact List.prefix_refl _
  | advances advances =>
      rcases before with ⟨set, _ | (future | _) | result⟩
      · cases advances with
        | begins _ now =>
            have unchanged := yielded_processAll set now
            exact unchanged.symm ▸ List.prefix_refl _
      · obtain ⟨now, spec⟩ := advances.launching
        cases spec with
        | waits _ _ =>
            exact List.prefix_refl _
        | succeeds _ =>
            exact List.prefix_append _ _
        | fails _ =>
            rw [EyeballSet.tasks_awaitNext]
            exact List.prefix_append _ _
        | continues _ _ =>
            rw [EyeballSet.tasks_awaitNext]
            exact List.prefix_refl _
      · obtain ⟨now, spec⟩ := advances.draining
        cases spec with
        | waits _ _ =>
            exact List.prefix_refl _
        | succeeds _ =>
            exact List.prefix_append _ _
        | fails _ =>
            exact List.prefix_append _ _
        | exhausted _ _ =>
            exact List.prefix_refl _
      · cases advances
  | timesOut timesOut =>
      cases timesOut with
      | intro _ _ _ _ =>
          exact List.prefix_refl _

/-- What is owned has stayed the same, and what was taken is not given back. -/
structure Accounts (start : EyeballSet F T E) (state : Finishing F T E) :
    Prop where
  owned : state.owned = Finishing.owned ⟨start, .unstarted⟩
  taken : start.tasks.yielded <+: state.set.tasks.yielded

private theorem Accounts.step (accounts : Accounts start before)
    (step : Step before after) (kept : ¬ DropsHeld before after) :
    Accounts start after :=
  ⟨(owned_step step kept).trans accounts.owned,
    accounts.taken.trans (yielded_step step)⟩

private theorem Accounts.exists_taken {state : Finishing F T E}
    (accounts : Accounts start state) :
    ∃ taken,
      state.set.tasks.yielded = start.tasks.yielded ++ taken ∧
        state.set.attempts + state.future.held + taken.map Prod.fst =
          start.attempts := by
  obtain ⟨taken, isTaken⟩ := accounts.taken
  refine ⟨taken, isTaken.symm, ?_⟩
  have owned :
      state.set.attempts + state.future.held +
          state.set.tasks.yielded.map Prod.fst =
        start.attempts + 0 + start.tasks.yielded.map Prod.fst :=
    accounts.owned
  rw [← isTaken, List.map_append, ← Multiset.coe_add, add_zero] at owned
  have rearranged :
      state.set.attempts + state.future.held + taken.map Prod.fst +
          start.tasks.yielded.map Prod.fst =
        start.attempts + start.tasks.yielded.map Prod.fst := by
    rw [← owned]
    abel
  exact add_right_cancel rearranged

private theorem Accounts.keepsAttempts {state : Finishing F T E}
    (accounts : Accounts start state) : KeepsAttempts start state := by
  intro result isDone
  obtain ⟨taken, isTaken, conserved⟩ := accounts.exists_taken
  rw [isDone] at conserved
  simp only [FinishFuture.held, add_zero] at conserved
  refine ⟨taken, isTaken, conserved, ?_⟩
  have cards := congrArg Multiset.card conserved
  simpa [EyeballSet.card_attempts] using cards

/-- A step that drops the attempt that is held ends `finish` without it. -/
theorem DropsHeld.spec (drops : DropsHeld before after) :
    (∃ result, after.future = .done result) ∧
      ∃ future, after.owned + {future} = before.owned := by
  have lost :
      ∀ (set : EyeballSet F T E) (future : F),
        (set.queue : Multiset F) + 0 + set.tasks.pushed + {future} =
          set.queue + {future} + set.tasks.pushed := by
    intro set future
    abel
  cases drops with
  | @succeeds set future _ _ _ _ found advances =>
      obtain ⟨now, spec⟩ := advances.launching
      cases spec with
      | waits none _ =>
          cases found.symm.trans none
      | succeeds _ =>
          refine ⟨⟨_, rfl⟩, future, ?_⟩
          rw [owned_eq, owned_eq]
          exact lost set future
      | fails isError =>
          cases found.symm.trans isError
      | continues none _ =>
          cases found.symm.trans none
  | @timesOut set future _ timesOut =>
      cases timesOut with
      | intro _ _ _ _ =>
          refine ⟨⟨_, rfl⟩, future, ?_⟩
          rw [owned_eq, owned_eq]
          exact lost set future

/-- Nothing is dropped before `finish` ends. -/
theorem accounts_of_run (run : Run ⟨start, .unstarted⟩ before)
    (suspended : ∀ result, before.future ≠ .done result) :
    Accounts start before := by
  induction run with
  | refl =>
      exact ⟨rfl, List.prefix_refl _⟩
  | @tail middle last _ step inductionHypothesis =>
      have unfinished : ∀ result, middle.future ≠ .done result := by
        intro result isDone
        cases step with
        | completes completes =>
            cases completes with
            | intro _ _ =>
                exact suspended result isDone
        | advances advances =>
            cases advances with
            | begins _ _ => cases isDone
            | resumes _ _ _ => cases isDone
        | timesOut timesOut =>
            cases timesOut with
            | intro _ _ _ _ => cases isDone
      have kept : ¬ DropsHeld middle last := by
        intro drops
        obtain ⟨⟨result, isDone⟩, _⟩ := drops.spec
        exact suspended result isDone
      exact (inductionHypothesis unfinished).step step kept

private theorem DropsHeld.not_keepsAttempts (accounts : Accounts start before)
    (drops : DropsHeld before after) : ¬ KeepsAttempts start after := by
  intro keeps
  obtain ⟨⟨result, isDone⟩, future, lost⟩ := drops.spec
  obtain ⟨taken, isTaken, conserved, _⟩ := keeps result isDone
  have owned :
      after.owned = start.attempts + start.tasks.yielded.map Prod.fst := by
    rw [← conserved, Finishing.owned, isDone, isTaken, List.map_append,
      ← Multiset.coe_add]
    simp only [FinishFuture.held]
    abel
  have before_owned :
      before.owned = start.attempts + start.tasks.yielded.map Prod.fst := by
    rw [accounts.owned, Finishing.owned]
    simp only [FinishFuture.held, add_zero]
  rw [owned, before_owned] at lost
  have cards := congrArg Multiset.card lost
  simp at cards

/-- `finish` keeps the attempts of any set, but those whose result was taken, if
it does not end while it holds one, and loses an attempt otherwise. -/
theorem keepsAttempts_of_not_dropped :
    (∀ (start : EyeballSet F T E) (state : Finishing F T E),
      RunAvoiding DropsHeld ⟨start, .unstarted⟩ state →
        KeepsAttempts start state) ∧
    ∀ (start : EyeballSet F T E) (before after : Finishing F T E),
      Run ⟨start, .unstarted⟩ before → DropsHeld before after →
        ¬ KeepsAttempts start after := by
  constructor
  · intro start state run
    have preserves :
        Preserves
          (fun before after : Finishing F T E =>
            Step before after ∧ ¬ DropsHeld before after)
          (Accounts start) :=
      fun _ _ accounts step => accounts.step step.1 step.2
    have unstarted : Accounts start ⟨start, .unstarted⟩ :=
      ⟨rfl, List.prefix_refl _⟩
    exact (preserves.run unstarted run).keepsAttempts
  · intro start before after run drops
    have suspended : ∀ result, before.future ≠ .done result := by
      intro result isDone
      cases drops with
      | succeeds _ _ => cases isDone
      | timesOut _ => cases isDone
    exact drops.not_keepsAttempts (accounts_of_run run suspended)

end Attempts

/-- Both attempts are started before the second one succeeds. -/
theorem connectionReported_run :
    RunAvoiding DropsHeld (fresh (some 100) none (some 1) [7, 8])
      (connectionReported none) := by
  let start : Finishing Nat Nat String :=
    fresh (some 100) none (some 1) [7, 8]
  have nothingHeld :
      ∀ {before after : Finishing Nat Nat String},
        (∀ future, before.future ≠ .suspended (.launching future)) →
          Step before after →
            Step before after ∧ ¬ DropsHeld before after := by
    intro before after notHeld step
    refine ⟨step, ?_⟩
    intro drops
    cases drops with
    | succeeds _ _ => exact notHeld _ rfl
    | timesOut _ => exact notHeld _ rfl
  have heldIsStarted :
      ¬ DropsHeld (firstLaunched none) (bothLaunched none) := by
    intro drops
    cases drops with
    | succeeds found _ => cases found
    | timesOut timesOut => cases timesOut
  have first : RunAvoiding DropsHeld start (firstLaunched none) :=
    .single (nothingHeld (fun _ => nofun) (.advances (.begins _ 0)))
  have both : RunAvoiding DropsHeld start (bothLaunched none) :=
    first.tail
      ⟨.advances (.resumes true 100 (firstLaunched_resume none)),
        heldIsStarted⟩
  have failed : RunAvoiding DropsHeld start (firstFailed none) :=
    both.tail
      (nothingHeld (fun _ => nofun)
        (.completes (.intro (.error "refused") (bothLaunched_running none))))
  have recorded : RunAvoiding DropsHeld start (failureRecorded none) :=
    failed.tail
      (nothingHeld (fun _ => nofun)
        (.advances (.resumes false 0 (firstFailed_resume none))))
  have second : RunAvoiding DropsHeld start (secondConnected none) :=
    recorded.tail
      (nothingHeld (fun _ => nofun)
        (.completes (.intro (.ok 5) (failureRecorded_running none))))
  exact second.tail
    (nothingHeld (fun _ => nofun)
      (.advances (.resumes false 0 (secondConnected_resume none))))

def firstRunning : Finishing Nat Nat String :=
  EyeballSet.processAll
    ((EyeballSet.new (some 10) none (some 1)).extend [0, 1]) 0

def firstConnected : Finishing Nat Nat String :=
  ⟨{ firstRunning.set with
      tasks :=
        firstRunning.set.tasks.complete (.ok 5)
          (show firstRunning.set.tasks.running = [] ++ 0 :: [] from rfl) },
    firstRunning.future⟩

def firstReported : Finishing Nat Nat String :=
  ⟨{ firstConnected.set with
      tasks :=
        firstConnected.set.tasks.yieldFirst
          (show firstConnected.set.tasks.completed = (0, .ok 5) :: []
            from rfl) },
    .done (.ok 5)⟩

private theorem firstConnected_run :
    Run (fresh (some 10) none (some 1) [0, 1]) firstConnected := by
  have running : Run (fresh (some 10) none (some 1) [0, 1]) firstRunning :=
    .single (.advances (.begins _ 0))
  exact running.tail
    (.completes
      (.intro (.ok 5)
        (show firstRunning.set.tasks.running = [] ++ 0 :: [] from rfl)))

private theorem firstConnected_advances :
    Advances firstConnected firstReported :=
  .resumes false 0
    (show firstConnected.set.resume false 0 (.launching 1) =
      .ok firstReported from rfl)

/-- The attempts are kept when both have been started before one succeeds, but
not when the first one succeeds while the second is held. -/
theorem keepsAttempts_twoAttempts :
    KeepsAttempts
        ((EyeballSet.new (some 100) none (some 1)).extend [7, 8])
        (connectionReported none) ∧
      ¬ KeepsAttempts ((EyeballSet.new (some 10) none (some 1)).extend [0, 1])
        firstReported :=
  ⟨keepsAttempts_of_not_dropped.1 _ (connectionReported none)
      connectionReported_run,
    keepsAttempts_of_not_dropped.2 _ firstConnected firstReported
      firstConnected_run
      (.succeeds
        (show firstConnected.set.tasks.completed = (0, .ok 5) :: [] from rfl)
        firstConnected_advances)⟩

/-- The first attempt succeeds while the second is held: it is neither in the
set nor was its result taken. -/
theorem finish_drops_attempt :
    ∃ (start : EyeballSet Nat Nat String) (state : Finishing Nat Nat String),
      Run ⟨start, .unstarted⟩ state ∧ ¬ KeepsAttempts start state := by
  refine
    ⟨(EyeballSet.new (some 10) none (some 1)).extend [0, 1], firstReported,
      firstConnected_run.tail (.advances firstConnected_advances), ?_⟩
  intro keeps
  obtain ⟨taken, isTaken, _, lengths⟩ := keeps _ rfl
  have one : [(0, .ok 5)] = [] ++ taken := isTaken
  have two : 0 + taken.length = 2 := lengths
  rw [List.nil_append] at one
  rw [← one] at two
  cases two

end HappyEyeballs

end Hyperdriver
