import Hyperdriver.HappyEyeballs.Finish
import Mathlib.Algebra.Order.Group.Multiset
import Mathlib.Tactic.Abel

/-!
# Sets of attempts that are finished more than once

`finish` borrows the set, so that attempts can be pushed after it has ended, and
the set can be finished again.  A future of `finish` may also be dropped where
it is suspended.

Over all of this, attempts are started in the order in which they were pushed
and none of them twice, every success that a set yields is the result of one
`finish`, and an error that is returned is the first one since the last `finish`
that reported its error.
-/

namespace Hyperdriver

open Foundation

universe u v w

namespace HappyEyeballs

variable {F : Type u} {T : Type v} {E : Type w}

/-! ## What a poll of the future does to the set -/

/-- The attempt that the future of `finish` holds. -/
def heldBy : FinishFuture F T E → List F
  | .suspended (.launching future) => [future]
  | .suspended .draining => []
  | .unstarted => []
  | .done _ => []

/-- The attempts that were started, the one that is held, and the queue. -/
def line (state : Finishing F T E) : List F :=
  state.set.tasks.pushed ++ heldBy state.future ++ state.set.queue

/-- What was yielded and what is recorded of it, after at most one error. -/
inductive YieldsError (before after : EyeballSet F T E) : Prop
  | nothing :
      after.tasks.yielded = before.tasks.yielded →
      after.error = before.error → YieldsError before after
  | error {attempt : F} {e : E} :
      after.tasks.yielded =
        before.tasks.yielded ++ [(attempt, .error e)] →
      after.error = before.error.or (some (.error e)) →
      YieldsError before after

/-- Everything a poll of the future can do to a set, on the way or at the
end. -/
inductive Effect (before after : Finishing F T E) : Prop
  | continues :
      line after = line before →
      YieldsError before.set after.set →
      (∀ result, after.future ≠ .done result) → Effect before after
  | succeeds {attempt : F} {outcome : T} :
      after.set.tasks.pushed = before.set.tasks.pushed →
      after.set.queue = before.set.queue →
      after.set.tasks.yielded =
        before.set.tasks.yielded ++ [(attempt, .ok outcome)] →
      after.set.error = before.set.error →
      after.future = .done (.ok outcome) → Effect before after
  | exhausts :
      line after = line before → heldBy before.future = [] →
      after.set.tasks.yielded = before.set.tasks.yielded →
      after.set.error = none →
      after.future = .done (.error (before.set.error.getD .noProgress)) →
      Effect before after

section AwaitNext

variable (set : EyeballSet F T E) (now : Instant)

private theorem line_awaitNext :
    line (set.awaitNext now) = set.tasks.pushed ++ set.queue := by
  unfold EyeballSet.awaitNext
  split
  · rename_i future queue hasQueue
    simp [line, heldBy, EyeballSet.markStarted, hasQueue]
  · rename_i noQueue
    simp [line, heldBy, EyeballSet.markStarted, noQueue]

private theorem error_awaitNext :
    (set.awaitNext now).set.error = set.error := by
  unfold EyeballSet.awaitNext
  split
  · rfl
  · rfl

private theorem line_processAll :
    line (set.processAll now) = set.tasks.pushed ++ set.queue := by
  rw [EyeballSet.processAll, line_awaitNext, set.startBatch_eq]
  simp

private theorem yieldsError_processAll :
    YieldsError set (set.processAll now).set := by
  refine .nothing ?_ ?_
  · rw [EyeballSet.processAll, EyeballSet.tasks_awaitNext, set.startBatch_eq]
    exact FuturesUnordered.yielded_pushAll _ _
  · rw [EyeballSet.processAll, error_awaitNext, set.startBatch_eq]

end AwaitNext

private theorem effect_of_launching {set : EyeballSet F T E} {future : F}
    {now : Instant} {next : Finishing F T E}
    (spec : set.Launching future now next) :
    Effect ⟨set, .suspended (.launching future)⟩ next := by
  cases spec with
  | waits _ _ =>
      exact .continues rfl (.nothing rfl rfl) nofun
  | succeeds found =>
      exact .succeeds rfl rfl rfl rfl rfl
  | @fails attempt e _ found =>
      have isYielded :
          ((({ set with
                tasks := set.tasks.yieldFirst found
                error := set.error.or (some (.error e)) } :
              EyeballSet F T E).start future).awaitNext
                now).set.tasks.yielded =
            set.tasks.yielded ++ [(attempt, .error e)] := by
        rw [EyeballSet.tasks_awaitNext]
        rfl
      refine .continues ?_ (.error isYielded (error_awaitNext _ now))
        (EyeballSet.awaitNext_ne_done _ now)
      rw [line_awaitNext]
      simp [line, heldBy, EyeballSet.start, FuturesUnordered.push,
        FuturesUnordered.yieldFirst]
  | continues _ _ =>
      refine .continues ?_ (.nothing ?_ ?_) (EyeballSet.awaitNext_ne_done _ now)
      · rw [line_awaitNext]
        simp [line, heldBy, EyeballSet.start, FuturesUnordered.push]
      · rw [EyeballSet.tasks_awaitNext]
        rfl
      · rw [error_awaitNext]
        rfl

private theorem effect_of_draining {set : EyeballSet F T E} {now : Instant}
    {next : Finishing F T E} (spec : set.Draining now next) :
    Effect ⟨set, .suspended .draining⟩ next := by
  cases spec with
  | waits _ _ =>
      exact .continues rfl (.nothing rfl rfl) nofun
  | succeeds found =>
      exact .succeeds rfl rfl rfl rfl rfl
  | fails found =>
      exact .continues rfl (.error rfl rfl) nofun
  | exhausted _ _ =>
      exact .exhausts rfl rfl rfl rfl rfl

private theorem TimesOut.set_eq {before after : Finishing F T E}
    (timesOut : TimesOut before after) : after.set = before.set := by
  cases timesOut
  rfl

/-- A completion changes neither the line nor what was yielded. -/
theorem Completes.keeps {attempt : F} {before after : Finishing F T E}
    (completes : Completes attempt before after) :
    line after = line before ∧
      after.set.tasks.yielded = before.set.tasks.yielded ∧
        after.set.error = before.set.error := by
  cases completes
  exact ⟨rfl, rfl, rfl⟩

theorem effect_of_advances {before after : Finishing F T E}
    (advances : Advances before after) : Effect before after := by
  rcases before with ⟨set, _ | (future | _) | result⟩
  · cases advances with
    | begins _ now =>
        refine .continues ?_ (yieldsError_processAll set now)
          (EyeballSet.awaitNext_ne_done _ now)
        rw [line_processAll]
        simp [line, heldBy]
  · obtain ⟨now, spec⟩ := advances.launching
    exact effect_of_launching spec
  · obtain ⟨now, spec⟩ := advances.draining
    exact effect_of_draining spec
  · cases advances

/-! ## Sessions -/

/-- A set with the future that finishes it, and what has happened: the attempts
that were offered to the set, those that were lost with a future that held them,
the results of `finish`, and how many outcomes had been yielded when `finish`
last reported its recorded error. -/
structure Session (F : Type u) (T : Type v) (E : Type w) where
  state : Finishing F T E
  offered : List F
  lost : List F
  results : List (HappyEyeballsResult T E)
  reported : Nat

/-- A set that was just made. -/
def Session.initial (delay timeout : Option Duration)
    (initialConcurrency : Option Nat) : Session F T E where
  state := ⟨.new delay timeout initialConcurrency, .unstarted⟩
  offered := []
  lost := []
  results := []
  reported := 0

/-- The set is borrowed by a future of `finish` until that ends. -/
def Borrowed : FinishFuture F T E → Prop
  | .suspended _ => True
  | .unstarted => False
  | .done _ => False

inductive SessionStep : Session F T E → Session F T E → Prop
  | pushes {session : Session F T E} (attempt : F) :
      ¬ Borrowed session.state.future →
      SessionStep session
        { session with
          state :=
            ⟨session.state.set.push attempt, session.state.future⟩
          offered := session.offered ++ [attempt] }
  | completes {session : Session F T E} {attempt : F}
      {after : Finishing F T E} :
      Completes attempt session.state after →
      SessionStep session { session with state := after }
  | continues {session : Session F T E} {after : Finishing F T E} :
      Advances session.state after →
      (∀ result, after.future ≠ .done result) →
      SessionStep session { session with state := after }
  | succeeds {session : Session F T E} {after : Finishing F T E}
      {outcome : T} :
      Advances session.state after →
      after.future = .done (.ok outcome) →
      SessionStep session
        { session with
          state := after
          lost := session.lost ++ heldBy session.state.future
          results := session.results ++ [.ok outcome] }
  | exhausts {session : Session F T E} {after : Finishing F T E}
      {error : HappyEyeballsError E} :
      Advances session.state after →
      after.future = .done (.error error) →
      SessionStep session
        { session with
          state := after
          lost := session.lost ++ heldBy session.state.future
          results := session.results ++ [.error error]
          reported := after.set.tasks.yielded.length }
  | timesOut {session : Session F T E} {after : Finishing F T E}
      {error : HappyEyeballsError E} :
      TimesOut session.state after →
      after.future = .done (.error error) →
      SessionStep session
        { session with
          state := after
          lost := session.lost ++ heldBy session.state.future
          results := session.results ++ [.error error] }
  | again {session : Session F T E} :
      SessionStep session
        { session with
          state := ⟨session.state.set, .unstarted⟩
          lost := session.lost ++ heldBy session.state.future }

def SessionRun : Session F T E → Session F T E → Prop :=
  Relation.ReflTransGen SessionStep

/-- What holds throughout a session. -/
structure SessionInvariant (session : Session F T E) : Prop where
  /-- Attempts are started in the order in which they were offered. -/
  order : (line session.state).Sublist session.offered
  /-- Attempts are lost only with the future that holds them. -/
  offered :
    (session.offered : Multiset F) = line session.state + session.lost
  /-- Every success that was yielded is a result. -/
  successes :
    session.results.filterMap Except.toOption =
      session.state.set.tasks.yielded.filterMap successOf
  /-- The recorded error is the first one not reported yet. -/
  recorded :
    session.state.set.error =
      (firstError
        (session.state.set.tasks.yielded.drop session.reported)).map .error
  reported :
    session.reported ≤ session.state.set.tasks.yielded.length

section Steps

variable {session : Session F T E}

private theorem SessionInvariant.initial (delay timeout : Option Duration)
    (initialConcurrency : Option Nat) :
    SessionInvariant
      (Session.initial delay timeout initialConcurrency :
        Session F T E) where
  order := List.Sublist.refl []
  offered := rfl
  successes := rfl
  recorded := rfl
  reported := Nat.le_refl 0

/-- The line loses the attempt that is held when a future of `finish` ends, and
nothing else. -/
theorem line_of_ends {before after : Finishing F T E}
    (samePushed : after.set.tasks.pushed = before.set.tasks.pushed)
    (sameQueue : after.set.queue = before.set.queue)
    (ended : heldBy after.future = []) :
    (line after).Sublist (line before) ∧
      (line before : Multiset F) = line after + heldBy before.future := by
  have shape :
      line after = before.set.tasks.pushed ++ before.set.queue := by
    rw [line, samePushed, sameQueue, ended, List.append_nil]
  rw [shape, line]
  constructor
  · have pushed := List.sublist_append_left before.set.tasks.pushed
      (heldBy before.future)
    exact pushed.append (List.Sublist.refl _)
  · simp only [← Multiset.coe_add]
    abel

/-- What ends a future of `finish` keeps the account of attempts. -/
theorem SessionInvariant.ends (invariant : SessionInvariant session)
    {after : Finishing F T E}
    (samePushed :
      after.set.tasks.pushed = session.state.set.tasks.pushed)
    (sameQueue : after.set.queue = session.state.set.queue)
    (ended : heldBy after.future = []) :
    (line after).Sublist session.offered ∧
      (session.offered : Multiset F) =
        line after + (session.lost ++ heldBy session.state.future :
          List F) := by
  obtain ⟨sublist, account⟩ := line_of_ends samePushed sameQueue ended
  refine ⟨sublist.trans invariant.order, ?_⟩
  rw [invariant.offered, account, ← Multiset.coe_add]
  abel

private theorem firstError_concat_ok (completions : List (F × Except E T))
    (attempt : F) (outcome : T) :
    firstError (completions ++ [(attempt, .ok outcome)]) =
      firstError completions := by
  rw [firstError, List.findSome?_append]
  exact Option.or_none

private theorem SessionInvariant.pushes (invariant : SessionInvariant session)
    (attempt : F) :
    SessionInvariant
      { session with
        state := ⟨session.state.set.push attempt, session.state.future⟩
        offered := session.offered ++ [attempt] } := by
  have longer :
      line
          (⟨session.state.set.push attempt, session.state.future⟩ :
            Finishing F T E) =
        line session.state ++ [attempt] := by
    simp [line, EyeballSet.push]
  refine
    { order := ?_
      offered := ?_
      successes := invariant.successes
      recorded := invariant.recorded
      reported := invariant.reported }
  · rw [longer]
    exact invariant.order.append (List.Sublist.refl _)
  · change ((session.offered ++ [attempt] : List F) : Multiset F) = _
    rw [longer, ← Multiset.coe_add, ← Multiset.coe_add, invariant.offered]
    abel

private theorem SessionInvariant.continues
    (invariant : SessionInvariant session)
    {after : Finishing F T E} (advances : Advances session.state after)
    (goesOn : ∀ result, after.future ≠ .done result) :
    SessionInvariant { session with state := after } := by
  cases effect_of_advances advances with
  | succeeds _ _ _ _ isDone =>
      exact (goesOn _ isDone).elim
  | exhausts _ _ _ _ isDone =>
      exact (goesOn _ isDone).elim
  | continues sameLine yields _ =>
      have order : (line after).Sublist session.offered :=
        sameLine ▸ invariant.order
      have offered :
          (session.offered : Multiset F) = line after + session.lost :=
        sameLine ▸ invariant.offered
      cases yields with
      | nothing sameYielded sameError =>
          refine ⟨order, offered, ?_, ?_, ?_⟩
          · rw [sameYielded]
            exact invariant.successes
          · rw [sameYielded, sameError]
            exact invariant.recorded
          · rw [sameYielded]
            exact invariant.reported
      | @error attempt e isYielded isRecorded =>
          refine ⟨order, offered, ?_, ?_, ?_⟩
          · rw [isYielded, List.filterMap_append]
            simp [successOf, Except.toOption, invariant.successes]
          · rw [isYielded, isRecorded,
              List.drop_append_of_le_length invariant.reported,
              firstError_concat, invariant.recorded]
            cases firstError
              (session.state.set.tasks.yielded.drop session.reported) with
            | none => rfl
            | some first => rfl
          · rw [isYielded, List.length_append]
            exact Nat.le_add_right_of_le invariant.reported

private theorem SessionInvariant.succeeds (invariant : SessionInvariant session)
    {after : Finishing F T E} {outcome : T}
    (advances : Advances session.state after)
    (isDone : after.future = .done (.ok outcome)) :
    SessionInvariant
      { session with
        state := after
        lost := session.lost ++ heldBy session.state.future
        results := session.results ++ [.ok outcome] } := by
  cases effect_of_advances advances with
  | continues _ _ goesOn =>
      exact (goesOn _ isDone).elim
  | exhausts _ _ _ _ isError =>
      cases isDone.symm.trans isError
  | @succeeds attempt value samePushed sameQueue isYielded sameError isOk =>
      cases isDone.symm.trans isOk
      have ended : heldBy after.future = [] := by
        rw [isDone]
        rfl
      obtain ⟨order, offered⟩ :=
        invariant.ends samePushed sameQueue ended
      refine ⟨order, offered, ?_, ?_, ?_⟩
      · rw [isYielded, List.filterMap_append, List.filterMap_append,
          invariant.successes]
        rfl
      · rw [isYielded, sameError,
          List.drop_append_of_le_length invariant.reported,
          firstError_concat_ok]
        exact invariant.recorded
      · rw [isYielded, List.length_append]
        exact Nat.le_add_right_of_le invariant.reported

private theorem SessionInvariant.exhausts (invariant : SessionInvariant session)
    {after : Finishing F T E} {error : HappyEyeballsError E}
    (advances : Advances session.state after)
    (isDone : after.future = .done (.error error)) :
    SessionInvariant
      { session with
        state := after
        lost := session.lost ++ heldBy session.state.future
        results := session.results ++ [.error error]
        reported := after.set.tasks.yielded.length } := by
  cases effect_of_advances advances with
  | continues _ _ goesOn =>
      exact (goesOn _ isDone).elim
  | succeeds _ _ _ _ isOk =>
      cases isDone.symm.trans isOk
  | exhausts sameLine nothingHeld sameYielded noError _ =>
      refine ⟨sameLine ▸ invariant.order, ?_, ?_, ?_, Nat.le_refl _⟩
      · change _ = (line after : Multiset F) +
          (session.lost ++ heldBy session.state.future : List F)
        rw [nothingHeld, List.append_nil, sameLine]
        exact invariant.offered
      · rw [sameYielded, List.filterMap_append, ← invariant.successes]
        exact List.append_nil _
      · rw [noError, List.drop_length]
        rfl

private theorem SessionInvariant.timesOut (invariant : SessionInvariant session)
    {after : Finishing F T E} {error : HappyEyeballsError E}
    (timesOut : TimesOut session.state after)
    (isDone : after.future = .done (.error error)) :
    SessionInvariant
      { session with
        state := after
        lost := session.lost ++ heldBy session.state.future
        results := session.results ++ [.error error] } := by
  have sameSet := timesOut.set_eq
  have ended : heldBy after.future = [] := by
    rw [isDone]
    rfl
  obtain ⟨order, offered⟩ :=
    invariant.ends (by rw [sameSet]) (by rw [sameSet]) ended
  refine ⟨order, offered, ?_, ?_, ?_⟩
  · rw [sameSet, List.filterMap_append, ← invariant.successes]
    exact List.append_nil _
  · rw [sameSet]
    exact invariant.recorded
  · rw [sameSet]
    exact invariant.reported

private theorem SessionInvariant.step {after : Session F T E}
    (invariant : SessionInvariant session)
    (step : SessionStep session after) : SessionInvariant after := by
  cases step with
  | pushes attempt _ =>
      exact invariant.pushes attempt
  | completes completes =>
      obtain ⟨sameLine, sameYielded, sameError⟩ := completes.keeps
      exact
        { order := sameLine ▸ invariant.order
          offered := sameLine ▸ invariant.offered
          successes := sameYielded ▸ invariant.successes
          recorded := by
            rw [sameError, sameYielded]
            exact invariant.recorded
          reported := sameYielded ▸ invariant.reported }
  | continues advances goesOn =>
      exact invariant.continues advances goesOn
  | succeeds advances isDone =>
      exact invariant.succeeds advances isDone
  | exhausts advances isDone =>
      exact invariant.exhausts advances isDone
  | timesOut timesOut isDone =>
      exact invariant.timesOut timesOut isDone
  | again =>
      obtain ⟨order, offered⟩ :=
        @SessionInvariant.ends _ _ _ _ invariant
          ⟨session.state.set, .unstarted⟩ rfl rfl rfl
      exact ⟨order, offered, invariant.successes, invariant.recorded,
        invariant.reported⟩

end Steps

/-! ## Main result -/

/-- In every session with one set: the attempts that were started, the one that
is held and those in the queue are attempts that were offered, in order and each
of them once, and all others were lost with a future of `finish` that held them;
every attempt that was started runs, or has completed once; every success that
was yielded is the result of one `finish`, in order; and the next `finish` to
run out of attempts returns the first error since the last one that did. -/
theorem session_accounts (delay timeout : Option Duration)
    (initialConcurrency : Option Nat) (session : Session F T E)
    (run :
      SessionRun (.initial delay timeout initialConcurrency) session) :
    (line session.state).Sublist session.offered ∧
    (session.offered : Multiset F) = line session.state + session.lost ∧
    session.state.set.tasks.pushed.Perm
      (session.state.set.tasks.running ++
        session.state.set.tasks.completions.map Prod.fst) ∧
    session.results.filterMap Except.toOption =
      session.state.set.tasks.yielded.filterMap successOf ∧
    ∀ after error, Advances session.state after →
      after.future = .done (.error error) →
        error =
          (firstError
            (session.state.set.tasks.yielded.drop session.reported)).elim
              .noProgress .error := by
  have preserves :
      Preserves SessionStep
        (SessionInvariant : Session F T E → Prop) :=
    fun _ _ invariant step => invariant.step step
  have invariant :=
    preserves.run
      (SessionInvariant.initial delay timeout initialConcurrency) run
  refine ⟨invariant.order, invariant.offered,
    session.state.set.tasks.conserved, invariant.successes, ?_⟩
  intro after error advances isDone
  cases effect_of_advances advances with
  | continues _ _ goesOn =>
      exact (goesOn _ isDone).elim
  | succeeds _ _ _ _ isOk =>
      cases isDone.symm.trans isOk
  | exhausts _ _ _ _ isError =>
      have isRecorded :
          error = session.state.set.error.getD .noProgress := by
        cases isDone.symm.trans isError
        rfl
      rw [isRecorded, invariant.recorded]
      cases firstError
        (session.state.set.tasks.yielded.drop session.reported) with
      | none => rfl
      | some first => rfl

/-! ## A set that is finished again -/

/-- The first `finish` has started attempt 7 and holds attempt 8. -/
def holdingSecond : Finishing Nat Nat String :=
  EyeballSet.processAll ((EyeballSet.new (some 10) none (some 1)).extend [7, 8])
    0

/-- The second `finish` has started attempt 9, which was pushed after the first
one was dropped. -/
def finishingAgain : Finishing Nat Nat String :=
  (holdingSecond.set.push 9).processAll 20

private theorem finishingAgain_running :
    finishingAgain.set.tasks.running = [] ++ 7 :: [9] :=
  rfl

def oldRefused : Finishing Nat Nat String :=
  ⟨{ finishingAgain.set with
      tasks :=
        finishingAgain.set.tasks.complete (.error "refused")
          finishingAgain_running },
    .suspended .draining⟩

def refusalYielded : Finishing Nat Nat String :=
  ⟨{ oldRefused.set with
      tasks :=
        oldRefused.set.tasks.yieldFirst
          (show oldRefused.set.tasks.completed = (7, .error "refused") :: []
            from rfl)
      error := some (.error "refused") },
    .suspended .draining⟩

private theorem refusalYielded_running :
    refusalYielded.set.tasks.running = [] ++ 9 :: [] :=
  rfl

def newUnreachable : Finishing Nat Nat String :=
  ⟨{ refusalYielded.set with
      tasks :=
        refusalYielded.set.tasks.complete (.error "unreachable")
          refusalYielded_running },
    .suspended .draining⟩

def bothYielded : Finishing Nat Nat String :=
  ⟨{ newUnreachable.set with
      tasks :=
        newUnreachable.set.tasks.yieldFirst
          (show newUnreachable.set.tasks.completed =
              (9, .error "unreachable") :: []
            from rfl) },
    .suspended .draining⟩

/-- The session in which the first `finish` is dropped and the second one is
about to run out of attempts. -/
def finishedAgain : Session Nat Nat String where
  state := bothYielded
  offered := [7, 8, 9]
  lost := [8]
  results := []
  reported := 0

private theorem finishedAgain_run :
    SessionRun (.initial (some 10) none (some 1)) finishedAgain := by
  let start : Session Nat Nat String := .initial (some 10) none (some 1)
  have first : SessionRun start _ :=
    .single (.pushes 7 id)
  have second : SessionRun start _ :=
    first.tail (.pushes 8 id)
  have held : SessionRun start _ :=
    second.tail
      (@SessionStep.continues _ _ _ _ holdingSecond (.begins _ 0) nofun)
  have dropped : SessionRun start _ :=
    held.tail .again
  have third : SessionRun start _ :=
    dropped.tail (.pushes 9 id)
  have again : SessionRun start _ :=
    third.tail
      (@SessionStep.continues _ _ _ _ finishingAgain (.begins _ 20) nofun)
  have refused : SessionRun start _ :=
    again.tail
      (@SessionStep.completes _ _ _ _ _ oldRefused
        (.intro (.error "refused") finishingAgain_running))
  have recorded : SessionRun start _ :=
    refused.tail
      (@SessionStep.continues _ _ _ _ refusalYielded
        (.resumes false 0
          (show oldRefused.set.resume false 0 .draining =
            .ok refusalYielded from rfl))
        nofun)
  have unreachable : SessionRun start _ :=
    recorded.tail
      (@SessionStep.completes _ _ _ _ _ newUnreachable
        (.intro (.error "unreachable") refusalYielded_running))
  exact unreachable.tail
    (@SessionStep.continues _ _ _ _ bothYielded
      (.resumes false 0
        (show newUnreachable.set.resume false 0 .draining =
          .ok bothYielded from rfl))
      nofun)

/-- Attempt 8 is lost with the first future, attempt 7 is still finished by the
second one, and the first error of the two is returned. -/
theorem session_accounts_finishedAgain :
    [7, 9].Sublist [7, 8, 9] ∧
      (↑[7, 8, 9] : Multiset Nat) = ↑[7, 9] + ↑[8] ∧
        bothYielded.set.tasks.pushed.Perm
          (bothYielded.set.tasks.running ++
            bothYielded.set.tasks.completions.map Prod.fst) ∧
          bothYielded.set.tasks.yielded.filterMap successOf = [] ∧
            ∃ after error, Advances bothYielded after ∧
              after.future = .done (.error error) ∧
                error = .error "refused" := by
  obtain ⟨order, offered, conserved, successes, reports⟩ :=
    session_accounts (some 10) none (some 1) finishedAgain finishedAgain_run
  have exhausted :
      Advances bothYielded
        ⟨{ bothYielded.set with error := none },
          .done (.error (.error "refused"))⟩ :=
    .resumes false 0 rfl
  exact ⟨order, offered, conserved, successes.symm, _, _, exhausted, rfl,
    reports _ _ exhausted rfl⟩

end HappyEyeballs

end Hyperdriver
