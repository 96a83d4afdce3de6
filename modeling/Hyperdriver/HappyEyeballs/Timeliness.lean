import Hyperdriver.HappyEyeballs.Finish
import Hyperdriver.HappyEyeballs.Pacing

/-!
# Happy eyeballs goes on in time

The future of `finish` can be polled as soon as a timeout elapses, and nothing
then keeps it from going on, even when no attempt completes any more: there is
always something that it does, or time passes.  So it gets to its end, or to any
given time; with an overall timeout it gets to its end.
-/

namespace Hyperdriver

open Foundation

universe u v w

namespace HappyEyeballs

variable {F : Type u} {T : Type v} {E : Type w}

/-- The work that is left. -/
def Clocked.work (self : Clocked F T E) : Nat :=
  self.state.work

/-- The attempts that have completed, and how. -/
def Clocked.completions (self : Clocked F T E) : List (F × Except E T) :=
  self.state.set.tasks.completions

/-- A step that is on time and in which no attempt completes. -/
def UnaidedStep (before after : Clocked F T E) : Prop :=
  ClockedStep before after ∧ OnTime after ∧
    after.completions = before.completions

def UnaidedRun : Clocked F T E → Clocked F T E → Prop :=
  Relation.ReflTransGen UnaidedStep

/-! ## What keeps a run on time -/

section Polls

variable {clocked after : Clocked F T E} {set : EyeballSet F T E}

private theorem delayEnd_le {state : Finishing F T E} {now time : Instant}
    (isSet : state.delayEnd now = some time) : now ≤ time := by
  unfold Finishing.delayEnd at isSet
  split at isSet
  · obtain ⟨pause, _, rfl⟩ := Option.map_eq_some_iff.mp isSet
    exact Nat.le_add_right now pause
  · cases isSet
  · cases isSet
  · cases isSet

/-- A timeout that is set by a poll has not been let pass. -/
theorem OnTime.polls {elapsed : Bool} (onTime : OnTime clocked)
    (polled : clocked.poll elapsed = .ok after) : OnTime after := by
  rcases shape : clocked.state with ⟨set, _ | point | result⟩
  · simp only [Clocked.poll, shape, Except.ok.injEq] at polled
    rw [← polled]
    refine ⟨fun time isSet => delayEnd_le isSet, ?_⟩
    intro time isSet
    obtain ⟨duration, _, rfl⟩ := Option.map_eq_some_iff.mp isSet
    exact Nat.le_add_right _ duration
  · obtain ⟨next, _, rfl⟩ := Clocked.poll_suspended shape polled
    refine ⟨?_, onTime.2⟩
    intro time isSet
    dsimp only at isSet
    split at isSet
    · exact delayEnd_le isSet
    · exact onTime.1 time isSet
  · simp [Clocked.poll, shape] at polled

private theorem poll_suspended_total {point : AwaitPoint F} (elapsed : Bool)
    (shape : clocked.state = ⟨set, .suspended point⟩) :
    ∃ after, clocked.poll elapsed = .ok after ∧
      after.now = clocked.now ∧
        set.resume elapsed clocked.now point = .ok after.state := by
  obtain ⟨next, resumed⟩ := set.resume_total elapsed clocked.now point
  let after : Clocked F T E :=
    { clocked with
      state := next
      delayEnds :=
        if set.isJoined elapsed point then
          next.delayEnd clocked.now
        else
          clocked.delayEnds }
  refine ⟨after, ?_, rfl, resumed⟩
  simp only [Clocked.poll, shape, resumed, Except.map, after]

/-- The held attempt is started when the delay has elapsed. -/
theorem resume_elapsed {duration : Duration} (future : F) (now : Instant)
    (hasDelay : set.delay = some duration)
    (waiting : set.tasks.pollNext.1 = .pending) :
    set.resume true now (.launching future) =
      .ok ((set.start future).awaitNext now) := by
  obtain ⟨none, busy⟩ := set.tasks.pollNext_pending_iff.mp waiting
  have spec := set.pollJoinNext_spec
  rcases joined : set.pollJoinNext with ⟨answer, joinedSet⟩
  rw [joined] at spec
  cases spec with
  | succeeds found =>
      cases none.symm.trans found
  | fails found =>
      cases none.symm.trans found
  | exhausted _ idle =>
      exact (busy idle).elim
  | waits _ _ =>
      dsimp only at hasDelay
      simp only [EyeballSet.resume, EyeballSet.pollJoinNextWithTimeout,
        hasDelay, joined, if_true]

end Polls

/-! ## No delay while the last outcomes are awaited -/

def NoDelayEnd (clocked : Clocked F T E) : Prop :=
  clocked.state.future = .suspended .draining → clocked.delayEnds = none

section NoDelayEnd

variable {clocked after : Clocked F T E}

private theorem delayEnd_draining {state : Finishing F T E} (now : Instant)
    (draining : state.future = .suspended .draining) :
    state.delayEnd now = none := by
  rw [Finishing.delayEnd, draining]

private theorem NoDelayEnd.step (noDelayEnd : NoDelayEnd clocked)
    (step : ClockedStep clocked after) : NoDelayEnd after := by
  cases step with
  | passes _ =>
      exact noDelayEnd
  | completes completes =>
      rcases clocked with ⟨state, now, delayEnds, timeoutEnds⟩
      cases completes with
      | intro outcome isRunning =>
          exact noDelayEnd
  | timesOut _ _ _ _ _ =>
      exact nofun
  | polls sound polled =>
      intro draining
      rcases shape : clocked.state with ⟨set, _ | (future | _) | result⟩
      · simp only [Clocked.poll, shape, Except.ok.injEq] at polled
        rw [← polled] at draining ⊢
        exact delayEnd_draining _ draining
      · cases Clocked.poll_launching shape polled with
        | waits =>
            cases draining
        | succeeds found =>
            cases draining
        | fails found =>
            exact delayEnd_draining _ draining
        | exhausted _ _ =>
            exact delayEnd_draining _ draining
        | elapses _ _ =>
            exact delayEnd_draining _ draining
      · obtain ⟨next, resumed, rfl⟩ := Clocked.poll_suspended shape polled
        dsimp only
        split
        · exact delayEnd_draining _ draining
        · apply noDelayEnd
          rw [shape]
      · simp [Clocked.poll, shape] at polled

private theorem ClockedRun.noDelayEnd (run : ClockedRun clocked after)
    (noDelayEnd : NoDelayEnd clocked) : NoDelayEnd after := by
  have preserves : Preserves (ClockedStep (F := F) (T := T) (E := E))
      NoDelayEnd :=
    fun _ _ noDelayEnd step => noDelayEnd.step step
  exact preserves.run noDelayEnd run

end NoDelayEnd

/-! ## Polls complete nothing -/

section Completions

variable {set : EyeballSet F T E}

private theorem completions_awaitNext (set : EyeballSet F T E) (now : Instant) :
    (set.awaitNext now).set.tasks.completions = set.tasks.completions := by
  rw [set.tasks_awaitNext]

private theorem completions_processAll (set : EyeballSet F T E)
    (now : Instant) :
    (set.processAll now).set.tasks.completions = set.tasks.completions := by
  rw [EyeballSet.processAll, completions_awaitNext, EyeballSet.startBatch_eq]
  simp only [FuturesUnordered.completions, FuturesUnordered.completed_pushAll,
    FuturesUnordered.yielded_pushAll]

private theorem completions_launching {future : F} {now : Instant}
    {next : Finishing F T E} (launching : set.Launching future now next) :
    next.set.tasks.completions = set.tasks.completions := by
  cases launching with
  | waits _ _ =>
      rfl
  | succeeds found =>
      exact set.tasks.completions_yieldFirst found
  | fails found =>
      rw [completions_awaitNext]
      exact set.tasks.completions_yieldFirst found
  | continues _ _ =>
      rw [completions_awaitNext]
      rfl

private theorem completions_draining {now : Instant} {next : Finishing F T E}
    (draining : set.Draining now next) :
    next.set.tasks.completions = set.tasks.completions := by
  cases draining with
  | waits _ _ =>
      rfl
  | succeeds found =>
      exact set.tasks.completions_yieldFirst found
  | fails found =>
      exact set.tasks.completions_yieldFirst found
  | exhausted _ _ =>
      rfl

private theorem completions_advances {before after : Finishing F T E}
    (advances : Advances before after) :
    after.set.tasks.completions = before.set.tasks.completions := by
  cases advances with
  | begins set now =>
      exact completions_processAll set now
  | @resumes set point _ elapsed now resumed =>
      cases point with
      | launching future =>
          obtain ⟨next, same, launching⟩ :=
            set.resume_launching future elapsed now
          cases resumed.symm.trans same
          exact completions_launching launching
      | draining =>
          obtain ⟨next, same, draining⟩ := set.resume_draining elapsed now
          cases resumed.symm.trans same
          exact completions_draining draining

end Completions

/-! ## Going on -/

/-- A set that is on time can go on by one step. -/
def GoesOn (clocked : Clocked F T E) : Prop :=
  ∃ after, UnaidedStep clocked after ∧
    MovesOn Clocked.now Clocked.work clocked after

section Steps

variable {delay limit : Option Duration} {batch : Nat} {pacer : Pacer}
  {clocked : Clocked F T E} {set : EyeballSet F T E}

theorem unaided_polls {elapsed : Bool} {after : Clocked F T E}
    (onTime : OnTime clocked) (polled : clocked.poll elapsed = .ok after)
    (sound : elapsed = true → Reached clocked.delayEnds clocked.now)
    (advances : Advances clocked.state after.state) :
    UnaidedStep clocked after :=
  ⟨.polls sound polled, onTime.polls polled, completions_advances advances⟩

private theorem goesOn_passes
    (noDelay : ¬ Reached clocked.delayEnds clocked.now)
    (noTimeout : ¬ Reached clocked.timeoutEnds clocked.now) :
    GoesOn clocked := by
  have later :
      ∀ ends : Option Instant, ¬ Reached ends clocked.now →
        ∀ time, ends = some time → clocked.now + 1 ≤ time := by
    intro ends notReached time isSet
    by_contra notLater
    exact
      notReached ⟨time, isSet, Nat.le_of_lt_succ (not_le.mp notLater)⟩
  let after : Clocked F T E := { clocked with now := clocked.now + 1 }
  have step : UnaidedStep clocked after :=
    ⟨.passes (Nat.le_succ _), ⟨later _ noDelay, later _ noTimeout⟩, rfl⟩
  exact ⟨after, step, Or.inl (Nat.lt_succ_self _)⟩

private theorem goesOn_begins (onTime : OnTime clocked)
    (shape : clocked.state = ⟨set, .unstarted⟩) :
    ∃ after, UnaidedStep clocked after ∧
      MovesOn Clocked.now Clocked.work clocked after ∧
        after.state = set.processAll clocked.now := by
  let after : Clocked F T E :=
    { state := set.processAll clocked.now
      now := clocked.now
      delayEnds := (set.processAll clocked.now).delayEnd clocked.now
      timeoutEnds := set.timeout.map (clocked.now + ·) }
  have polled : clocked.poll false = .ok after := by
    simp only [Clocked.poll, shape, after]
  have advances : Advances clocked.state after.state := by
    rw [shape]
    exact .begins set clocked.now
  have smaller : after.work < clocked.work := by
    unfold Clocked.work
    rw [shape]
    exact work_processAll set clocked.now
  have step : UnaidedStep clocked after := by
    refine unaided_polls onTime polled ?_ advances
    intro isElapsed
    cases isElapsed
  exact ⟨after, step, Or.inr ⟨rfl, smaller⟩, rfl⟩

/-- An outcome that is ready is taken. -/
theorem goesOn_ready {point : AwaitPoint F} (onTime : OnTime clocked)
    (shape : clocked.state = ⟨set, .suspended point⟩)
    (ready : set.tasks.pollNext.1 ≠ .pending) : GoesOn clocked := by
  obtain ⟨after, polled, sameNow, resumed⟩ :=
    poll_suspended_total false shape
  have advances : Advances clocked.state after.state := by
    rw [shape]
    exact .resumes false clocked.now resumed
  have step : UnaidedStep clocked after := by
    refine unaided_polls onTime polled ?_ advances
    intro isElapsed
    cases isElapsed
  refine ⟨after, step, Or.inr ⟨sameNow, ?_⟩⟩
  rcases work_advances advances with smaller | ⟨same, notReady⟩
  · exact smaller
  · rw [same, shape] at notReady
    exact (notReady ready).elim

/-- The held attempt is started when it is due. -/
theorem goesOn_delay {duration : Duration} {future : F}
    (onTime : OnTime clocked)
    (shape : clocked.state = ⟨set, .suspended (.launching future)⟩)
    (waiting : set.tasks.pollNext.1 = .pending)
    (hasDelay : set.delay = some duration)
    (reached : Reached clocked.delayEnds clocked.now) : GoesOn clocked := by
  obtain ⟨after, polled, sameNow, resumed⟩ := poll_suspended_total true shape
  have advances : Advances clocked.state after.state := by
    rw [shape]
    exact .resumes true clocked.now resumed
  refine ⟨after, unaided_polls onTime polled (fun _ => reached) advances,
    Or.inr ⟨sameNow, ?_⟩⟩
  rw [resume_elapsed future clocked.now hasDelay waiting,
    Except.ok.injEq] at resumed
  have started := work_start_awaitNext set future clocked.now
  unfold Clocked.work
  rw [shape, ← resumed]
  simp only [Finishing.work, FinishFuture.work] at started ⊢
  omega

private theorem goesOn_timeout {point : AwaitPoint F} {duration : Duration}
    (shape : clocked.state = ⟨set, .suspended point⟩)
    (waiting : set.tasks.pollNext.1 = .pending)
    (limited : set.timeout = some duration)
    (reached : Reached clocked.timeoutEnds clocked.now) :
    GoesOn clocked := by
  have isSuspended : clocked.state.future = .suspended point := by
    rw [shape]
  have isLimited : clocked.state.set.timeout = some duration := by
    rwa [shape]
  have isWaiting : clocked.state.set.tasks.pollNext.1 = .pending := by
    rwa [shape]
  have step : ClockedStep clocked (clocked.timeOut clocked.now) :=
    .timesOut isSuspended isLimited reached isWaiting (Nat.le_refl _)
  have onTime : OnTime (clocked.timeOut clocked.now) :=
    ⟨fun _ isSet => (nomatch isSet), fun _ isSet => (nomatch isSet)⟩
  have timesOut :
      TimesOut clocked.state (clocked.timeOut clocked.now).state := by
    rw [Clocked.timeOut, shape]
    exact .intro clocked.now clocked.now limited waiting
  exact ⟨_, ⟨step, onTime, rfl⟩, Or.inr ⟨rfl, work_timesOut timesOut⟩⟩

/-- The overall timeout elapses only if there is one. -/
theorem Follows.limited {attempts : List F} {point : AwaitPoint F}
    (follows : Follows delay limit batch pacer clocked)
    (invariant : Invariant limit attempts clocked.state)
    (shape : clocked.state = ⟨set, .suspended point⟩)
    (reached : Reached clocked.timeoutEnds clocked.now) :
    ∃ duration, set.timeout = some duration := by
  obtain ⟨time, isSet, _⟩ := reached
  rw [follows.timeoutEnds point (follows.suspended shape).1] at isSet
  obtain ⟨duration, limited, _⟩ := Option.map_eq_some_iff.mp isSet
  refine ⟨duration, ?_⟩
  rw [shape] at invariant
  rw [← limited]
  cases point with
  | launching future =>
      have live : Live limit attempts [future] set := invariant
      exact live.limited
  | draining =>
      exact invariant.1.limited

/-- A set that awaits an outcome can go on, whatever it awaits. -/
theorem Follows.goesOn {attempts : List F} {point : AwaitPoint F}
    (follows : Follows delay limit batch pacer clocked)
    (invariant : Invariant limit attempts clocked.state)
    (noDelayEnd : NoDelayEnd clocked) (onTime : OnTime clocked)
    (shape : clocked.state = ⟨set, .suspended point⟩) :
    GoesOn clocked := by
  obtain ⟨isSuspended, paced⟩ := follows.suspended shape
  by_cases waiting : set.tasks.pollNext.1 = .pending
  · by_cases timeoutOver : Reached clocked.timeoutEnds clocked.now
    · obtain ⟨duration, limited⟩ :=
        follows.limited invariant shape timeoutOver
      exact goesOn_timeout shape waiting limited timeoutOver
    by_cases delayOver : Reached clocked.delayEnds clocked.now
    · have reached := delayOver
      obtain ⟨time, isSet, _⟩ := reached
      cases point with
      | draining =>
          rw [noDelayEnd isSuspended] at isSet
          cases isSet
      | launching future =>
          rw [follows.delayEnds future isSuspended, ← paced.delay] at isSet
          obtain ⟨duration, hasDelay, _⟩ := Option.map_eq_some_iff.mp isSet
          exact goesOn_delay onTime shape waiting hasDelay delayOver
    · exact goesOn_passes delayOver timeoutOver
  · exact goesOn_ready onTime shape waiting

end Steps

/-! ## Runs that are on time -/

section Runs

variable {delay limit : Option Duration} {initialConcurrency : Option Nat}
  {attempts : List F} {now : Instant} {clocked after : Clocked F T E}

private theorem onTime_initial (delay limit : Option Duration)
    (initialConcurrency : Option Nat) (attempts : List F) (now : Instant) :
    OnTime
      (.initial delay limit initialConcurrency attempts now :
        Clocked F T E) :=
  ⟨fun _ isSet => (nomatch isSet), fun _ isSet => (nomatch isSet)⟩

theorem OnTimeRun.onTime (run : OnTimeRun clocked after)
    (onTime : OnTime clocked) : OnTime after := by
  cases run with
  | refl =>
      exact onTime
  | tail _ step =>
      exact step.2

theorem onTime_of_run
    (run :
      OnTimeRun (.initial delay limit initialConcurrency attempts now)
        clocked) : OnTime clocked :=
  run.onTime (onTime_initial delay limit initialConcurrency attempts now)

private theorem UnaidedRun.onTimeRun (run : UnaidedRun clocked after) :
    OnTimeRun clocked after :=
  Relation.ReflTransGen.mono (fun _ _ step => ⟨step.1, step.2.1⟩) _ _ run

private theorem UnaidedRun.completions (run : UnaidedRun clocked after) :
    after.completions = clocked.completions := by
  induction run with
  | refl =>
      rfl
  | tail _ step inductionHypothesis =>
      exact step.2.2.trans inductionHypothesis

/-- Once it is awaiting an outcome, a run that is on time follows its pacer from
there. -/
theorem Follows.onTimeRun {batch : Nat} {pacer : Pacer}
    (follows : Follows delay limit batch pacer clocked)
    (invariant : Invariant limit attempts clocked.state)
    (onTime : OnTime clocked) (run : OnTimeRun clocked after) :
    Invariant limit attempts after.state ∧ ∃ next,
      Pacer.Run delay delay pacer next ∧
        Follows delay limit batch next after := by
  induction run with
  | refl =>
      exact ⟨invariant, pacer, .refl, follows⟩
  | tail ran step inductionHypothesis =>
      obtain ⟨accounts, next, paced, followed⟩ := inductionHypothesis
      have inTime := OnTimeRun.onTime ran onTime
      obtain ⟨last, goesOn, follows⟩ :=
        followed.step accounts
          (fun _ launching => followed.inTime inTime launching) step.1
      exact ⟨step.1.invariant accounts, last, paced.trans goesOn, follows⟩

private theorem goesOn_of_onTimeRun
    (run :
      OnTimeRun (.initial delay limit initialConcurrency attempts now)
        clocked)
    (goesOn : ∀ result, clocked.state.future ≠ .done result) :
    GoesOn clocked := by
  have onTime := onTime_of_run run
  obtain ⟨invariant, progress⟩ := follows_of_onTimeRun run
  rcases shape : clocked.state with ⟨set, _ | point | result⟩
  · obtain ⟨after, step, movesOn, _⟩ := goesOn_begins onTime shape
    exact ⟨after, step, movesOn⟩
  · rcases progress with isFresh | ⟨_, _, pacer, _, follows⟩
    · have unstarted := (started_of_fresh isFresh).2.2
      rw [shape] at unstarted
      cases unstarted
    · exact follows.goesOn invariant (run.clockedRun.noDelayEnd nofun)
        onTime shape
  · exact (goesOn result (congrArg Finishing.future shape)).elim

/-- Nothing keeps a run that is on time from getting to the end of `finish` or
to any given time. -/
theorem onTime_reaches
    (run :
      OnTimeRun (.initial delay limit initialConcurrency attempts now)
        clocked)
    (time : Instant) :
    ∃ after, UnaidedRun clocked after ∧
      (time ≤ after.now ∨ ∃ result, after.state.future = .done result) := by
  refine exists_reaches_time Clocked.now Clocked.work ?_ time run
  intro before ran notDone
  obtain ⟨after, step, movesOn⟩ :=
    goesOn_of_onTimeRun ran (fun result same => notDone ⟨result, same⟩)
  exact ⟨after, step, ran.tail ⟨step.1, step.2.1⟩, movesOn⟩

/-- A run gets to the end of `finish` because it cannot go on beyond the
timeout. -/
theorem onTime_ends_of_begun {duration : Duration}
    (run :
      OnTimeRun (.initial delay (some duration) initialConcurrency attempts
        now) clocked)
    (begun : clocked.state.future ≠ .unstarted) :
    ∃ after result, UnaidedRun clocked after ∧
      after.state.future = .done result := by
  have onTime := onTime_of_run run
  obtain ⟨invariant, isFresh | ⟨_, _, pacer, _, follows⟩⟩ :=
    follows_of_onTimeRun run
  · exact (begun (started_of_fresh isFresh).2.2).elim
  obtain ⟨after, continues, late | ⟨result, isDone⟩⟩ :=
    onTime_reaches run (pacer.begun + duration + 1)
  · obtain ⟨_, next, paced, followed⟩ :=
      follows.onTimeRun invariant onTime continues.onTimeRun
    rcases isFuture : after.state.future with _ | point | result
    · exact (followed.begins isFuture).elim
    · have ends := followed.timeoutEnds point isFuture
      rw [paced.begun] at ends
      have soon := (continues.onTimeRun.onTime onTime).2 _ ends
      exact (Nat.not_succ_le_self _ (Nat.le_trans late soon)).elim
    · exact ⟨after, result, continues, isFuture⟩
  · exact ⟨after, result, continues, isDone⟩

private theorem onTime_ends {duration : Duration}
    (run :
      OnTimeRun (.initial delay (some duration) initialConcurrency attempts
        now) clocked) :
    ∃ after result, UnaidedRun clocked after ∧
      after.state.future = .done result := by
  rcases shape : clocked.state with ⟨set, _ | point | result⟩
  · have onTime := onTime_of_run run
    obtain ⟨next, step, _, same⟩ := goesOn_begins onTime shape
    have begun : next.state.future ≠ .unstarted := by
      intro isUnstarted
      rw [same, EyeballSet.processAll] at isUnstarted
      obtain ⟨point, isSuspended⟩ := EyeballSet.future_awaitNext _ _
      cases isSuspended.symm.trans isUnstarted
    obtain ⟨after, result, continues, isDone⟩ :=
      onTime_ends_of_begun (run.tail ⟨step.1, step.2.1⟩) begun
    exact ⟨after, result, continues.head step, isDone⟩
  · refine onTime_ends_of_begun run ?_
    intro isUnstarted
    rw [shape] at isUnstarted
    cases isUnstarted
  · exact ⟨clocked, result, .refl, congrArg Finishing.future shape⟩

end Runs

/-! ## Main result -/

/-- However a run has gone that has been on time, it can go on so to the end of
`finish` or to any given time while no further attempt completes.  With an
overall timeout it can go on to the end. -/
theorem finish_goesOn (delay timeout : Option Duration)
    (initialConcurrency : Option Nat) (attempts : List F) (now : Instant)
    (clocked : Clocked F T E)
    (run :
      OnTimeRun (.initial delay timeout initialConcurrency attempts now)
        clocked) :
    (∀ time, ∃ after, OnTimeRun clocked after ∧
      after.completions = clocked.completions ∧
        (time ≤ after.now ∨
          ∃ result, after.state.future = .done result)) ∧
      (timeout ≠ none →
        ∃ after result, OnTimeRun clocked after ∧
          after.completions = clocked.completions ∧
            after.state.future = .done result) := by
  constructor
  · intro time
    obtain ⟨after, continues, reached⟩ := onTime_reaches run time
    exact ⟨after, continues.onTimeRun, continues.completions, reached⟩
  · intro limited
    obtain ⟨duration, rfl⟩ := Option.ne_none_iff_exists'.mp limited
    obtain ⟨after, result, continues, isDone⟩ := onTime_ends run
    exact ⟨after, result, continues.onTimeRun, continues.completions, isDone⟩

/-! ## Two attempts with a timeout -/

def limitedStarted : Clocked Nat Nat String where
  state :=
    (fresh (some 100) (some 500) (some 1) [7, 8]).set.processAll 0
  now := 0
  delayEnds := some 100
  timeoutEnds := some 500

private theorem limitedStarted_onTime :
    OnTimeRun (.initial (some 100) (some 500) (some 1) [7, 8] 0)
      limitedStarted := by
  let start : Clocked Nat Nat String :=
    .initial (some 100) (some 500) (some 1) [7, 8] 0
  have onTime : OnTime start := onTime_initial _ _ _ _ _
  have polled : start.poll false = .ok limitedStarted := rfl
  have step : ClockedStep start limitedStarted :=
    @ClockedStep.polls _ _ _ _ _ false nofun polled
  exact .single ⟨step, onTime.polls polled⟩

theorem finish_goesOn_limitedStarted :
    limitedStarted.state.future = .suspended (.launching 8) ∧
      ∃ after result, OnTimeRun limitedStarted after ∧
        after.completions = [] ∧ after.state.future = .done result := by
  obtain ⟨_, ends⟩ :=
    finish_goesOn (some 100) (some 500) (some 1) [7, 8] 0 limitedStarted
      limitedStarted_onTime
  exact ⟨rfl, ends nofun⟩

end HappyEyeballs

end Hyperdriver
