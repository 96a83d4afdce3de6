import Hyperdriver.Foundation.Pacing
import Hyperdriver.HappyEyeballs.Concurrency

/-!
# Happy eyeballs on time

The run of `finish` with a clock.  The timeout around an awaited outcome is set
when the set starts to await it, the overall timeout when `finish` is polled
first, and neither elapses before its time.

The attempts that are started after the first batch follow a pacer whose pause
is the delay: they are started in return for failures, or when they are due.  A
set that is polled as soon as a timeout elapses lets none of them wait for
longer.
-/

namespace Hyperdriver

open Foundation

universe u v w

namespace HappyEyeballs

variable {F : Type u} {T : Type v} {E : Type w}

/-! ## The clock -/

/-- A set that is being finished, the time, and when the timeouts end that are
set: that of `join_next_with_timeout` and that of `finish`. -/
structure Clocked (F : Type u) (T : Type v) (E : Type w) where
  state : Finishing F T E
  now : Instant
  delayEnds : Option Instant
  timeoutEnds : Option Instant

/-- A timeout may elapse when it is set and its time has come. -/
def Reached (deadline : Option Instant) (now : Instant) : Prop :=
  ∃ time, deadline = some time ∧ time ≤ now

/-- Whether awaiting the next outcome is over. -/
def EyeballSet.isJoined (set : EyeballSet F T E) (elapsed : Bool) :
    AwaitPoint F → Bool
  | .launching _ => (set.pollJoinNextWithTimeout elapsed).1.isReady
  | .draining => set.pollJoinNext.1.isReady

/-- The timeout that is set where the next outcome starts to be awaited. -/
def Finishing.delayEnd (state : Finishing F T E) (now : Instant) :
    Option Instant :=
  match state.future with
  | .suspended (.launching _) => state.set.delay.map (now + ·)
  | .suspended .draining => none
  | .unstarted => none
  | .done _ => none

namespace Clocked

def initial (delay timeout : Option Duration)
    (initialConcurrency : Option Nat) (attempts : List F) (now : Instant) :
    Clocked F T E where
  state := fresh delay timeout initialConcurrency attempts
  now := now
  delayEnds := none
  timeoutEnds := none

/-- Poll `finish`, up to where an outcome is awaited next, with whether the
timeout of `join_next_with_timeout` has elapsed. -/
def poll (self : Clocked F T E) (elapsed : Bool) :
    Checked (Clocked F T E) :=
  match self.state.future with
  | .unstarted =>
      let state := self.state.set.processAll self.now
      .ok
        { state
          now := self.now
          delayEnds := state.delayEnd self.now
          timeoutEnds := self.state.set.timeout.map (self.now + ·) }
  | .suspended point =>
      (self.state.set.resume elapsed self.now point).map fun state =>
        { self with
          state
          delayEnds :=
            if self.state.set.isJoined elapsed point then
              state.delayEnd self.now
            else
              self.delayEnds }
  | .done _ => .error .resumed

/-- The end of `finish` when its timeout has elapsed; the clock is read again
for the error. -/
def timeOut (self : Clocked F T E) (later : Instant) : Clocked F T E where
  state := self.state.set.timeOut self.now later
  now := later
  delayEnds := none
  timeoutEnds := none

end Clocked

inductive ClockedStep : Clocked F T E → Clocked F T E → Prop
  | passes {clocked : Clocked F T E} {later : Instant} :
      clocked.now ≤ later →
      ClockedStep clocked { clocked with now := later }
  | completes {clocked : Clocked F T E} {attempt : F}
      {after : Finishing F T E} :
      Completes attempt clocked.state after →
      ClockedStep clocked { clocked with state := after }
  | polls {clocked after : Clocked F T E} {elapsed : Bool} :
      (elapsed = true → Reached clocked.delayEnds clocked.now) →
      clocked.poll elapsed = .ok after → ClockedStep clocked after
  | timesOut {clocked : Clocked F T E} {point : AwaitPoint F}
      {limit : Duration} {later : Instant} :
      clocked.state.future = .suspended point →
      clocked.state.set.timeout = some limit →
      Reached clocked.timeoutEnds clocked.now →
      clocked.state.set.tasks.pollNext.1 = .pending →
      clocked.now ≤ later → ClockedStep clocked (clocked.timeOut later)

def ClockedRun : Clocked F T E → Clocked F T E → Prop :=
  Relation.ReflTransGen ClockedStep

/-- No timeout that is set has been let pass. -/
def OnTime (clocked : Clocked F T E) : Prop :=
  (∀ time, clocked.delayEnds = some time → clocked.now ≤ time) ∧
    ∀ time, clocked.timeoutEnds = some time → clocked.now ≤ time

/-- A run in which the future is polled as soon as a timeout elapses. -/
def OnTimeRun : Clocked F T E → Clocked F T E → Prop :=
  Relation.ReflTransGen fun before after =>
    ClockedStep before after ∧ OnTime after

/-! ## What a poll does -/

namespace Clocked

/-- The held attempt is started and the next outcome is awaited. -/
def launch (clocked : Clocked F T E) (set : EyeballSet F T E) (future : F) :
    Clocked F T E :=
  let state := (set.start future).awaitNext clocked.now
  { clocked with state, delayEnds := state.delayEnd clocked.now }

/-- Everything a poll can do while an attempt is held. -/
inductive Launches (clocked : Clocked F T E) (set : EyeballSet F T E)
    (future : F) (elapsed : Bool) : Clocked F T E → Prop
  | waits :
      Launches clocked set future elapsed
        { clocked with state := ⟨set, .suspended (.launching future)⟩ }
  | succeeds {attempt : F} {outcome : T} {rest : List (F × Except E T)}
      (found : set.tasks.completed = (attempt, .ok outcome) :: rest) :
      Launches clocked set future elapsed
        { clocked with
          state :=
            ⟨{ set with tasks := set.tasks.yieldFirst found },
              .done (.ok outcome)⟩
          delayEnds := none }
  | fails {attempt : F} {e : E} {rest : List (F × Except E T)}
      (found : set.tasks.completed = (attempt, .error e) :: rest) :
      Launches clocked set future elapsed
        (clocked.launch
          { set with
            tasks := set.tasks.yieldFirst found
            error := set.error.or (some (.error e)) } future)
  | exhausted :
      set.tasks.completed = [] → set.tasks.running = [] →
        Launches clocked set future elapsed (clocked.launch set future)
  | elapses {duration : Duration} :
      set.delay = some duration → elapsed = true →
        Launches clocked set future elapsed (clocked.launch set future)

section Polls

variable {clocked after : Clocked F T E} {set : EyeballSet F T E}
  {elapsed : Bool}

theorem poll_suspended {point : AwaitPoint F}
    (shape : clocked.state = ⟨set, .suspended point⟩)
    (polled : clocked.poll elapsed = .ok after) :
    ∃ next, set.resume elapsed clocked.now point = .ok next ∧
      after =
        { clocked with
          state := next
          delayEnds :=
            if set.isJoined elapsed point then
              next.delayEnd clocked.now
            else
              clocked.delayEnds } := by
  rcases resumed : set.resume elapsed clocked.now point with panic | next
  · simp [poll, shape, resumed, Except.map] at polled
  · refine ⟨next, rfl, ?_⟩
    simp only [poll, shape, resumed, Except.map, Except.ok.injEq] at polled
    exact polled.symm

theorem poll_launching {future : F}
    (shape : clocked.state = ⟨set, .suspended (.launching future)⟩)
    (polled : clocked.poll elapsed = .ok after) :
    clocked.Launches set future elapsed after := by
  obtain ⟨next, resumed, rfl⟩ := poll_suspended shape polled
  have spec := set.pollJoinNext_spec
  rcases joined : set.pollJoinNext with ⟨answer, joinedSet⟩
  rw [joined] at spec
  rcases hasDelay : set.delay with _ | delay
  · have same : set.pollJoinNextWithTimeout elapsed = (answer, joinedSet) := by
      simp only [EyeballSet.pollJoinNextWithTimeout, hasDelay, joined]
    simp only [EyeballSet.resume, EyeballSet.isJoined, same] at resumed ⊢
    cases spec with
    | succeeds found =>
        cases resumed
        exact .succeeds found
    | fails found =>
        cases resumed
        exact .fails found
    | exhausted none idle =>
        cases resumed
        exact .exhausted none idle
    | waits none busy =>
        cases resumed
        exact .waits
  · simp only [EyeballSet.resume, EyeballSet.isJoined,
      EyeballSet.pollJoinNextWithTimeout, hasDelay, joined] at resumed ⊢
    cases spec with
    | succeeds found =>
        cases resumed
        exact .succeeds found
    | fails found =>
        cases resumed
        exact .fails found
    | exhausted none idle =>
        cases resumed
        exact .exhausted none idle
    | waits none busy =>
        cases elapsed with
        | true =>
            cases resumed
            exact .elapses hasDelay rfl
        | false =>
            cases resumed
            exact .waits

end Polls

end Clocked

/-! ## Following a pacer -/

def failures (set : EyeballSet F T E) : Nat :=
  (set.tasks.yielded.filterMap errorOf).length

/-- A set that starts attempts after the first batch when a pacer says so. -/
structure PacedSet (delay : Option Duration) (batch : Nat) (pacer : Pacer)
    (set : EyeballSet F T E) : Prop where
  delay : set.delay = delay
  begun : set.started = some pacer.begun
  pushed : set.tasks.pushed.length = batch + pacer.returned + pacer.due
  /-- Only when the first batch is empty is an attempt started in return for
  nothing. -/
  returned : pacer.returned ≤ failures set + (1 - batch)

structure Follows (delay limit : Option Duration) (batch : Nat)
    (pacer : Pacer) (clocked : Clocked F T E) : Prop where
  set : PacedSet delay batch pacer clocked.state.set
  now : clocked.now = pacer.now
  begins : clocked.state.future ≠ .unstarted
  delayEnds :
    ∀ future, clocked.state.future = .suspended (.launching future) →
      clocked.delayEnds = delay.map (pacer.last + ·)
  busy :
    ∀ future, clocked.state.future = .suspended (.launching future) →
      clocked.state.set.tasks.pushed = [] ∨ 0 < clocked.state.set.tasks.len
  timeoutEnds :
    ∀ point, clocked.state.future = .suspended point →
      clocked.timeoutEnds = limit.map (pacer.begun + ·)
  timedOut :
    ∀ elapsed, clocked.state.future = .done (.error (.timeout elapsed)) →
      ∃ duration, limit = some duration ∧ duration ≤ elapsed

section Sets

variable {delay limit : Option Duration} {batch : Nat} {pacer : Pacer}
  {set : EyeballSet F T E}

private theorem failures_yieldFirst_error {attempt : F} {e : E}
    {rest : List (F × Except E T)}
    (found : set.tasks.completed = (attempt, .error e) :: rest)
    (error : Option (HappyEyeballsError E)) :
    failures { set with tasks := set.tasks.yieldFirst found, error } =
      failures set + 1 := by
  simp [failures, FuturesUnordered.yieldFirst, errorOf]

private theorem failures_yieldFirst_ok {attempt : F} {outcome : T}
    {rest : List (F × Except E T)}
    (found : set.tasks.completed = (attempt, .ok outcome) :: rest) :
    failures { set with tasks := set.tasks.yieldFirst found } =
      failures set := by
  simp [failures, FuturesUnordered.yieldFirst, errorOf]

/-- The delay, the start, what was pushed and how many attempts have failed are
all that matters. -/
theorem PacedSet.congr {other : EyeballSet F T E}
    (paced : PacedSet delay batch pacer set)
    (sameDelay : other.delay = set.delay)
    (sameStarted : other.started = set.started)
    (samePushed : other.tasks.pushed = set.tasks.pushed)
    (moreFailures : failures set ≤ failures other) :
    PacedSet delay batch pacer other where
  delay := sameDelay.trans paced.delay
  begun := sameStarted.trans paced.begun
  pushed := samePushed ▸ paced.pushed
  returned :=
    Nat.le_trans paced.returned (Nat.add_le_add_right moreFailures _)

private theorem PacedSet.passes (paced : PacedSet delay batch pacer set)
    (later : Nat) : PacedSet delay batch { pacer with now := later } set where
  delay := paced.delay
  begun := paced.begun
  pushed := paced.pushed
  returned := paced.returned

private theorem PacedSet.yieldError {attempt : F} {e : E}
    {rest : List (F × Except E T)} (paced : PacedSet delay batch pacer set)
    (found : set.tasks.completed = (attempt, .error e) :: rest)
    (error : Option (HappyEyeballsError E)) :
    PacedSet delay batch pacer
      { set with tasks := set.tasks.yieldFirst found, error } := by
  refine paced.congr rfl rfl rfl ?_
  rw [failures_yieldFirst_error]
  exact Nat.le_succ _

private theorem PacedSet.yieldOk {attempt : F} {outcome : T}
    {rest : List (F × Except E T)} (paced : PacedSet delay batch pacer set)
    (found : set.tasks.completed = (attempt, .ok outcome) :: rest) :
    PacedSet delay batch pacer
      { set with tasks := set.tasks.yieldFirst found } := by
  refine paced.congr rfl rfl rfl ?_
  rw [failures_yieldFirst_ok]

private theorem PacedSet.markStarted (paced : PacedSet delay batch pacer set)
    (now : Instant) :
    PacedSet delay batch pacer (set.markStarted now) := by
  refine paced.congr rfl ?_ rfl (Nat.le_refl _)
  simp [EyeballSet.markStarted, paced.begun]

private theorem PacedSet.awaitNext (paced : PacedSet delay batch pacer set)
    (now : Instant) :
    PacedSet delay batch pacer (set.awaitNext now).set := by
  unfold EyeballSet.awaitNext
  split
  · rename_i future queue _
    have shorter : PacedSet delay batch pacer { set with queue } :=
      paced.congr rfl rfl rfl (Nat.le_refl _)
    exact shorter.markStarted now
  · exact paced.markStarted now

private theorem length_pushed_start (set : EyeballSet F T E) (future : F) :
    (set.start future).tasks.pushed.length =
      set.tasks.pushed.length + 1 := by
  simp [EyeballSet.start, FuturesUnordered.push]

private theorem PacedSet.startReturned (paced : PacedSet delay batch pacer set)
    (future : F) (last : Nat)
    (room : pacer.returned + 1 ≤ failures set + (1 - batch)) :
    PacedSet delay batch { pacer with last, returned := pacer.returned + 1 }
      (set.start future) where
  delay := paced.delay
  begun := paced.begun
  pushed := by
    have pushed := paced.pushed
    rw [length_pushed_start]
    dsimp only
    omega
  returned := room

private theorem PacedSet.startDue (paced : PacedSet delay batch pacer set)
    (future : F) (last : Nat) :
    PacedSet delay batch { pacer with last, due := pacer.due + 1 }
      (set.start future) where
  delay := paced.delay
  begun := paced.begun
  pushed := by
    have pushed := paced.pushed
    rw [length_pushed_start]
    dsimp only
    omega
  returned := paced.returned

private theorem started_awaitNext (set : EyeballSet F T E) (now : Instant) :
    (set.awaitNext now).set.started = some (set.started.getD now) := by
  unfold EyeballSet.awaitNext
  split
  · rfl
  · rfl

/-- The pacer has just started an attempt, or begun. -/
theorem Follows.awaitNext
    (paced : PacedSet delay batch pacer (set.awaitNext pacer.now).set)
    (justNow : pacer.last = pacer.now)
    (busy : set.tasks.pushed = [] ∨ 0 < set.tasks.len) :
    Follows delay limit batch pacer
      { state := set.awaitNext pacer.now
        now := pacer.now
        delayEnds := (set.awaitNext pacer.now).delayEnd pacer.now
        timeoutEnds := limit.map (pacer.begun + ·) } where
  set := paced
  now := rfl
  begins := by
    obtain ⟨point, isSuspended⟩ := set.future_awaitNext pacer.now
    simp [isSuspended]
  delayEnds future launching := by
    rw [Finishing.delayEnd, launching, justNow, ← paced.delay]
  busy _ _ := by
    rwa [set.tasks_awaitNext]
  timeoutEnds _ _ := rfl
  timedOut elapsed isDone := by
    obtain ⟨point, isSuspended⟩ := set.future_awaitNext pacer.now
    rw [isSuspended] at isDone
    cases isDone

private theorem len_start_pos (set : EyeballSet F T E) (future : F) :
    0 < (set.start future).tasks.len := by
  simp only [EyeballSet.start, FuturesUnordered.push, FuturesUnordered.len,
    List.length_append, List.length_singleton]
  omega

end Sets

section Steps

variable {delay limit patience : Option Duration} {batch : Nat}
  {pacer : Pacer} {clocked after : Clocked F T E} {set : EyeballSet F T E}

private theorem Follows.passes
    (follows : Follows delay limit batch pacer clocked)
    (later : Instant) :
    Follows delay limit batch { pacer with now := later }
      { clocked with now := later } where
  set := follows.set.passes later
  now := rfl
  begins := follows.begins
  delayEnds := follows.delayEnds
  busy := follows.busy
  timeoutEnds := follows.timeoutEnds
  timedOut := follows.timedOut

private theorem Follows.completes
    (follows : Follows delay limit batch pacer clocked)
    {attempt : F} {next : Finishing F T E}
    (completes : Completes attempt clocked.state next) :
    Follows delay limit batch pacer { clocked with state := next } := by
  rcases clocked with ⟨state, now, delayEnds, timeoutEnds⟩
  cases completes with
  | @intro set future front back outcome isRunning =>
      exact
        { set := follows.set.congr rfl rfl rfl (Nat.le_refl _)
          now := follows.now
          begins := follows.begins
          delayEnds := follows.delayEnds
          busy := by
            intro _ _
            right
            simp only [FuturesUnordered.complete, FuturesUnordered.len,
              List.length_append, List.length_singleton]
            omega
          timeoutEnds := follows.timeoutEnds
          timedOut := follows.timedOut }

/-- The set goes on as before, or ends, without starting an attempt. -/
theorem Follows.quiet (follows : Follows delay limit batch pacer clocked)
    {next : Finishing F T E} {ends : Option Instant}
    (paced : PacedSet delay batch pacer next.set)
    (begins : next.future ≠ .unstarted)
    (notLaunching :
      ∀ future, next.future ≠ .suspended (.launching future))
    (suspended :
      ∀ point, next.future = .suspended point →
        clocked.state.future = .suspended point)
    (notTimedOut :
      ∀ elapsed, next.future ≠ .done (.error (.timeout elapsed))) :
    Follows delay limit batch pacer
      { clocked with state := next, delayEnds := ends } where
  set := paced
  now := follows.now
  begins := begins
  delayEnds future launching := (notLaunching future launching).elim
  busy future launching := (notLaunching future launching).elim
  timeoutEnds point isSuspended :=
    follows.timeoutEnds point (suspended point isSuspended)
  timedOut elapsed isDone := (notTimedOut elapsed isDone).elim

private theorem Follows.launch {point : AwaitPoint F}
    (follows : Follows delay limit batch pacer clocked)
    (isSuspended : clocked.state.future = .suspended point) {next : Pacer}
    {future : F} (sameBegun : next.begun = pacer.begun)
    (sameNow : next.now = pacer.now) (justNow : next.last = pacer.now)
    (paced : PacedSet delay batch next (set.start future)) :
    Follows delay limit batch next (clocked.launch set future) := by
  have busy := len_start_pos set future
  have followed : Follows delay limit batch next _ :=
    .awaitNext (paced.awaitNext next.now) (justNow.trans sameNow.symm)
      (Or.inr busy)
  rw [sameNow, sameBegun, ← follows.now,
    ← follows.timeoutEnds point isSuspended] at followed
  exact followed

theorem Follows.suspended {point : AwaitPoint F}
    (follows : Follows delay limit batch pacer clocked)
    (shape : clocked.state = ⟨set, .suspended point⟩) :
    clocked.state.future = .suspended point ∧
      PacedSet delay batch pacer set := by
  have paced := follows.set
  rw [shape] at paced ⊢
  exact ⟨rfl, paced⟩

private theorem Follows.launches {future : F} {elapsed : Bool}
    (follows : Follows delay limit batch pacer clocked)
    (shape : clocked.state = ⟨set, .suspended (.launching future)⟩)
    (inTime : pacer.InTime patience)
    (sound : elapsed = true → Reached clocked.delayEnds clocked.now)
    (spec : clocked.Launches set future elapsed after) :
    ∃ next, Pacer.Run delay patience pacer next ∧
      Follows delay limit batch next after := by
  obtain ⟨isSuspended, paced⟩ := follows.suspended shape
  cases spec with
  | waits =>
      refine ⟨pacer, .refl, ?_⟩
      rw [← shape]
      exact follows
  | succeeds found =>
      refine ⟨pacer, .refl, ?_⟩
      exact follows.quiet (paced.yieldOk found) nofun nofun nofun nofun
  | fails found =>
      refine ⟨_, .single (.isReturned inTime), ?_⟩
      refine follows.launch isSuspended rfl rfl rfl ?_
      refine (paced.yieldError found _).startReturned future pacer.now ?_
      rw [failures_yieldFirst_error]
      have returned := paced.returned
      omega
  | exhausted none idle =>
      refine ⟨_, .single (.isReturned inTime), ?_⟩
      refine follows.launch isSuspended rfl rfl rfl ?_
      refine paced.startReturned future pacer.now ?_
      -- Nothing has been started, so that the first batch was empty.
      have busy := follows.busy future isSuspended
      have pushed := paced.pushed
      simp only [shape, FuturesUnordered.len, none, idle, List.length_nil]
        at busy
      rcases busy with empty | positive
      · rw [empty, List.length_nil] at pushed
        omega
      · omega
  | @elapses duration hasDelay isElapsed =>
      obtain ⟨time, isSet, reached⟩ := sound isElapsed
      have isPaced : delay = some duration :=
        paced.delay.symm.trans hasDelay
      rw [follows.delayEnds future isSuspended, isPaced] at isSet
      cases isSet
      rw [follows.now] at reached
      refine ⟨_, .single (.isDue isPaced reached inTime), ?_⟩
      refine follows.launch isSuspended rfl rfl rfl ?_
      exact paced.startDue future pacer.now

private theorem Follows.drains {attempts : List F} {next : Finishing F T E}
    {now : Instant} {ends : Option Instant}
    (follows : Follows delay limit batch pacer clocked)
    (shape : clocked.state = ⟨set, .suspended .draining⟩)
    (live : Live limit attempts [] set) (spec : set.Draining now next) :
    Follows delay limit batch pacer
      { clocked with state := next, delayEnds := ends } := by
  obtain ⟨isSuspended, paced⟩ := follows.suspended shape
  have stays :
      ∀ point, FinishFuture.suspended (T := T) (E := E) .draining =
          .suspended point →
        clocked.state.future = .suspended point := by
    intro point same
    rw [← same]
    exact isSuspended
  cases spec with
  | waits _ _ =>
      exact follows.quiet paced nofun nofun stays nofun
  | succeeds found =>
      exact follows.quiet (paced.yieldOk found) nofun nofun nofun nofun
  | @fails attempt e rest found =>
      have failed := paced.yieldError found (set.error.or (some (.error e)))
      exact follows.quiet (failed.markStarted now) nofun nofun stays nofun
  | exhausted _ _ =>
      refine follows.quiet ?_ nofun nofun nofun ?_
      · exact paced.congr rfl rfl rfl (Nat.le_refl _)
      intro elapsed isDone
      -- The recorded error is that of an attempt.
      have recorded := live.recorded
      rcases found : firstError set.tasks.yielded with _ | first
      · rw [found] at recorded
        rw [recorded] at isDone
        cases isDone
      · rw [found] at recorded
        rw [recorded] at isDone
        cases isDone

private theorem Follows.timesOut {point : AwaitPoint F} {later : Instant}
    (follows : Follows delay limit batch pacer clocked)
    (isSuspended : clocked.state.future = .suspended point)
    (reached : Reached clocked.timeoutEnds clocked.now)
    (isLater : clocked.now ≤ later) :
    Follows delay limit batch { pacer with now := later }
      (clocked.timeOut later) where
  set := follows.set.passes later
  now := rfl
  begins := nofun
  delayEnds := nofun
  busy := nofun
  timeoutEnds := nofun
  timedOut := by
    intro elapsed isDone
    obtain ⟨time, isSet, isOver⟩ := reached
    rw [follows.timeoutEnds point isSuspended] at isSet
    obtain ⟨duration, isLimit, rfl⟩ := Option.map_eq_some_iff.mp isSet
    refine ⟨duration, isLimit, ?_⟩
    simp only [Clocked.timeOut, EyeballSet.timeOut, follows.set.begun,
      Option.getD_some, FinishFuture.done.injEq, Except.error.injEq,
      HappyEyeballsError.timeout.injEq] at isDone
    rw [← isDone]
    exact Nat.le_sub_of_add_le' (Nat.le_trans isOver isLater)

/-- Every step of the clocked run is a step of the pacer, or none. -/
theorem Follows.step {attempts : List F}
    (follows : Follows delay limit batch pacer clocked)
    (invariant : Invariant limit attempts clocked.state)
    (inTime :
      ∀ future, clocked.state.future = .suspended (.launching future) →
        pacer.InTime patience)
    (step : ClockedStep clocked after) :
    ∃ next, Pacer.Run delay patience pacer next ∧
      Follows delay limit batch next after := by
  cases step with
  | @passes later isLater =>
      rw [follows.now] at isLater
      exact ⟨_, .single (.passes isLater), follows.passes later⟩
  | completes completes =>
      exact ⟨pacer, .refl, follows.completes completes⟩
  | @timesOut _ _ later isSuspended _ reached _ isLater =>
      refine ⟨_, .single (.passes ?_),
        follows.timesOut isSuspended reached isLater⟩
      rwa [← follows.now]
  | @polls _ elapsed sound polled =>
      rcases shape : clocked.state with ⟨set, _ | (future | _) | result⟩
      · have begins := follows.begins
        rw [shape] at begins
        exact (begins rfl).elim
      · have isSuspended :
            clocked.state.future = .suspended (.launching future) := by
          rw [shape]
        exact follows.launches shape (inTime future isSuspended) sound
          (Clocked.poll_launching shape polled)
      · rw [shape] at invariant
        obtain ⟨next, resumed, rfl⟩ := Clocked.poll_suspended shape polled
        obtain ⟨other, same, spec⟩ :=
          set.resume_draining elapsed clocked.now
        cases resumed.symm.trans same
        exact ⟨pacer, .refl, follows.drains shape invariant.1 spec⟩
      · simp [Clocked.poll, shape] at polled

end Steps

/-! ## Clocked runs -/

section Runs

variable {delay limit patience : Option Duration}
  {initialConcurrency : Option Nat} {attempts : List F}

/-- With the clock left out, a step is a step or changes nothing. -/
theorem ClockedStep.step {before after : Clocked F T E}
    (step : ClockedStep before after) :
    after.state = before.state ∨ Step before.state after.state := by
  cases step with
  | passes _ =>
      exact Or.inl rfl
  | completes completes =>
      exact Or.inr (.completes completes)
  | @timesOut _ _ later isSuspended limited _ waiting _ =>
      rcases before with ⟨⟨set, future⟩, now, delayEnds, timeoutEnds⟩
      cases isSuspended
      exact Or.inr (.timesOut (.intro now later limited waiting))
  | @polls _ elapsed _ polled =>
      right
      apply Step.advances
      rcases shape : before.state with ⟨set, _ | point | result⟩
      · simp only [Clocked.poll, shape, Except.ok.injEq] at polled
        rw [← polled]
        exact .begins set before.now
      · obtain ⟨next, resumed, rfl⟩ := Clocked.poll_suspended shape polled
        exact .resumes elapsed before.now resumed
      · simp [Clocked.poll, shape] at polled

theorem ClockedStep.invariant {before after : Clocked F T E}
    (step : ClockedStep before after)
    (invariant : Invariant limit attempts before.state) :
    Invariant limit attempts after.state := by
  rcases step.step with same | step
  · rw [same]
    exact invariant
  · exact invariant.step step

/-- The first batch is started when the future is polled first. -/
theorem follows_of_begins {clocked after : Clocked F T E} {elapsed : Bool}
    (isFresh :
      clocked.state = fresh delay limit initialConcurrency attempts)
    (polled : clocked.poll elapsed = .ok after) :
    Follows delay limit clocked.state.set.firstBatch (.start clocked.now)
      after := by
  have shape := isFresh
  rw [fresh, extend_eq] at shape
  rw [shape]
  simp only [Clocked.poll, shape, Except.ok.injEq] at polled
  rw [← polled]
  refine Follows.awaitNext ?_ rfl ?_
  · refine
      { delay := ?_
        begun := ?_
        pushed := ?_
        returned := Nat.zero_le _ }
    · rw [EyeballSet.delay_awaitNext, EyeballSet.startBatch_eq]
      rfl
    · rw [started_awaitNext, EyeballSet.startBatch_eq]
      rfl
    · rw [EyeballSet.tasks_awaitNext, EyeballSet.startBatch_eq]
      simp [EyeballSet.firstBatch, EyeballSet.new, FuturesUnordered.new,
        Pacer.start]
  · rw [EyeballSet.startBatch_eq]
    simp only [FuturesUnordered.pushed_pushAll, FuturesUnordered.len,
      FuturesUnordered.running_pushAll, List.length_append]
    rcases batch : List.take _ _ with _ | ⟨first, rest⟩
    · exact Or.inl rfl
    · right
      rw [List.length_cons]
      omega

/-- Before the first poll nothing happens but that time passes. -/
theorem ClockedStep.of_fresh {clocked after : Clocked F T E}
    (isFresh :
      clocked.state = fresh delay limit initialConcurrency attempts)
    (step : ClockedStep clocked after) :
    after.state = clocked.state ∨
      ∃ elapsed, clocked.poll elapsed = .ok after := by
  have unstarted : clocked.state.future = .unstarted := by
    rw [isFresh]
    rfl
  have idle : clocked.state.set.tasks.running = [] := by
    rw [isFresh, fresh, extend_eq]
    rfl
  cases step with
  | passes _ =>
      exact Or.inl rfl
  | polls _ polled =>
      exact Or.inr ⟨_, polled⟩
  | timesOut isSuspended _ _ _ _ =>
      rw [unstarted] at isSuspended
      cases isSuspended
  | completes completes =>
      rcases clocked with ⟨state, now, delayEnds, timeoutEnds⟩
      cases completes with
      | intro outcome isRunning =>
          rw [isRunning] at idle
          simp at idle

/-- What a clocked run does, in the terms of a pacer that is at least as patient
as the run. -/
theorem follows_of_run {steps : Clocked F T E → Clocked F T E → Prop}
    {Holds : Clocked F T E → Prop} {now : Instant} {clocked : Clocked F T E}
    (clockedStep :
      ∀ before after, steps before after →
        ClockedStep before after ∧ Holds after)
    (patient :
      ∀ batch pacer clocked future, Holds clocked →
        Follows delay limit batch pacer clocked →
          clocked.state.future = .suspended (.launching future) →
            pacer.InTime patience)
    (run :
      Relation.ReflTransGen steps
        (.initial delay limit initialConcurrency attempts now) clocked) :
    Invariant limit attempts clocked.state ∧
      (clocked.state = fresh delay limit initialConcurrency attempts ∨
        Holds clocked ∧ ∃ begun pacer,
          Pacer.Run delay patience (.start begun) pacer ∧
            Follows delay limit
              (fresh delay limit initialConcurrency attempts :
                Finishing F T E).set.firstBatch pacer clocked) := by
  induction run with
  | refl =>
      exact ⟨invariant_fresh delay limit initialConcurrency attempts,
        Or.inl rfl⟩
  | @tail before after _ step inductionHypothesis =>
      obtain ⟨invariant, progress⟩ := inductionHypothesis
      obtain ⟨step, holds⟩ := clockedStep before after step
      constructor
      · exact step.invariant invariant
      · rcases progress with isFresh | ⟨held, begun, pacer, paced, follows⟩
        · rcases step.of_fresh isFresh with same | ⟨elapsed, polled⟩
          · exact Or.inl (same.trans isFresh)
          · right
            have follows := follows_of_begins isFresh polled
            rw [isFresh] at follows
            exact ⟨holds, _, _, .refl, follows⟩
        · right
          obtain ⟨next, goesOn, followed⟩ :=
            follows.step invariant
              (fun future launching =>
                patient _ pacer before future held follows launching)
              step
          exact ⟨holds, begun, next, paced.trans goesOn, followed⟩

private theorem ClockedRun.run {before after : Clocked F T E}
    (run : ClockedRun before after) : Run before.state after.state := by
  induction run with
  | refl =>
      exact .refl
  | tail _ step inductionHypothesis =>
      rcases step.step with same | step
      · rw [same]
        exact inductionHypothesis
      · exact inductionHypothesis.tail step

theorem OnTimeRun.clockedRun {before after : Clocked F T E}
    (run : OnTimeRun before after) : ClockedRun before after :=
  Relation.ReflTransGen.mono (fun _ _ step => step.1) _ _ run

end Runs

/-! ## Main result -/

/-- Nothing comes too early while a set is finished. -/
structure NotEarly (set : EyeballSet F T E) (clocked : Clocked F T E) :
    Prop where
  /-- Without a delay, attempts are started only in return for failures, once
  the first batch has been, or one attempt if that is empty. -/
  unpaced :
    set.delay = none →
      clocked.state.set.tasks.pushed.length ≤
        max set.firstBatch 1 + failures clocked.state.set
  /-- With a delay, it has passed for each of the further attempts. -/
  paced :
    ∀ pause begun, set.delay = some pause →
      clocked.state.set.started = some begun →
        begun +
            (clocked.state.set.tasks.pushed.length -
              (max set.firstBatch 1 + failures clocked.state.set)) * pause ≤
          clocked.now
  timedOut :
    ∀ elapsed, clocked.state.future = .done (.error (.timeout elapsed)) →
      ∃ limit, set.timeout = some limit ∧ limit ≤ elapsed

/-- Nothing comes too late while a set is finished. -/
structure NotLate (set : EyeballSet F T E) (clocked : Clocked F T E) :
    Prop where
  batch :
    ∀ begun, clocked.state.set.started = some begun →
      set.firstBatch ≤ clocked.state.set.tasks.pushed.length
  /-- An attempt that is still to be started has not waited for longer than the
  delays of the attempts from the first batch up to it. -/
  paced :
    ∀ pause begun point position, set.delay = some pause →
      clocked.state.set.started = some begun →
        clocked.state.future = .suspended point →
          clocked.state.set.tasks.pushed.length ≤ position →
            position < set.queue.length →
              clocked.now ≤
                begun + (position + 1 - set.firstBatch) * pause
  timeout :
    ∀ limit begun point, set.timeout = some limit →
      clocked.state.set.started = some begun →
        clocked.state.future = .suspended point →
          clocked.now ≤ begun + limit

section Bounds

variable {delay limit patience : Option Duration} {pacer : Pacer}
  {set : EyeballSet F T E} {clocked : Clocked F T E}

private theorem Follows.notEarly
    (follows : Follows set.delay set.timeout set.firstBatch pacer clocked)
    (invariant : Pacer.Invariant set.delay patience pacer) :
    NotEarly set clocked := by
  have pushed := follows.set.pushed
  have returned := follows.set.returned
  refine
    { unpaced := ?_
      paced := ?_
      timedOut := follows.timedOut }
  · intro noDelay
    have notDue := invariant.unpaced noDelay
    omega
  · intro pause begun hasDelay hasBegun
    cases follows.set.begun.symm.trans hasBegun
    have due :
        clocked.state.set.tasks.pushed.length -
            (max set.firstBatch 1 + failures clocked.state.set) ≤
          pacer.due := by
      omega
    calc
      pacer.begun + _ * pause ≤ pacer.begun + pacer.due * pause :=
        Nat.add_le_add_left (Nat.mul_le_mul_right pause due) _
      _ ≤ pacer.last := invariant.paced pause hasDelay
      _ ≤ pacer.now := invariant.order.2
      _ = clocked.now := follows.now.symm

/-- A set that is on time keeps what its pacer promises. -/
theorem Follows.inTime {batch : Nat} {future : F}
    (follows : Follows delay limit batch pacer clocked)
    (onTime : OnTime clocked)
    (launching : clocked.state.future = .suspended (.launching future)) :
    pacer.InTime delay := by
  intro longest promised
  rw [← follows.now]
  apply onTime.1
  rw [follows.delayEnds future launching, promised]
  rfl

private theorem Follows.notLate
    (follows : Follows set.delay set.timeout set.firstBatch pacer clocked)
    (invariant : Pacer.Invariant set.delay set.delay pacer)
    (accounts : Invariant set.timeout set.queue clocked.state)
    (onTime : OnTime clocked) : NotLate set clocked := by
  have pushed := follows.set.pushed
  refine
    { batch := ?_
      paced := ?_
      timeout := ?_ }
  · intro begun hasBegun
    omega
  · intro pause begun point position hasDelay hasBegun isSuspended waits
      isAttempt
    cases follows.set.begun.symm.trans hasBegun
    cases point with
    | launching future =>
        have soon :=
          (follows.inTime onTime isSuspended).le_succ_mul hasDelay
            (invariant.patient pause hasDelay)
        have count :
            pacer.returned + pacer.due + 1 ≤
              position + 1 - set.firstBatch := by
          omega
        calc
          clocked.now = pacer.now := follows.now
          _ ≤ pacer.begun + (pacer.returned + pacer.due + 1) * pause := soon
          _ ≤ pacer.begun + (position + 1 - set.firstBatch) * pause :=
            Nat.add_le_add_left (Nat.mul_le_mul_right pause count) _
    | draining =>
        -- All attempts have been started.
        rcases clocked with ⟨⟨finished, future⟩, now, delayEnds, timeoutEnds⟩
        cases isSuspended
        have order := accounts.1.order
        rw [accounts.2, List.append_nil, List.append_nil] at order
        rw [← order] at isAttempt
        exact (Nat.not_lt_of_le waits isAttempt).elim
  · intro limit begun point hasLimit hasBegun isSuspended
    cases follows.set.begun.symm.trans hasBegun
    apply onTime.2
    rw [follows.timeoutEnds point isSuspended, hasLimit]
    rfl

end Bounds

section Fresh

variable (delay timeout : Option Duration) (initialConcurrency : Option Nat)
  (attempts : List F)

private theorem delay_fresh :
    (fresh delay timeout initialConcurrency attempts :
      Finishing F T E).set.delay = delay := by
  rw [fresh, extend_eq]
  rfl

private theorem timeout_fresh :
    (fresh delay timeout initialConcurrency attempts :
      Finishing F T E).set.timeout = timeout := by
  rw [fresh, extend_eq]
  rfl

private theorem queue_fresh :
    (fresh delay timeout initialConcurrency attempts :
      Finishing F T E).set.queue = attempts := by
  rw [fresh, extend_eq]
  rfl

variable {delay timeout initialConcurrency attempts} {set : EyeballSet F T E}
  {clocked : Clocked F T E}

/-- Nothing has come too early or too late before the first poll. -/
theorem started_of_fresh
    (isFresh :
      clocked.state = fresh delay timeout initialConcurrency attempts) :
    clocked.state.set.started = none ∧
      clocked.state.set.tasks.pushed = [] ∧
        clocked.state.future = .unstarted := by
  rw [isFresh, fresh, extend_eq]
  exact ⟨rfl, rfl, rfl⟩

private theorem notEarly_of_fresh
    (isFresh :
      clocked.state = fresh delay timeout initialConcurrency attempts) :
    NotEarly set clocked := by
  obtain ⟨notStarted, nonePushed, unstarted⟩ := started_of_fresh isFresh
  refine
    { unpaced := ?_
      paced := ?_
      timedOut := ?_ }
  · intro _
    rw [nonePushed]
    exact Nat.zero_le _
  · intro pause begun _ hasBegun
    rw [notStarted] at hasBegun
    cases hasBegun
  · intro elapsed isDone
    rw [unstarted] at isDone
    cases isDone

private theorem notLate_of_fresh
    (isFresh :
      clocked.state = fresh delay timeout initialConcurrency attempts) :
    NotLate set clocked := by
  obtain ⟨notStarted, _, _⟩ := started_of_fresh isFresh
  have absurd :
      ∀ begun, clocked.state.set.started ≠ some begun := by
    rw [notStarted]
    exact nofun
  exact
    { batch := fun begun hasBegun => (absurd begun hasBegun).elim
      paced := fun _ begun _ _ _ hasBegun => (absurd begun hasBegun).elim
      timeout := fun _ begun _ _ hasBegun => (absurd begun hasBegun).elim }

/-- What a run that is on time does, in the terms of a pacer that is as patient
as the delay. -/
theorem follows_of_onTimeRun {now : Instant}
    (run :
      OnTimeRun (.initial delay timeout initialConcurrency attempts now)
        clocked) :
    Invariant timeout attempts clocked.state ∧
      (clocked.state = fresh delay timeout initialConcurrency attempts ∨
        OnTime clocked ∧ ∃ begun pacer,
          Pacer.Run delay delay (.start begun) pacer ∧
            Follows delay timeout
              (fresh delay timeout initialConcurrency attempts :
                Finishing F T E).set.firstBatch pacer clocked) :=
  follows_of_run (fun _ _ step => step)
    (fun _ _ _ _ onTime follows launching => follows.inTime onTime launching)
    run

end Fresh

def firstStarted : Clocked Nat Nat String where
  state := (fresh (some 100) none (some 1) [7, 8]).set.processAll 0
  now := 0
  delayEnds := some 100
  timeoutEnds := none

def secondStarted : Clocked Nat Nat String where
  state := (firstStarted.state.set.start 8).awaitNext 100
  now := 100
  delayEnds := none
  timeoutEnds := none

private theorem secondStarted_onTime :
    OnTimeRun (.initial (some 100) none (some 1) [7, 8] 0)
      secondStarted := by
  let start : Clocked Nat Nat String :=
    .initial (some 100) none (some 1) [7, 8] 0
  have begun : OnTimeRun start firstStarted := by
    refine .single ⟨@ClockedStep.polls _ _ _ _ _ false nofun rfl, ?_, nofun⟩
    intro time isSet
    exact Nat.zero_le time
  have waited : OnTimeRun start { firstStarted with now := 100 } := by
    refine begun.tail ⟨.passes (Nat.zero_le 100), ?_, nofun⟩
    intro time isSet
    cases isSet
    exact Nat.le_refl 100
  refine waited.tail ⟨@ClockedStep.polls _ _ _ _ _ true ?_ rfl, nofun, nofun⟩
  intro _
  exact ⟨100, rfl, Nat.le_refl 100⟩

end HappyEyeballs

end Hyperdriver
