import Hyperdriver.Foundation.Progress
import Hyperdriver.HappyEyeballs.EyeballSet

/-!
# How happy eyeballs finish

The invariant of a run on a fresh set: the attempts that were started, the one
that is held and those in the queue are the attempts in the order in which they
were pushed, every outcome that was yielded is an error, and the first of them
is recorded.  When the run ends, the result is what the outcomes so far call
for, unless the overall timeout elapsed.
-/

namespace Hyperdriver

open Foundation

universe u v w

namespace HappyEyeballs

variable {F : Type u} {T : Type v} {E : Type w}

/-! ## Outcomes in order -/

def successOf (completion : F × Except E T) : Option T :=
  completion.2.toOption

def errorOf (completion : F × Except E T) : Option E :=
  match completion.2 with
  | .ok _ => none
  | .error e => some e

def firstSuccess (completions : List (F × Except E T)) : Option T :=
  completions.findSome? successOf

def firstError (completions : List (F × Except E T)) : Option E :=
  completions.findSome? errorOf

def AllFailed (completions : List (F × Except E T)) : Prop :=
  ∀ completion, completion ∈ completions → ∃ e, completion.2 = .error e

private theorem AllFailed.firstSuccess_eq_none
    {completions : List (F × Except E T)}
    (failed : AllFailed completions) : firstSuccess completions = none := by
  rw [firstSuccess, List.findSome?_eq_none_iff]
  intro completion member
  obtain ⟨e, isError⟩ := failed completion member
  rw [successOf, isError]
  rfl

private theorem AllFailed.concat {completions : List (F × Except E T)}
    (failed : AllFailed completions) (attempt : F) (e : E) :
    AllFailed (completions ++ [(attempt, .error e)]) := by
  intro completion member
  rcases List.mem_append.mp member with earlier | last
  · exact failed completion earlier
  · rw [List.mem_singleton.mp last]
    exact ⟨e, rfl⟩

theorem firstError_concat (completions : List (F × Except E T))
    (attempt : F) (e : E) :
    firstError (completions ++ [(attempt, .error e)]) =
      (firstError completions).or (some e) := by
  rw [firstError, List.findSome?_append]
  rfl

theorem AllFailed.firstError_eq_none_iff
    {completions : List (F × Except E T)} (failed : AllFailed completions) :
    firstError completions = none ↔ completions = [] := by
  constructor
  · intro none
    rw [firstError, List.findSome?_eq_none_iff] at none
    apply List.eq_nil_iff_forall_not_mem.mpr
    intro completion member
    obtain ⟨e, isError⟩ := failed completion member
    have absent := none completion member
    rw [errorOf, isError] at absent
    cases absent
  · intro empty
    rw [empty]
    rfl

/-! ## The invariant -/

/-- The set before it is finished, with the attempts that are held. -/
structure Live (limit : Option Duration) (attempts held : List F)
    (set : EyeballSet F T E) : Prop where
  order : set.tasks.pushed ++ held ++ set.queue = attempts
  failed : AllFailed set.tasks.yielded
  recorded : set.error = (firstError set.tasks.yielded).map .error
  limited : set.timeout = limit

/-- The set after it has been finished. -/
inductive Settled (limit : Option Duration) (attempts : List F)
    (set : EyeballSet F T E) : HappyEyeballsResult T E → Prop
  | succeeded {outcome : T} :
      set.tasks.pushed <+: attempts →
        firstSuccess set.tasks.completions = some outcome →
          Settled limit attempts set (.ok outcome)
  | failed :
      set.tasks.pushed = attempts → set.tasks.running = [] →
        set.tasks.completed = [] → AllFailed set.tasks.yielded →
          Settled limit attempts set
            (.error ((firstError set.tasks.yielded).elim .noProgress .error))
  | timedOut {elapsed : Duration} :
      set.tasks.pushed <+: attempts → limit ≠ none →
        AllFailed set.tasks.yielded →
          Settled limit attempts set (.error (.timeout elapsed))

def Invariant (limit : Option Duration) (attempts : List F) :
    Finishing F T E → Prop
  | ⟨set, .unstarted⟩ => Live limit attempts [] set
  | ⟨set, .suspended (.launching future)⟩ =>
      Live limit attempts [future] set
  | ⟨set, .suspended .draining⟩ =>
      Live limit attempts [] set ∧ set.queue = []
  | ⟨set, .done result⟩ => Settled limit attempts set result

section Steps

variable {limit : Option Duration} {attempts held : List F}
  {set : EyeballSet F T E}

theorem Live.pushed_isPrefixOf (live : Live limit attempts held set) :
    set.tasks.pushed <+: attempts := by
  rw [← live.order, List.append_assoc]
  exact List.prefix_append _ _

private theorem Live.markStarted (live : Live limit attempts held set)
    (now : Instant) : Live limit attempts held (set.markStarted now) :=
  ⟨live.order, live.failed, live.recorded, live.limited⟩

private theorem Live.start {future : F}
    (live : Live limit attempts [future] set) :
    Live limit attempts [] (set.start future) where
  order := by
    have order := live.order
    simpa [EyeballSet.start, FuturesUnordered.push] using order
  failed := live.failed
  recorded := live.recorded
  limited := live.limited

private theorem Live.startBatch (live : Live limit attempts [] set)
    (count : Nat) :
    Live limit attempts [] (set.startBatch count) := by
  rw [set.startBatch_eq]
  have order := live.order
  exact
    { order := by simpa using order
      failed := by simpa using live.failed
      recorded := by simpa using live.recorded
      limited := live.limited }

private theorem Live.awaitNext (live : Live limit attempts [] set)
    (now : Instant) :
    Invariant limit attempts (set.awaitNext now) := by
  have order := live.order
  unfold EyeballSet.awaitNext
  split
  · rename_i future queue hasQueue
    rw [hasQueue] at order
    exact
      { order := by simpa [EyeballSet.markStarted] using order
        failed := live.failed
        recorded := live.recorded
        limited := live.limited }
  · rename_i noQueue
    exact ⟨live.markStarted now, noQueue⟩

/-- An error that is yielded is recorded if it is the first one. -/
theorem Live.fails {attempt : F} {e : E} {rest : List (F × Except E T)}
    (live : Live limit attempts held set)
    (found : set.tasks.completed = (attempt, .error e) :: rest) :
    Live limit attempts held
      { set with
        tasks := set.tasks.yieldFirst found
        error := set.error.or (some (.error e)) } where
  order := live.order
  failed := live.failed.concat attempt e
  recorded := by
    change set.error.or _ =
      (firstError (set.tasks.yielded ++ [(attempt, .error e)])).map .error
    rw [firstError_concat, live.recorded]
    cases firstError set.tasks.yielded with
    | none => rfl
    | some first => rfl
  limited := live.limited

private theorem Live.succeeds {attempt : F} {outcome : T}
    {rest : List (F × Except E T)} (live : Live limit attempts held set)
    (found : set.tasks.completed = (attempt, .ok outcome) :: rest) :
    Settled limit attempts { set with tasks := set.tasks.yieldFirst found }
      (.ok outcome) := by
  refine Settled.succeeded ?_ ?_
  · exact live.pushed_isPrefixOf
  change firstSuccess
    ((set.tasks.yielded ++ [(attempt, .ok outcome)]) ++ rest) = _
  rw [List.append_assoc, firstSuccess, List.findSome?_append]
  have noSuccess := live.failed.firstSuccess_eq_none
  rw [firstSuccess] at noSuccess
  rw [noSuccess]
  rfl

private theorem Live.exhausted (live : Live limit attempts [] set)
    (noQueue : set.queue = []) (none : set.tasks.completed = [])
    (idle : set.tasks.running = []) :
    Settled limit attempts { set with error := Option.none }
      (.error (set.error.getD .noProgress)) := by
  have order := live.order
  rw [noQueue, List.append_nil, List.append_nil] at order
  have settled :
      Settled limit attempts { set with error := Option.none }
        (.error ((firstError set.tasks.yielded).elim .noProgress .error)) :=
    Settled.failed order idle none live.failed
  rw [live.recorded]
  cases found : firstError set.tasks.yielded with
  | none =>
      rw [found] at settled
      exact settled
  | some first =>
      rw [found] at settled
      exact settled

private theorem Live.complete {attempt : F} {before after : List F}
    (live : Live limit attempts held set) (outcome : Except E T)
    (isRunning : set.tasks.running = before ++ attempt :: after) :
    Live limit attempts held
      { set with tasks := set.tasks.complete outcome isRunning } :=
  ⟨live.order, live.failed, live.recorded, live.limited⟩

private theorem Settled.complete {result : HappyEyeballsResult T E}
    {attempt : F}
    {before after : List F} (settled : Settled limit attempts set result)
    (outcome : Except E T)
    (isRunning : set.tasks.running = before ++ attempt :: after) :
    Settled limit attempts
      { set with tasks := set.tasks.complete outcome isRunning } result := by
  cases settled with
  | @succeeded value ordered found =>
      refine Settled.succeeded ?_ ?_
      · exact ordered
      change firstSuccess
        (set.tasks.yielded ++ (set.tasks.completed ++ [(attempt, outcome)])) =
          some value
      rw [FuturesUnordered.completions, firstSuccess] at found
      rw [← List.append_assoc, firstSuccess, List.findSome?_append, found]
      rfl
  | failed _ idle _ _ =>
      rw [idle] at isRunning
      cases List.append_ne_nil_of_right_ne_nil before
        (List.cons_ne_nil attempt after) isRunning.symm
  | timedOut ordered limited failed =>
      exact .timedOut ordered limited failed

end Steps

section Runs

variable {limit : Option Duration} {attempts : List F}
  {before after : Finishing F T E}

private theorem Invariant.completes {attempt : F}
    (invariant : Invariant limit attempts before)
    (completes : Completes attempt before after) :
    Invariant limit attempts after := by
  cases completes with
  | @intro set future _ _ outcome isRunning =>
      rcases future with _ | (held | _) | result
      · exact Live.complete invariant outcome isRunning
      · exact Live.complete invariant outcome isRunning
      · exact ⟨invariant.1.complete outcome isRunning, invariant.2⟩
      · exact Settled.complete invariant outcome isRunning

private theorem Invariant.advances (invariant : Invariant limit attempts before)
    (advances : Advances before after) :
    Invariant limit attempts after := by
  rcases before with ⟨set, _ | (future | _) | result⟩
  · cases advances with
    | begins _ now =>
        have live : Live limit attempts [] set := invariant
        exact (live.startBatch _).awaitNext now
  · obtain ⟨now, spec⟩ := advances.launching
    have live : Live limit attempts [future] set := invariant
    cases spec with
    | waits _ _ =>
        exact live
    | succeeds found =>
        exact live.succeeds found
    | fails found =>
        exact (live.fails found).start.awaitNext now
    | continues _ _ =>
        exact live.start.awaitNext now
  · obtain ⟨now, spec⟩ := advances.draining
    obtain ⟨live, noQueue⟩ := invariant
    cases spec with
    | waits _ _ =>
        exact ⟨live, noQueue⟩
    | succeeds found =>
        exact live.succeeds found
    | fails found =>
        exact ⟨(live.fails found).markStarted now, noQueue⟩
    | exhausted none idle =>
        exact live.exhausted noQueue none idle
  · cases advances

private theorem Invariant.timesOut (invariant : Invariant limit attempts before)
    (timesOut : TimesOut before after) : Invariant limit attempts after := by
  cases timesOut with
  | @intro set point duration now later limited _ =>
      have settled :
          ∀ held, Live limit attempts held set →
            Settled limit attempts set
              (.error (.timeout (later - set.started.getD now))) := by
        intro held live
        have hasLimit : limit ≠ none := by
          rw [← live.limited, limited]
          exact Option.some_ne_none duration
        exact .timedOut live.pushed_isPrefixOf hasLimit live.failed
      cases point with
      | launching future =>
          exact settled [future] invariant
      | draining =>
          exact settled [] invariant.1

theorem Invariant.step (invariant : Invariant limit attempts before)
    (step : Step before after) : Invariant limit attempts after := by
  cases step with
  | completes completes =>
      exact invariant.completes completes
  | advances advances =>
      exact invariant.advances advances
  | timesOut timesOut =>
      exact invariant.timesOut timesOut

theorem Invariant.run (invariant : Invariant limit attempts before)
    (run : Run before after) : Invariant limit attempts after := by
  have preserves :
      Preserves Step
        (Invariant limit attempts : Finishing F T E → Prop) :=
    fun _ _ invariant step => invariant.step step
  exact preserves.run invariant run

end Runs

/-- A fresh set into which the attempts were pushed, before it is finished. -/
def fresh (delay timeout : Option Duration) (initialConcurrency : Option Nat)
    (attempts : List F) : Finishing F T E :=
  ⟨(EyeballSet.new delay timeout initialConcurrency).extend attempts,
    .unstarted⟩

theorem extend_eq (set : EyeballSet F T E) (futures : List F) :
    set.extend futures = { set with queue := set.queue ++ futures } := by
  induction futures generalizing set with
  | nil =>
      simp [EyeballSet.extend]
  | cons first rest inductionHypothesis =>
      change (set.push first).extend rest = _
      rw [inductionHypothesis]
      simp [EyeballSet.push]

theorem invariant_fresh (delay timeout : Option Duration)
    (initialConcurrency : Option Nat) (attempts : List F) :
    Invariant timeout attempts
      (fresh delay timeout initialConcurrency attempts :
        Finishing F T E) := by
  rw [fresh, extend_eq]
  exact
    { order := rfl
      failed := fun _ member => nomatch member
      recorded := rfl
      limited := rfl }

end HappyEyeballs

end Hyperdriver
