import Hyperdriver.Foundation.Poll
import Mathlib.Data.List.Perm.Basic

/-!
# Sets of futures

`FuturesUnordered`: futures that run concurrently and whose outputs are yielded
one by one, in the order in which the futures complete.

Besides the futures that run and the outputs that wait to be yielded, a set
keeps its own history, which no operation reads: the futures that were pushed
and the outputs that were yielded.  By construction every pushed future runs or
has completed, and none of them does so twice.
-/

namespace Foundation

universe u v

structure FuturesUnordered (Future : Type u) (Output : Type v) where
  running : List Future
  completed : List (Future × Output)
  pushed : List Future
  yielded : List (Future × Output)
  conserved :
    pushed.Perm (running ++ (yielded ++ completed).map Prod.fst)

namespace FuturesUnordered

variable {Future : Type u} {Output : Type v}

def new : FuturesUnordered Future Output where
  running := []
  completed := []
  pushed := []
  yielded := []
  conserved := List.Perm.refl []

def push (tasks : FuturesUnordered Future Output) (future : Future) :
    FuturesUnordered Future Output where
  running := tasks.running ++ [future]
  completed := tasks.completed
  pushed := tasks.pushed ++ [future]
  yielded := tasks.yielded
  conserved := by
    have last := List.perm_append_singleton future tasks.pushed
    have moved := List.perm_append_singleton future tasks.running
    exact last.trans
      ((tasks.conserved.cons future).trans (moved.symm.append_right _))

def pushAll (tasks : FuturesUnordered Future Output)
    (futures : List Future) : FuturesUnordered Future Output :=
  futures.foldl push tasks

/-- The number of futures that run or wait to be yielded. -/
def len (tasks : FuturesUnordered Future Output) : Nat :=
  tasks.running.length + tasks.completed.length

/-- All futures that have completed, in the order in which they did. -/
def completions (tasks : FuturesUnordered Future Output) :
    List (Future × Output) :=
  tasks.yielded ++ tasks.completed

def yieldFirst (tasks : FuturesUnordered Future Output)
    {first : Future × Output} {rest : List (Future × Output)}
    (found : tasks.completed = first :: rest) :
    FuturesUnordered Future Output where
  running := tasks.running
  completed := rest
  pushed := tasks.pushed
  yielded := tasks.yielded ++ [first]
  conserved := by
    have conserved := tasks.conserved
    rw [found] at conserved
    rwa [List.append_assoc, List.singleton_append]

theorem completions_yieldFirst (tasks : FuturesUnordered Future Output)
    {first : Future × Output} {rest : List (Future × Output)}
    (found : tasks.completed = first :: rest) :
    (tasks.yieldFirst found).completions = tasks.completions := by
  simp only [completions, yieldFirst, found, List.append_assoc,
    List.singleton_append]

/-- Poll for the output of the future that completed first. -/
def pollNext (tasks : FuturesUnordered Future Output) :
    Poll (Option Output) × FuturesUnordered Future Output :=
  match found : tasks.completed with
  | (_, output) :: _ => (.ready (some output), tasks.yieldFirst found)
  | [] =>
      match tasks.running with
      | [] => (.ready none, tasks)
      | _ :: _ => (.pending, tasks)

/-- One of the running futures completes. -/
def complete (tasks : FuturesUnordered Future Output)
    {before after : List Future} {future : Future} (output : Output)
    (isRunning : tasks.running = before ++ future :: after) :
    FuturesUnordered Future Output where
  running := before ++ after
  completed := tasks.completed ++ [(future, output)]
  pushed := tasks.pushed
  yielded := tasks.yielded
  conserved := by
    have conserved := tasks.conserved
    have front :
        tasks.running.Perm (future :: (before ++ after)) := by
      rw [isRunning]
      exact List.perm_middle
    rw [← List.append_assoc, List.map_append, ← List.append_assoc]
    apply conserved.trans
    apply (front.append_right _).trans
    exact (List.perm_append_singleton future _).symm

/-- Everything a poll can do. -/
inductive PollNext (tasks : FuturesUnordered Future Output) :
    Poll (Option Output) → FuturesUnordered Future Output → Prop
  | yields {future : Future} {output : Output}
      {rest : List (Future × Output)}
      (found : tasks.completed = (future, output) :: rest) :
      PollNext tasks (.ready (some output)) (tasks.yieldFirst found)
  | empty :
      tasks.completed = [] → tasks.running = [] →
        PollNext tasks (.ready none) tasks
  | waits :
      tasks.completed = [] → tasks.running ≠ [] →
        PollNext tasks .pending tasks

theorem pollNext_spec (tasks : FuturesUnordered Future Output) :
    PollNext tasks tasks.pollNext.1 tasks.pollNext.2 := by
  unfold pollNext
  split
  · rename_i found
    exact .yields found
  · rename_i none
    split
    · rename_i idle
      exact .empty none idle
    · rename_i busy
      apply PollNext.waits none
      rw [busy]
      exact List.cons_ne_nil _ _

theorem pollNext_pending_iff (tasks : FuturesUnordered Future Output) :
    tasks.pollNext.1 = .pending ↔
      tasks.completed = [] ∧ tasks.running ≠ [] := by
  have spec := tasks.pollNext_spec
  generalize tasks.pollNext.1 = answer at spec ⊢
  generalize tasks.pollNext.2 = after at spec
  cases spec with
  | yields found =>
      simp [found]
  | empty none idle =>
      simp [idle]
  | waits none busy =>
      simp [none, busy]

section PushAll

variable (tasks : FuturesUnordered Future Output) (futures : List Future)

/-- A list that a push appends to. -/
theorem pushAll_appends (field : FuturesUnordered Future Output → List Future)
    (appends :
      ∀ tasks future, field (tasks.push future) = field tasks ++ [future]) :
    field (tasks.pushAll futures) = field tasks ++ futures := by
  induction futures generalizing tasks with
  | nil =>
      exact (List.append_nil _).symm
  | cons first rest inductionHypothesis =>
      have later := inductionHypothesis (tasks.push first)
      rw [appends, List.append_assoc, List.singleton_append] at later
      exact later

/-- What a push leaves alone. -/
theorem pushAll_keeps {Content : Type*}
    (field : FuturesUnordered Future Output → Content)
    (keeps : ∀ tasks future, field (tasks.push future) = field tasks) :
    field (tasks.pushAll futures) = field tasks := by
  induction futures generalizing tasks with
  | nil =>
      rfl
  | cons first rest inductionHypothesis =>
      exact (inductionHypothesis (tasks.push first)).trans (keeps tasks first)

@[simp]
theorem running_pushAll :
    (tasks.pushAll futures).running = tasks.running ++ futures := by
  apply pushAll_appends
  exact fun _ _ => rfl

@[simp]
theorem pushed_pushAll :
    (tasks.pushAll futures).pushed = tasks.pushed ++ futures := by
  apply pushAll_appends
  exact fun _ _ => rfl

@[simp]
theorem completed_pushAll :
    (tasks.pushAll futures).completed = tasks.completed := by
  apply pushAll_keeps
  exact fun _ _ => rfl

@[simp]
theorem yielded_pushAll :
    (tasks.pushAll futures).yielded = tasks.yielded := by
  apply pushAll_keeps
  exact fun _ _ => rfl

end PushAll

end FuturesUnordered

end Foundation
