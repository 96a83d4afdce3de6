import Hyperdriver.Foundation.Leases
import Hyperdriver.Foundation.Progress
import Mathlib.Algebra.Order.Group.Multiset
import Mathlib.Data.List.Forall2
import Mathlib.Tactic.Abel

/-!
# Calls that reach their service later

A call on a handle gives a future that holds the request for some time, and
passes it on in one of its polls.  Handles are cloned, and futures are polled
and dropped, in any order.

When every poll passes on the request the future holds, or keeps it, then in
every run each request that was called has been passed on once, is still held
by one future, or was held when its future was dropped.
-/

namespace Foundation

universe u v w x

structure Deferring (Handle : Type u) (Request : Type v) (Future : Type w)
    (Sent : Type x) where
  clone : Handle → Handle
  call : Handle → Request → Future × Handle
  /-- One poll: the future, what it sends, and what is left of it. -/
  Polls : Future → List Sent → Option Future → Prop
  held : Future → Option Request

/-- The handles and futures there are, the requests that were called, those
dropped with their futures, and what was sent, from the last one back. -/
structure DeferredWorld (Handle : Type u) (Request : Type v)
    (Future : Type w) (Sent : Type x) where
  handles : List Handle
  futures : List Future
  called : List Request
  dropped : List Request
  sent : List Sent

namespace Deferring

variable {Handle : Type u} {Request : Type v} {Future : Type w}
  {Sent : Type x}

def initial (handle : Handle) : DeferredWorld Handle Request Future Sent where
  handles := [handle]
  futures := []
  called := []
  dropped := []
  sent := []

inductive Step (deferring : Deferring Handle Request Future Sent) :
    DeferredWorld Handle Request Future Sent →
      DeferredWorld Handle Request Future Sent → Prop
  | clones {world : DeferredWorld Handle Request Future Sent}
      {handle : Handle} :
      handle ∈ world.handles →
      Step deferring world
        { world with handles := world.handles ++ [deferring.clone handle] }
  | calls {world : DeferredWorld Handle Request Future Sent}
      {earlier later : List Handle} {handle : Handle} {request : Request} :
      world.handles = earlier ++ handle :: later →
      Step deferring world
        { world with
          handles := earlier ++ (deferring.call handle request).2 :: later
          futures := (deferring.call handle request).1 :: world.futures
          called := request :: world.called }
  | polls {world : DeferredWorld Handle Request Future Sent}
      {earlier later : List Future} {future : Future} {sent : List Sent}
      {left : Option Future} :
      world.futures = earlier ++ future :: later →
      deferring.Polls future sent left →
      Step deferring world
        { world with
          futures := earlier ++ left.toList ++ later
          sent := sent ++ world.sent }
  | drops {world : DeferredWorld Handle Request Future Sent}
      {earlier later : List Future} {future : Future} :
      world.futures = earlier ++ future :: later →
      Step deferring world
        { world with
          futures := earlier ++ later
          dropped := (deferring.held future).toList ++ world.dropped }

def Run (deferring : Deferring Handle Request Future Sent)
    (handle : Handle) :
    DeferredWorld Handle Request Future Sent → Prop :=
  Relation.ReflTransGen deferring.Step (initial handle)

/-- A poll keeps the request that is held, passes it on, or has none. -/
inductive Passes (Forwards : Request → Sent → Prop) :
    Option Request → List Sent → Option Request → Prop
  | keeps {request : Request} :
      Passes Forwards (some request) [] (some request)
  | forwards {request : Request} {sent : Sent} :
      Forwards request sent → Passes Forwards (some request) [sent] none
  | empty : Passes Forwards none [] none

theorem Passes.imp {Forwards Other : Request → Sent → Prop}
    {before after : Option Request} {sent : List Sent}
    (weaker : ∀ request sent, Forwards request sent → Other request sent)
    (passes : Passes Forwards before sent after) :
    Passes Other before sent after := by
  cases passes with
  | keeps => exact .keeps
  | forwards forwarded => exact .forwards (weaker _ _ forwarded)
  | empty => exact .empty

/-- Calls give futures that hold their request, and polls pass it on. -/
structure Lawful (deferring : Deferring Handle Request Future Sent)
    (HandleOk : Handle → Prop) (FutureOk : Future → Prop)
    (Forwards : Request → Sent → Prop) : Prop where
  clone : ∀ handle, HandleOk handle → HandleOk (deferring.clone handle)
  call :
    ∀ handle request, HandleOk handle →
      HandleOk (deferring.call handle request).2 ∧
        FutureOk (deferring.call handle request).1 ∧
          deferring.held (deferring.call handle request).1 = some request
  polls :
    ∀ future sent left, FutureOk future → deferring.Polls future sent left →
      (∀ next, left = some next → FutureOk next) ∧
        Passes Forwards (deferring.held future) sent
          (left.bind deferring.held)

/-- Every request called was sent once, or is held, or was dropped. -/
def Accounts (deferring : Deferring Handle Request Future Sent)
    (Forwards : Request → Sent → Prop)
    (world : DeferredWorld Handle Request Future Sent) : Prop :=
  ∃ answered, List.Forall₂ Forwards answered world.sent ∧
    (world.called : Multiset Request) =
      answered + world.futures.filterMap deferring.held + world.dropped

/-- What was sent are the requests that were passed on, transformed. -/
theorem Accounts.exists_map {deferring : Deferring Handle Request Future Sent}
    {transform : Request → Sent}
    {world : DeferredWorld Handle Request Future Sent}
    (accounts :
      deferring.Accounts (fun request sent => transform request = sent)
        world) :
    ∃ answered : List Request, world.sent = answered.map transform ∧
      (world.called : Multiset Request) =
        answered + world.futures.filterMap deferring.held +
          world.dropped := by
  obtain ⟨answered, forwarded, account⟩ := accounts
  have same : List.Forall₂ Eq (answered.map transform) world.sent :=
    List.forall₂_map_left_iff.mpr forwarded
  rw [List.forall₂_eq_eq_eq] at same
  exact ⟨answered, same.symm, account⟩

structure Invariant (deferring : Deferring Handle Request Future Sent)
    (HandleOk : Handle → Prop) (FutureOk : Future → Prop)
    (Forwards : Request → Sent → Prop)
    (world : DeferredWorld Handle Request Future Sent) : Prop where
  handles : ∀ handle, handle ∈ world.handles → HandleOk handle
  futures : ∀ future, future ∈ world.futures → FutureOk future
  accounts : deferring.Accounts Forwards world

variable {deferring : Deferring Handle Request Future Sent}
  {HandleOk : Handle → Prop} {FutureOk : Future → Prop}
  {Forwards : Request → Sent → Prop}

/-- The requests held by futures, around one of them and by itself. -/
theorem held_split (held : Future → Option Request)
    (earlier later : List Future) (future : Option Future) :
    ((earlier ++ future.toList ++ later).filterMap held :
        Multiset Request) =
      (future.bind held).toList + (earlier ++ later).filterMap held := by
  have own : future.toList.filterMap held = (future.bind held).toList := by
    rcases future with _ | future
    · rfl
    · rcases isHeld : held future with _ | request
      · simp [isHeld]
      · simp [isHeld]
  simp only [List.filterMap_append, own, ← Multiset.coe_add]
  abel

theorem held_cons (held : Future → Option Request)
    (earlier later : List Future) (future : Future) :
    ((earlier ++ future :: later).filterMap held : Multiset Request) =
      (held future).toList + (earlier ++ later).filterMap held := by
  have split := held_split held earlier later (some future)
  rw [Option.toList_some, List.append_assoc, List.singleton_append,
    Option.bind_some] at split
  exact split

theorem accounts_polls {world : DeferredWorld Handle Request Future Sent}
    {earlier later : List Future} {future : Future} {sent : List Sent}
    {left : Option Future}
    (accounts : deferring.Accounts Forwards world)
    (split : world.futures = earlier ++ future :: later)
    (passes :
      Passes Forwards (deferring.held future) sent
        (left.bind deferring.held)) :
    deferring.Accounts Forwards
      { world with
        futures := earlier ++ left.toList ++ later
        sent := sent ++ world.sent } := by
  obtain ⟨answered, forwarded, account⟩ := accounts
  have before := held_cons deferring.held earlier later future
  rw [← split] at before
  have after := held_split deferring.held earlier later left
  rw [before] at account
  generalize deferring.held future = held at passes account
  generalize left.bind deferring.held = kept at passes after
  cases passes with
  | keeps =>
      exact ⟨answered, forwarded, by rw [account, after]⟩
  | @forwards request one isForwarded =>
      refine ⟨request :: answered, .cons isForwarded forwarded, ?_⟩
      rw [account, after, ← Multiset.cons_coe, ← Multiset.singleton_add]
      simp only [Option.toList_some, Option.toList_none,
        Multiset.coe_singleton, Multiset.coe_nil]
      abel
  | empty =>
      exact ⟨answered, forwarded, by rw [account, after]⟩

theorem accounts_drops {world : DeferredWorld Handle Request Future Sent}
    {earlier later : List Future} {future : Future}
    (accounts : deferring.Accounts Forwards world)
    (split : world.futures = earlier ++ future :: later) :
    deferring.Accounts Forwards
      { world with
        futures := earlier ++ later
        dropped := (deferring.held future).toList ++ world.dropped } := by
  obtain ⟨answered, forwarded, account⟩ := accounts
  have before := held_cons deferring.held earlier later future
  rw [← split] at before
  refine ⟨answered, forwarded, ?_⟩
  rw [account, before, ← Multiset.coe_add]
  abel

/-- One step keeps the invariant. -/
theorem Lawful.preserves
    (lawful : deferring.Lawful HandleOk FutureOk Forwards) :
    Preserves deferring.Step
      (deferring.Invariant HandleOk FutureOk Forwards) := by
  intro before after invariant step
  cases step with
  | @clones handle member =>
      refine ⟨?_, invariant.futures, invariant.accounts⟩
      intro other isHandle
      rcases List.mem_append.mp isHandle with earlier | new
      · exact invariant.handles other earlier
      · rw [List.mem_singleton.mp new]
        exact lawful.clone handle (invariant.handles handle member)
  | @calls earlier later handle request split =>
      have handles := invariant.handles
      rw [split] at handles
      obtain ⟨leftOk, futureOk, isHeld⟩ :=
        lawful.call handle request
          (handles handle List.mem_append_cons_self)
      refine ⟨?_, ?_, ?_⟩
      · refine forall_mem_replaced [_] handles ?_
        intro other isLeft
        rw [List.mem_singleton.mp isLeft]
        exact leftOk
      · intro future member
        rcases List.mem_cons.mp member with rfl | earlier
        · exact futureOk
        · exact invariant.futures future earlier
      · obtain ⟨answered, forwarded, account⟩ := invariant.accounts
        refine ⟨answered, forwarded, ?_⟩
        simp only [List.filterMap_cons, isHeld]
        rw [← Multiset.cons_coe, ← Multiset.cons_coe, account,
          ← Multiset.singleton_add, ← Multiset.singleton_add]
        abel
  | @polls earlier later future sent left split polled =>
      have futures := invariant.futures
      rw [split] at futures
      obtain ⟨leftOk, passes⟩ :=
        lawful.polls future sent left
          (futures future List.mem_append_cons_self) polled
      refine ⟨invariant.handles, ?_,
        accounts_polls invariant.accounts split passes⟩
      rw [List.append_assoc]
      refine forall_mem_replaced _ futures ?_
      intro other isLeft
      exact leftOk other (Option.mem_toList.mp isLeft)
  | @drops earlier later future split =>
      have futures := invariant.futures
      rw [split] at futures
      exact ⟨invariant.handles, forall_mem_replaced [] futures nofun,
        accounts_drops invariant.accounts split⟩

/-- In every run, each request that was called was passed on once, is held by a
future, or was dropped with it. -/
theorem Run.invariant (lawful : deferring.Lawful HandleOk FutureOk Forwards)
    {handle : Handle} (handleOk : HandleOk handle)
    {world : DeferredWorld Handle Request Future Sent}
    (run : deferring.Run handle world) :
    deferring.Invariant HandleOk FutureOk Forwards world := by
  apply lawful.preserves.run _ run
  refine ⟨?_, ?_, [], .nil, rfl⟩
  · intro other member
    rw [List.mem_singleton.mp member]
    exact handleOk
  · intro future member
    cases member

end Deferring

end Foundation
