import Hyperdriver.Foundation.Progress
import Hyperdriver.Foundation.SwapLedger

/-!
# Wrappers that swap clones in

`SwapWrapper` describes a wrapper by which instances its operations poll, clone
and call.  If each call of a handle of the wrapper follows an answer of that
handle that it is ready, then each call on an instance follows such an answer of
that instance, whenever the futures of the calls are polled.
-/

namespace Foundation

universe u v w

structure SwapWrapper (Handle : Type u) (Request : Type v)
    (Future : Type w) where
  held : Handle → Nat
  /-- A clone of the handle, with an instance that gets the number. -/
  clone : Nat → Handle → Handle
  /-- The instance that is polled, and the handle after it. -/
  pollReady : Handle → Nat × Handle
  /-- The clone of the instance gets the number. -/
  call : Nat → Handle → Request → Future × Handle
  /-- The instances that were called when the future was made. -/
  called : Future → List Nat
  /-- The instance that the future is still to call. -/
  waits : Future → Option Nat
  /-- The future is polled and calls the instances. -/
  Polls : Future → List Nat → Future → Prop
  held_clone : ∀ copy handle, held (clone copy handle) = copy
  pollReady_fst : ∀ handle, (pollReady handle).1 = held handle
  held_pollReady : ∀ handle, held (pollReady handle).2 = held handle
  held_call : ∀ copy handle request, held (call copy handle request).2 = copy
  called_call :
    ∀ copy handle request,
      Deferral (some (held handle)) (called (call copy handle request).1)
        (waits (call copy handle request).1)
  polls :
    ∀ before calls after, Polls before calls after →
      Deferral (waits before) calls (waits after)

/-- Handles and futures, without those that were dropped. -/
structure SwapWorld (Handle : Type u) (Future : Type w) where
  handles : List (Option Handle)
  futures : List (Option Future)
  services : Nat
  trace : List SwapEvent

section Worlds

variable {Handle : Type u} {Request : Type v} {Future : Type w}

def SwapWorld.handle (world : SwapWorld Handle Future) (index : Nat) :
    Option Handle :=
  world.handles[index]?.join

def SwapWorld.future (world : SwapWorld Handle Future) (index : Nat) :
    Option Future :=
  world.futures[index]?.join

variable (wrapper : SwapWrapper Handle Request Future)

/-- One handle, with an instance that nothing has happened to. -/
def SwapWorld.initial (start : Handle) : SwapWorld Handle Future where
  handles := [some start]
  futures := []
  services := wrapper.held start + 1
  trace := []

inductive SwapStep :
    SwapWorld Handle Future → SwapWorld Handle Future → Prop
  | clone {world : SwapWorld Handle Future} {source : Nat} {handle : Handle}
      (found : world.handle source = some handle) :
      SwapStep world
        { world with
          handles :=
            world.handles ++ [some (wrapper.clone world.services handle)]
          services := world.services + 1
          trace :=
            .handleCloned source world.handles.length ::
              .serviceCloned world.services :: world.trace }
  | pollReady {world : SwapWorld Handle Future} {index : Nat}
      {handle : Handle} (found : world.handle index = some handle)
      (ready : Bool) :
      SwapStep world
        { world with
          handles :=
            world.handles.set index (some (wrapper.pollReady handle).2)
          trace :=
            .polled index (wrapper.pollReady handle).1 ready :: world.trace }
  | call {world : SwapWorld Handle Future} {index : Nat} {handle : Handle}
      (found : world.handle index = some handle) (request : Request) :
      SwapStep world
        { world with
          handles :=
            world.handles.set index
              (some (wrapper.call world.services handle request).2)
          futures :=
            world.futures ++
              [some (wrapper.call world.services handle request).1]
          services := world.services + 1
          trace :=
            recordCalls world.futures.length
              (wrapper.called (wrapper.call world.services handle request).1)
              (.called index world.futures.length ::
                .serviceCloned world.services :: world.trace) }
  | pollFuture {world : SwapWorld Handle Future} {index : Nat}
      {before after : Future} {calls : List Nat}
      (found : world.future index = some before)
      (polls : wrapper.Polls before calls after) :
      SwapStep world
        { world with
          futures := world.futures.set index (some after)
          trace := recordCalls index calls world.trace }
  | dropHandle {world : SwapWorld Handle Future} (index : Nat) :
      SwapStep world
        { world with handles := world.handles.set index none }
  | dropFuture {world : SwapWorld Handle Future} (index : Nat) :
      SwapStep world
        { world with futures := world.futures.set index none }

/-- The finite runs from one handle. -/
def SwapRun (start : Handle) : SwapWorld Handle Future → Prop :=
  Relation.ReflTransGen (SwapStep wrapper) (.initial wrapper start)

def SwapWrapper.owned (handles : List (Option Handle))
    (futures : List (Option Future)) : SwapOwner → Option Nat
  | .handle index => handles[index]?.join.map wrapper.held
  | .future index => futures[index]?.join.bind wrapper.waits

/-- Calls on instances are justified, handles mirror their instances, and no two
handles or futures own the same instance. -/
structure SwapSound (world : SwapWorld Handle Future) : Prop where
  calls : CallsJustified world.trace
  mirrors :
    ∀ index handle, world.handle index = some handle →
      HandleMirrors world.trace index (wrapper.held handle)
  alone :
    ∀ left right service,
      wrapper.owned world.handles world.futures left = some service →
        wrapper.owned world.handles world.futures right = some service →
          left = right

def SwapWrapper.KeepsReadiness : Prop :=
  ∀ (start : Handle) (world : SwapWorld Handle Future),
    SwapRun wrapper start world →
      RespectsHandles world.trace → SwapSound wrapper world

/-! ## The ledger of a world -/

section Lists

variable {α : Type u}

theorem join_getElem?_concat (values : List (Option α)) (last : Option α)
    (index : Nat) :
    (values ++ [last])[index]?.join =
      if index = values.length then last else values[index]?.join := by
  rcases Nat.lt_trichotomy index values.length with old | new | beyond
  · rw [List.getElem?_append_left old, if_neg (Nat.ne_of_lt old)]
  · rw [if_pos new, new, List.getElem?_concat_length]
    rfl
  · have longer : (values ++ [last]).length ≤ index := by
      rw [List.length_append, List.length_singleton]
      exact beyond
    rw [if_neg (Nat.ne_of_gt beyond), List.getElem?_eq_none longer,
      List.getElem?_eq_none (Nat.le_of_lt beyond)]

theorem join_getElem?_set {values : List (Option α)} {index : Nat}
    (inRange : index < values.length) (value : Option α) (other : Nat) :
    (values.set index value)[other]?.join =
      if other = index then value else values[other]?.join := by
  rw [List.getElem?_set]
  by_cases same : index = other
  · subst same
    rw [if_pos rfl, if_pos inRange, if_pos rfl]
    rfl
  · rw [if_neg same, if_neg fun equal => same equal.symm]

theorem lt_length_of_join {values : List (Option α)} {index : Nat} {value : α}
    (found : values[index]?.join = some value) : index < values.length := by
  by_contra beyond
  rw [List.getElem?_eq_none (Nat.not_lt.mp beyond)] at found
  cases found

end Lists

section Owned

variable {handles : List (Option Handle)} {futures : List (Option Future)}

theorem owned_concat_handle (last : Option Handle) :
    wrapper.owned (handles ++ [last]) futures =
      Function.update (wrapper.owned handles futures)
        (.handle handles.length) (last.map wrapper.held) := by
  funext owner
  cases owner with
  | handle index =>
      simp only [SwapWrapper.owned, join_getElem?_concat, Function.update,
        SwapOwner.handle.injEq]
      split <;> simp [*]
  | future index =>
      rw [Function.update_of_ne (by simp)]
      rfl

theorem owned_set_handle {index : Nat} (inRange : index < handles.length)
    (value : Option Handle) :
    wrapper.owned (handles.set index value) futures =
      Function.update (wrapper.owned handles futures) (.handle index)
        (value.map wrapper.held) := by
  funext owner
  cases owner with
  | handle other =>
      simp only [SwapWrapper.owned, join_getElem?_set inRange,
        Function.update, SwapOwner.handle.injEq]
      split <;> simp [*]
  | future other =>
      rw [Function.update_of_ne (by simp)]
      rfl

theorem owned_concat_future (last : Option Future) :
    wrapper.owned handles (futures ++ [last]) =
      Function.update (wrapper.owned handles futures)
        (.future futures.length) (last.bind wrapper.waits) := by
  funext owner
  cases owner with
  | handle index =>
      rw [Function.update_of_ne (by simp)]
      rfl
  | future index =>
      simp only [SwapWrapper.owned, join_getElem?_concat, Function.update,
        SwapOwner.future.injEq]
      split <;> simp [*]

theorem owned_set_future {index : Nat} (inRange : index < futures.length)
    (value : Option Future) :
    wrapper.owned handles (futures.set index value) =
      Function.update (wrapper.owned handles futures) (.future index)
        (value.bind wrapper.waits) := by
  funext owner
  cases owner with
  | handle other =>
      rw [Function.update_of_ne (by simp)]
      rfl
  | future other =>
      simp only [SwapWrapper.owned, join_getElem?_set inRange,
        Function.update, SwapOwner.future.injEq]
      split <;> simp [*]

end Owned

def SwapWorld.Balanced (world : SwapWorld Handle Future) : Prop :=
  Ledger (wrapper.owned world.handles world.futures) world.handles.length
    world.futures.length world.services world.trace

theorem respectsHandles_recordCalls {future : Nat} {calls : List Nat}
    {trace : List SwapEvent} :
    RespectsHandles (recordCalls future calls trace) ↔
      RespectsHandles trace := by
  induction calls generalizing trace with
  | nil =>
      exact Iff.rfl
  | cons first rest inductionHypothesis =>
      exact inductionHypothesis

theorem respectsHandles_of_step {before after : SwapWorld Handle Future}
    (step : SwapStep wrapper before after)
    (respects : RespectsHandles after.trace) :
    RespectsHandles before.trace := by
  cases step with
  | clone _ => exact respects
  | pollReady _ _ => exact respects
  | call _ _ => exact (respectsHandles_recordCalls.mp respects).2
  | pollFuture _ _ => exact respectsHandles_recordCalls.mp respects
  | dropHandle _ => exact respects
  | dropFuture _ => exact respects

section Steps

variable {world : SwapWorld Handle Future}

theorem owned_handle {index : Nat} {handle : Handle}
    (found : world.handle index = some handle) :
    wrapper.owned world.handles world.futures (.handle index) =
      some (wrapper.held handle) :=
  congrArg (Option.map wrapper.held) found

theorem owned_future {index : Nat} {future : Future}
    (found : world.future index = some future) :
    wrapper.owned world.handles world.futures (.future index) =
      wrapper.waits future :=
  congrArg (Option.bind · wrapper.waits) found

/-- Polling a handle changes the owner of no instance. -/
theorem owned_pollReady {index : Nat} {handle : Handle}
    (found : world.handle index = some handle) :
    wrapper.owned
        (world.handles.set index (some (wrapper.pollReady handle).2))
        world.futures =
      wrapper.owned world.handles world.futures := by
  have isHeld := owned_handle wrapper found
  rw [owned_set_handle wrapper (lt_length_of_join found), Option.map_some,
    wrapper.held_pollReady, ← isHeld, Function.update_eq_self]

/-- The new future is the owner of the instance that the handle had, unless it
has called or dropped it. -/
theorem SwapWorld.Balanced.call (balanced : world.Balanced wrapper)
    {index : Nat} {handle : Handle}
    (found : world.handle index = some handle) (request : Request)
    (ready : HandleReady world.trace index) :
    Ledger
      (Function.update
        (Function.update (wrapper.owned world.handles world.futures)
          (.handle index) (some world.services))
        (.future world.futures.length)
        (wrapper.waits (wrapper.call world.services handle request).1))
      world.handles.length (world.futures.length + 1) (world.services + 1)
      (recordCalls world.futures.length
        (wrapper.called (wrapper.call world.services handle request).1)
        (.called index world.futures.length ::
          .serviceCloned world.services :: world.trace)) := by
  have known := lt_length_of_join found
  have isHeld := owned_handle wrapper found
  have moved := Ledger.call balanced known isHeld ready
  have deferral := wrapper.called_call world.services handle request
  rw [← Function.update_self (SwapOwner.future world.futures.length)
    (some (wrapper.held handle))
    (Function.update (wrapper.owned world.handles world.futures)
      (.handle index) (some world.services))] at deferral
  have deferred := moved.defer (Nat.lt_succ_self _) deferral
  rw [Function.update_idem] at deferred
  exact deferred

end Steps

theorem SwapWorld.Balanced.step {before after : SwapWorld Handle Future}
    (balanced : before.Balanced wrapper)
    (step : SwapStep wrapper before after)
    (respects : RespectsHandles after.trace) : after.Balanced wrapper := by
  unfold SwapWorld.Balanced
  cases step with
  | @clone source handle found =>
      have cloned := Ledger.cloneHandle balanced (lt_length_of_join found)
      rw [owned_concat_handle, Option.map_some, wrapper.held_clone,
        List.length_append]
      exact cloned
  | @pollReady index handle found ready =>
      have known := lt_length_of_join found
      have isHeld := owned_handle wrapper found
      rw [owned_pollReady wrapper found, List.length_set,
        wrapper.pollReady_fst]
      exact Ledger.poll balanced known isHeld ready
  | @call index handle found request =>
      have known := lt_length_of_join found
      have ready : HandleReady before.trace index :=
        (respectsHandles_recordCalls.mp respects).1
      have called := balanced.call wrapper found request ready
      rw [owned_concat_future, owned_set_handle wrapper known,
        Option.map_some, wrapper.held_call, List.length_set,
        List.length_append]
      exact called
  | @pollFuture index earlier later calls found polls =>
      have known := lt_length_of_join found
      have waits := owned_future wrapper found
      have deferral := wrapper.polls earlier calls later polls
      rw [← waits] at deferral
      rw [owned_set_future wrapper known, List.length_set]
      exact Ledger.defer balanced known deferral
  | dropHandle index =>
      by_cases known : index < before.handles.length
      · rw [owned_set_handle wrapper known, List.length_set]
        exact Ledger.drop balanced _
      · rw [List.set_eq_of_length_le (Nat.not_lt.mp known)]
        exact balanced
  | dropFuture index =>
      by_cases known : index < before.futures.length
      · rw [owned_set_future wrapper known, List.length_set]
        exact Ledger.drop balanced _
      · rw [List.set_eq_of_length_le (Nat.not_lt.mp known)]
        exact balanced

theorem owned_initial {start : Handle} {owner : SwapOwner} {service : Nat}
    (isOwned :
      wrapper.owned (SwapWorld.initial wrapper start).handles
        (SwapWorld.initial wrapper start).futures owner = some service) :
    owner = .handle 0 ∧ wrapper.held start = service := by
  cases owner with
  | handle index =>
      rcases index with _ | index
      · exact ⟨rfl, Option.some.inj isOwned⟩
      · cases isOwned
  | future index =>
      cases isOwned

theorem balanced_initial (start : Handle) :
    (SwapWorld.initial wrapper start).Balanced wrapper where
  justified := trivial
  below := fun _ member => nomatch member
  distinct :=
    { inRange := by
        intro owner service isOwned
        rw [← (owned_initial wrapper isOwned).2]
        exact Nat.lt_succ_self _
      unique := by
        intro left right service leftOwns rightOwns
        rw [(owned_initial wrapper leftOwns).1,
          (owned_initial wrapper rightOwns).1] }
  mirrors := fun index service _ =>
    HandleMirrors.of_untouched (fun _ ready => ready)
      fun _ member => nomatch member
  awaits := by
    intro index service isOwned
    cases (owned_initial wrapper isOwned).1

theorem SwapWorld.Balanced.sound {world : SwapWorld Handle Future}
    (balanced : world.Balanced wrapper) : SwapSound wrapper world where
  calls := balanced.justified
  mirrors index handle found :=
    balanced.mirrors index (wrapper.held handle)
      (congrArg (Option.map wrapper.held) found)
  alone := balanced.distinct.unique

/-- Every run in which the handles are called when they are ready calls the
instances when they are ready. -/
theorem SwapWrapper.keepsReadiness : wrapper.KeepsReadiness := by
  intro start world run respects
  have preserves :
      Preserves (SwapStep wrapper) fun world =>
        RespectsHandles world.trace → world.Balanced wrapper := by
    intro before after inductionHypothesis step respects
    have earlier := respectsHandles_of_step wrapper step respects
    exact (inductionHypothesis earlier).step wrapper step respects
  have balanced :=
    preserves.run (fun _ => balanced_initial wrapper start) run respects
  exact balanced.sound wrapper

end Worlds

end Foundation
