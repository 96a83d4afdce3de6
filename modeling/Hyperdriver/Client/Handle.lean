import Hyperdriver.Foundation.Instances
import Mathlib.Data.List.Perm.Subperm
import Mathlib.Data.List.Perm.Basic

/-!
# Handles of a client

A `Client` is a shared pointer to a `ClientRef`, which owns an instance of the
client's service.  Cloning a client shares the pointer.  To poll the service or
to issue a request the `ClientRef` is made unique first, with a clone of the
service if it was shared.  A request takes the instance out of the `ClientRef`,
leaves a clone in its place, and runs on the instance in a future of its own.

The state of the model is that of all clients that descend from one: the
`ClientRef`s, the handles that point to them, and the futures of the requests.
-/

namespace Hyperdriver

open Foundation

universe u v w

namespace Client

/-! ## State -/

structure ClientRef where
  service : Nat
  deriving DecidableEq, Repr

/-- All that descends from one client.  A handle or a future that has been
dropped is `none`; a `ClientRef` to which no handle points has been freed. -/
structure ClientState (Request : Type u) where
  instances : Nat
  refs : List ClientRef
  handles : List (Option Nat)
  futures : List (Option (Oneshot Request))
  history : List InstanceEvent

/-- What is done with a handle or a future, with the answers that the service
gives when it is polled. -/
inductive ClientOp (Request : Type u) (Response : Type v) (Error : Type w)
    where
  | clone (handle : Nat)
  | drop (handle : Nat)
  | intoInner (handle : Nat)
  | pollReady (handle : Nat) (ready : Poll (Except Error Unit))
  | call (handle : Nat) (request : Request)
  | request (handle : Nat) (request : Request)
  | pollFuture (future : Nat) (ready : Poll (Except Error Unit))
      (response : Poll (Except Error Response))
  | dropFuture (future : Nat)

def ClientOp.IsOn {Request : Type u} {Response : Type v} {Error : Type w}
    (future : Nat) : ClientOp Request Response Error → Prop
  | .pollFuture polled _ _ => polled = future
  | .dropFuture dropped => dropped = future
  | _ => False

def isReady {Error : Type w} : Poll (Except Error Unit) → Bool
  | .ready (.ok ()) => true
  | _ => false

namespace ClientState

variable {Request : Type u} {Response : Type v} {Error : Type w}

/-- `Client::new_from_service`. -/
def new : ClientState Request where
  instances := 1
  refs := [⟨0⟩]
  handles := [some 0]
  futures := []
  history := []

def cloneService (service : Nat) (state : ClientState Request) :
    Nat × ClientState Request :=
  (state.instances,
    { state with
      instances := state.instances + 1
      history := .cloned service state.instances :: state.history })

/-- The `ClientRef` of a handle and its place. -/
def find (handle : Nat) (state : ClientState Request) :
    Option (Nat × ClientRef) :=
  match state.handles[handle]? with
  | some (some place) =>
      match state.refs[place]? with
      | some ref => some (place, ref)
      | none => none
  | _ => none

/-- No other handle points to the place. -/
def IsUnique (place : Nat) (state : ClientState Request) : Prop :=
  state.handles.count (some place) = 1

instance (place : Nat) (state : ClientState Request) :
    Decidable (state.IsUnique place) :=
  inferInstanceAs (Decidable (_ = _))

/-- `Arc::make_mut`: a shared `ClientRef` is cloned for the handle. -/
def makeMut (handle : Nat) (state : ClientState Request) :
    Option (Nat × ClientRef × ClientState Request) :=
  match state.find handle with
  | none => none
  | some (place, ref) =>
      if state.IsUnique place then
        some (place, ref, state)
      else
        let (copy, cloned) := state.cloneService ref.service
        some (state.refs.length, ⟨copy⟩,
          { cloned with
            refs := state.refs ++ [⟨copy⟩]
            handles := state.handles.set handle (some state.refs.length) })

/-- `ClientRef::request`: swap a clone in and hand the instance that was there
to a `Oneshot`. -/
def requestAt (place : Nat) (ref : ClientRef) (request : Request)
    (state : ClientState Request) : ClientState Request :=
  let (copy, cloned) := state.cloneService ref.service
  { cloned with
    refs := state.refs.set place ⟨copy⟩
    futures := state.futures ++ [some (.notReady ref.service request)] }

def clone (handle : Nat) (state : ClientState Request) :
    Option (ClientState Request) :=
  (state.find handle).map fun (place, _) =>
    { state with handles := state.handles ++ [some place] }

def drop (handle : Nat) (state : ClientState Request) :
    Option (ClientState Request) :=
  (state.find handle).map fun _ =>
    { state with handles := state.handles.set handle none }

/-- `Client::into_inner`: the caller gets the instance itself when the
`ClientRef` is not shared, and else a clone. -/
def intoInner (handle : Nat) (state : ClientState Request) :
    Option (Nat × ClientState Request) :=
  (state.find handle).map fun (place, ref) =>
    if state.IsUnique place then
      (ref.service,
        { state with handles := state.handles.set handle none })
    else
      let (copy, cloned) := state.cloneService ref.service
      (copy, { cloned with handles := state.handles.set handle none })

def pollReady (handle : Nat) (ready : Poll (Except Error Unit))
    (state : ClientState Request) : Option (ClientState Request) :=
  (state.makeMut handle).map fun (_, ref, state) =>
    { state with
      history := .polled ref.service (isReady ready) :: state.history }

/-- `Client::request`, and `Client::call`. -/
def request (handle : Nat) (request : Request)
    (state : ClientState Request) : Option (ClientState Request) :=
  (state.makeMut handle).map fun (place, ref, state) =>
    state.requestAt place ref request

/-- Poll the future of a request, which is not polled after completion. -/
def pollFuture (future : Nat) (ready : Poll (Except Error Unit))
    (response : Poll (Except Error Response)) (state : ClientState Request) :
    Option (ClientState Request) :=
  match state.futures[future]? with
  | some (some oneshot) =>
      match oneshot.poll ready response state.history with
      | .ok (_, next, history) =>
          some
            { state with
              futures := state.futures.set future (some next)
              history := history }
      | .error _ => none
  | _ => none

def dropFuture (future : Nat) (state : ClientState Request) :
    Option (ClientState Request) :=
  match state.futures[future]? with
  | some (some _) =>
      some { state with futures := state.futures.set future none }
  | _ => none

/-- One operation, unless it is on what is not there any more. -/
def step (state : ClientState Request) :
    ClientOp Request Response Error → Option (ClientState Request)
  | .clone handle => state.clone handle
  | .drop handle => state.drop handle
  | .intoInner handle => (state.intoInner handle).map Prod.snd
  | .pollReady handle ready => state.pollReady handle ready
  | .call handle issued => state.request handle issued
  | .request handle issued => state.request handle issued
  | .pollFuture future ready response =>
      state.pollFuture future ready response
  | .dropFuture future => state.dropFuture future

/-! ## Ownership -/

def futureService (future : Option (Oneshot Request)) : Option Nat :=
  future.bind Oneshot.service

def services (state : ClientState Request) : List Nat :=
  state.refs.map ClientRef.service

def pending (state : ClientState Request) : List Nat :=
  state.futures.filterMap futureService

/-- No instance is held twice, all of them have been numbered, and every call
was made on one that was ready. -/
structure Invariant (state : ClientState Request) : Prop where
  owned : (state.services ++ state.pending).Nodup
  numbered :
    ∀ service, service ∈ state.services ++ state.pending →
      service < state.instances
  respects : RespectsReadiness state.history

private theorem Invariant.new : Invariant (new : ClientState Request) where
  owned := by simp [services, pending, ClientState.new]
  numbered := by simp [services, pending, ClientState.new]
  respects := trivial

theorem Invariant.of_subperm {before after : ClientState Request}
    (invariant : Invariant before)
    (held :
      (after.services ++ after.pending).Subperm
        (before.services ++ before.pending))
    (instances : before.instances ≤ after.instances)
    (respects : RespectsReadiness after.history) :
    Invariant after where
  owned := by
    obtain ⟨kept, same, sublist⟩ := held
    have distinct : kept.Nodup := invariant.owned.sublist sublist
    exact same.nodup distinct
  numbered service member := by
    have earlier := invariant.numbered service (held.subset member)
    omega
  respects := respects

private theorem Invariant.of_clone {before after : ClientState Request}
    (invariant : Invariant before)
    (held :
      (after.services ++ after.pending).Subperm
        (before.instances :: (before.services ++ before.pending)))
    (instances : after.instances = before.instances + 1)
    (respects : RespectsReadiness after.history) :
    Invariant after where
  owned := by
    obtain ⟨kept, same, sublist⟩ := held
    have isNew : before.instances ∉ before.services ++ before.pending := by
      intro member
      have old := invariant.numbered before.instances member
      omega
    have distinct :
        (before.instances :: (before.services ++ before.pending)).Nodup :=
      List.nodup_cons.mpr ⟨isNew, invariant.owned⟩
    have keptDistinct : kept.Nodup := distinct.sublist sublist
    exact same.nodup keptDistinct
  numbered service member := by
    rcases List.mem_cons.mp (held.subset member) with isNew | earlier
    · omega
    · have old := invariant.numbered service earlier
      omega
  respects := respects

/-- What operations other than those on its future leave of a request. -/
structure Frame (before after : ClientState Request) : Prop where
  history :
    Concerns before.history after.history before.services before.instances
  services :
    ∀ service, service ∈ after.services →
      service ∈ before.services ∨ before.instances ≤ service
  instances : before.instances ≤ after.instances
  futures :
    ∀ future, future < before.futures.length →
      after.futures[future]? = before.futures[future]?
  length : before.futures.length ≤ after.futures.length

private theorem Frame.trans {before middle after : ClientState Request}
    (first : Frame before middle) (second : Frame middle after) :
    Frame before after where
  history :=
    first.history.trans second.history first.services first.instances
  services service member := by
    rcases second.services service member with earlier | new
    · exact first.services service earlier
    · have increases := first.instances
      apply Or.inr
      omega
  instances := Nat.le_trans first.instances second.instances
  futures future inRange := by
    have stillInRange : future < middle.futures.length :=
      Nat.lt_of_lt_of_le inRange first.length
    rw [second.futures future stillInRange, first.futures future inRange]
  length := Nat.le_trans first.length second.length

/-! ## One step -/

theorem find_eq {handle place : Nat} {ref : ClientRef}
    {state : ClientState Request}
    (found : state.find handle = some (place, ref)) :
    state.handles[handle]? = some (some place) ∧
      state.refs[place]? = some ref := by
  unfold find at found
  split at found
  · rename_i pointed
    split at found
    · rename_i present
      cases found
      exact ⟨pointed, present⟩
    · cases found
  · cases found

theorem service_mem {place : Nat} {ref : ClientRef}
    {state : ClientState Request} (present : state.refs[place]? = some ref) :
    ref.service ∈ state.services :=
  List.mem_map_of_mem (List.mem_of_getElem? present)

private theorem frame_of_handles {state : ClientState Request}
    (handles : List (Option Nat)) :
    Frame state { state with handles } where
  history := Concerns.refl _ _ _
  services _ member := Or.inl member
  instances := Nat.le_refl _
  futures _ _ := rfl
  length := Nat.le_refl _

private theorem Invariant.of_handles {state : ClientState Request}
    (invariant : Invariant state) (handles : List (Option Nat)) :
    Invariant { state with handles } :=
  invariant.of_subperm (List.Subperm.refl _) (Nat.le_refl _)
    invariant.respects

theorem cloneService_spec {service : Nat} {state : ClientState Request}
    (invariant : Invariant state) (member : service ∈ state.services) :
    Invariant (state.cloneService service).2 ∧
      Frame state (state.cloneService service).2 := by
  constructor
  · exact invariant.of_subperm (List.Subperm.refl _) (Nat.le_succ _)
      invariant.respects
  · exact
      { history := (Concerns.refl _ _ _).cons fun other about => by
          simp only [InstanceEvent.instances, List.mem_cons,
            List.not_mem_nil, or_false] at about
          rcases about with rfl | rfl
          · exact Or.inl member
          · exact Or.inr (Nat.le_refl _)
        services := fun _ => Or.inl
        instances := Nat.le_succ _
        futures := fun _ _ => rfl
        length := Nat.le_refl _ }

private theorem makeMut_spec {handle place : Nat} {ref : ClientRef}
    {before after : ClientState Request} (invariant : Invariant before)
    (made : before.makeMut handle = some (place, ref, after)) :
    Invariant after ∧ Frame before after ∧ after.refs[place]? = some ref := by
  unfold makeMut at made
  split at made
  · cases made
  · rename_i oldPlace oldRef found
    obtain ⟨_, present⟩ := find_eq found
    split at made
    · cases made
      exact ⟨invariant, frame_of_handles before.handles, present⟩
    · cases made
      have cloned := (cloneService_spec invariant (service_mem present)).2
      refine ⟨?_, ?_, List.getElem?_concat_length⟩
      · refine invariant.of_clone ?_ rfl invariant.respects
        simp only [services, pending, List.map_append, List.map_cons,
          List.map_nil, List.append_assoc]
        exact List.perm_middle.subperm
      · exact
          { history := cloned.history
            services := fun service member => by
              simp only [services, List.map_append, List.mem_append,
                List.map_cons, List.map_nil, List.mem_singleton] at member
              rcases member with earlier | rfl
              · exact Or.inl earlier
              · exact Or.inr (Nat.le_refl _)
            instances := cloned.instances
            futures := cloned.futures
            length := cloned.length }

private theorem requestAt_held {place : Nat} {ref : ClientRef}
    {issued : Request}
    {state : ClientState Request} (present : state.refs[place]? = some ref) :
    ((state.requestAt place ref issued).services ++
        (state.requestAt place ref issued).pending).Perm
      (state.instances :: (state.services ++ state.pending)) := by
  obtain ⟨inRange, isRef⟩ := List.getElem?_eq_some_iff.mp present
  have before :
      state.services.Perm
        (ref.service ::
          (state.refs.eraseIdx place).map ClientRef.service) := by
    have moved := (List.getElem_cons_eraseIdx_perm inRange).symm
    rw [isRef] at moved
    exact moved.map ClientRef.service
  have after :
      (state.requestAt place ref issued).services.Perm
        (state.instances ::
          (state.refs.eraseIdx place).map ClientRef.service) :=
    (List.set_perm_cons_eraseIdx inRange ⟨state.instances⟩).map
      ClientRef.service
  have futures :
      (state.requestAt place ref issued).pending =
        state.pending ++ [ref.service] := by
    simp [pending, requestAt, cloneService, futureService, Oneshot.service]
  have moved :
      ((state.refs.eraseIdx place).map ClientRef.service ++
          (state.pending ++ [ref.service])).Perm
        (state.services ++ state.pending) := by
    rw [← List.append_assoc]
    exact (List.perm_append_singleton _ _).trans
      (before.append_right _).symm
  rw [futures]
  exact (after.append_right _).trans (moved.cons _)

private theorem requestAt_spec {place : Nat} {ref : ClientRef}
    {issued : Request}
    {state : ClientState Request} (invariant : Invariant state)
    (present : state.refs[place]? = some ref) :
    Invariant (state.requestAt place ref issued) ∧
      Frame state (state.requestAt place ref issued) := by
  have cloned := (cloneService_spec invariant (service_mem present)).2
  constructor
  · exact invariant.of_clone (requestAt_held present).subperm rfl
      invariant.respects
  · exact
      { history := cloned.history
        services := fun service member => by
          obtain ⟨held, isHeld, rfl⟩ := List.mem_map.mp member
          rcases List.mem_or_eq_of_mem_set isHeld with earlier | rfl
          · exact Or.inl (List.mem_map_of_mem earlier)
          · exact Or.inr (Nat.le_refl _)
        instances := cloned.instances
        futures := fun _ inRange => List.getElem?_append_left inRange
        length := by simp [requestAt, cloneService] }

private theorem request_spec {handle : Nat} {issued : Request}
    {before after : ClientState Request} (invariant : Invariant before)
    (stepped : before.request handle issued = some after) :
    Invariant after ∧ Frame before after := by
  obtain ⟨⟨place, ref, middle⟩, made, rfl⟩ :=
    Option.map_eq_some_iff.mp stepped
  obtain ⟨unique, frame, present⟩ := makeMut_spec invariant made
  obtain ⟨requested, later⟩ := requestAt_spec unique present
  exact ⟨requested, frame.trans later⟩

/-- An operation on a handle keeps the invariant and the futures. -/
theorem handleOp_spec {before after : ClientState Request}
    {op : ClientOp Request Response Error} (invariant : Invariant before)
    (stepped : before.step op = some after)
    (onHandle : ∀ future, ¬ op.IsOn future) :
    Invariant after ∧ Frame before after := by
  cases op with
  | clone handle =>
      obtain ⟨_, _, rfl⟩ := Option.map_eq_some_iff.mp stepped
      exact ⟨invariant.of_handles _, frame_of_handles _⟩
  | drop handle =>
      obtain ⟨_, _, rfl⟩ := Option.map_eq_some_iff.mp stepped
      exact ⟨invariant.of_handles _, frame_of_handles _⟩
  | intoInner handle =>
      obtain ⟨_, taken, rfl⟩ := Option.map_eq_some_iff.mp stepped
      obtain ⟨⟨place, ref⟩, found, rfl⟩ := Option.map_eq_some_iff.mp taken
      obtain ⟨_, present⟩ := find_eq found
      dsimp only
      split
      · exact ⟨invariant.of_handles _, frame_of_handles _⟩
      · obtain ⟨cloned, frame⟩ :=
          cloneService_spec invariant (service_mem present)
        exact ⟨cloned.of_handles _, frame.trans (frame_of_handles _)⟩
  | pollReady handle ready =>
      obtain ⟨⟨place, ref, middle⟩, made, rfl⟩ :=
        Option.map_eq_some_iff.mp stepped
      obtain ⟨unique, frame, present⟩ := makeMut_spec invariant made
      have isHeld : ref.service ∈ middle.services := service_mem present
      refine ⟨unique.of_subperm (List.Subperm.refl _) (Nat.le_refl _)
        unique.respects, frame.trans ?_⟩
      exact
        { history := (Concerns.refl _ _ _).cons fun service about => by
            rw [List.mem_singleton.mp about]
            exact Or.inl isHeld
          services := fun _ => Or.inl
          instances := Nat.le_refl _
          futures := fun _ _ => rfl
          length := Nat.le_refl _ }
  | call handle issued =>
      exact request_spec invariant stepped
  | request handle issued =>
      exact request_spec invariant stepped
  | pollFuture future ready response =>
      exact (onHandle future rfl).elim
  | dropFuture future =>
      exact (onHandle future rfl).elim

private theorem service_mem_pending {state : ClientState Request} {future : Nat}
    {oneshot : Oneshot Request} {service : Nat}
    (present : state.futures[future]? = some (some oneshot))
    (runsOn : oneshot.service = some service) :
    service ∈ state.pending :=
  List.mem_filterMap.mpr
    ⟨some oneshot, List.mem_of_getElem? present, runsOn⟩

/-- A future that keeps its instance or gives it up adds nothing to what is
held. -/
theorem setFuture_held {state : ClientState Request} {future : Nat}
    {oneshot : Oneshot Request} {next : Option (Oneshot Request)}
    (present : state.futures[future]? = some (some oneshot))
    (kept :
      futureService next = oneshot.service ∨ futureService next = none) :
    ((state.futures.set future next).filterMap futureService).Subperm
      state.pending := by
  obtain ⟨inRange, isOneshot⟩ := List.getElem?_eq_some_iff.mp present
  have before :
      state.pending.Perm
        ((some oneshot :: state.futures.eraseIdx future).filterMap
          futureService) := by
    have moved := (List.getElem_cons_eraseIdx_perm inRange).symm
    rw [isOneshot] at moved
    exact moved.filterMap futureService
  have after :
      ((state.futures.set future next).filterMap futureService).Perm
        ((next :: state.futures.eraseIdx future).filterMap futureService) :=
    (List.set_perm_cons_eraseIdx inRange next).filterMap futureService
  have smaller :
      ((next :: state.futures.eraseIdx future).filterMap
          futureService).Sublist
        ((some oneshot :: state.futures.eraseIdx future).filterMap
          futureService) := by
    have same : futureService (some oneshot) = oneshot.service := rfl
    rw [List.filterMap_cons, List.filterMap_cons, same]
    rcases kept with keeps | givesUp
    · rw [keeps]
    · rw [givesUp]
      cases oneshot.service with
      | none => exact List.Sublist.refl _
      | some service => exact List.sublist_cons_self _ _
  exact after.subperm.trans (smaller.subperm.trans before.symm.subperm)

/-- An operation on a future is about the instance of that future only. -/
structure FutureFrame (future : Nat) (before after : ClientState Request) :
    Prop where
  history :
    ∃ oneshot, before.futures[future]? = some (some oneshot) ∧
      Concerns before.history after.history oneshot.service.toList
        before.instances
  futures :
    ∀ other, other ≠ future →
      after.futures[other]? = before.futures[other]?

private theorem pollFuture_spec {future : Nat}
    {ready : Poll (Except Error Unit)}
    {response : Poll (Except Error Response)}
    {before after : ClientState Request} (invariant : Invariant before)
    (stepped : before.pollFuture future ready response = some after) :
    Invariant after ∧ FutureFrame future before after := by
  unfold pollFuture at stepped
  split at stepped
  · rename_i oneshot present
    split at stepped
    · rename_i answer next history polled
      obtain ⟨service, runsOn, keeps, respects, concerns⟩ :=
        Oneshot.poll_spec polled before.instances
      cases stepped
      have kept :
          futureService (some next) = oneshot.service ∨
            futureService (some next) = none := by
        rw [runsOn]
        exact keeps
      constructor
      · apply invariant.of_subperm
        · apply (List.subperm_append_left _).mpr
          exact setFuture_held present kept
        · exact Nat.le_refl _
        · exact respects invariant.respects
      · refine ⟨⟨oneshot, present, ?_⟩, ?_⟩
        · rw [runsOn]
          exact concerns
        · intro other different
          exact List.getElem?_set_ne (Ne.symm different)
    · cases stepped
  · cases stepped

private theorem dropFuture_spec {future : Nat}
    {before after : ClientState Request}
    (invariant : Invariant before)
    (stepped : before.dropFuture future = some after) :
    Invariant after ∧ FutureFrame future before after := by
  unfold dropFuture at stepped
  split at stepped
  · rename_i oneshot present
    cases stepped
    constructor
    · apply invariant.of_subperm
      · apply (List.subperm_append_left _).mpr
        exact setFuture_held present (Or.inr rfl)
      · exact Nat.le_refl _
      · exact invariant.respects
    · refine ⟨⟨oneshot, present, Concerns.refl _ _ _⟩, ?_⟩
      intro other different
      exact List.getElem?_set_ne (Ne.symm different)
  · cases stepped

private theorem step_invariant {before after : ClientState Request}
    {op : ClientOp Request Response Error} (invariant : Invariant before)
    (stepped : before.step op = some after) : Invariant after := by
  cases op with
  | pollFuture future ready response =>
      exact (pollFuture_spec invariant stepped).1
  | dropFuture future =>
      exact (dropFuture_spec invariant stepped).1
  | _ =>
      exact (handleOp_spec invariant stepped fun _ => id).1

/-! ## A request on its own -/

/-- No handle and no other future has the instance. -/
structure OwnedAlone (state : ClientState Request) (future service : Nat) :
    Prop where
  handles :
    ∀ handle place ref,
      state.find handle = some (place, ref) → ref.service ≠ service
  futures :
    ∀ other oneshot, other ≠ future →
      state.futures[other]? = some (some oneshot) →
        oneshot.service ≠ some service

/-- Between two states the future is the same, and nothing has happened to the
instance. -/
structure Untouched (future service : Nat)
    (before after : ClientState Request) : Prop where
  future : after.futures[future]? = before.futures[future]?
  history :
    ∃ events, after.history = events ++ before.history ∧
      ∀ event, event ∈ events → service ∉ event.instances

section Requests

variable {state after : ClientState Request} {future service : Nat}
  {oneshot : Oneshot Request}

private theorem Invariant.service_not_mem (invariant : Invariant state)
    (present : state.futures[future]? = some (some oneshot))
    (runsOn : oneshot.service = some service) :
    service ∉ state.services := by
  intro member
  have disjoint := (List.nodup_append.mp invariant.owned).2.2
  have isPending : service ∈ state.pending :=
    service_mem_pending present runsOn
  exact disjoint service member service isPending rfl

private theorem Invariant.other_future (invariant : Invariant state)
    (present : state.futures[future]? = some (some oneshot))
    (runsOn : oneshot.service = some service)
    {other : Nat} {otherOneshot : Oneshot Request}
    (different : other ≠ future)
    (otherPresent : state.futures[other]? = some (some otherOneshot)) :
    otherOneshot.service ≠ some service := by
  intro sameService
  have distinct :=
    List.pairwise_filterMap.mp (List.nodup_append.mp invariant.owned).2.1
  rw [List.pairwise_iff_getElem] at distinct
  obtain ⟨inRange, isOneshot⟩ := List.getElem?_eq_some_iff.mp present
  obtain ⟨otherRange, isOther⟩ := List.getElem?_eq_some_iff.mp otherPresent
  have holds : futureService state.futures[future] = some service := by
    rw [isOneshot]
    exact runsOn
  have otherHolds : futureService state.futures[other] = some service := by
    rw [isOther]
    exact sameService
  rcases Nat.lt_or_gt_of_ne different with before | behind
  · exact distinct other future otherRange inRange before service otherHolds
      service holds rfl
  · exact distinct future other inRange otherRange behind service holds
      service otherHolds rfl

private theorem Invariant.ownedAlone (invariant : Invariant state)
    (present : state.futures[future]? = some (some oneshot))
    (runsOn : oneshot.service = some service) :
    OwnedAlone state future service where
  handles _ _ _ found same :=
    invariant.service_not_mem present runsOn
      (same ▸ service_mem (find_eq found).2)
  futures _ _ different otherPresent :=
    invariant.other_future present runsOn different otherPresent

private theorem Invariant.lt_of_runsOn (invariant : Invariant state)
    (present : state.futures[future]? = some (some oneshot))
    (runsOn : oneshot.service = some service) :
    service < state.instances := by
  apply invariant.numbered
  apply List.mem_append_right
  exact service_mem_pending present runsOn

private theorem Invariant.untouched_of_futureFrame {polled : Nat}
    (invariant : Invariant state)
    (present : state.futures[future]? = some (some oneshot))
    (runsOn : oneshot.service = some service) (different : future ≠ polled)
    (frame : FutureFrame polled state after) :
    Untouched future service state after := by
  obtain ⟨other, otherPresent, concerns⟩ := frame.history
  have notPolled : service ∉ other.service.toList := by
    rw [Option.mem_toList]
    exact invariant.other_future present runsOn (Ne.symm different)
      otherPresent
  have old : service < state.instances :=
    invariant.lt_of_runsOn present runsOn
  exact ⟨frame.futures future different, concerns.untouched notPolled old⟩

private theorem Invariant.untouched_of_frame (invariant : Invariant state)
    (present : state.futures[future]? = some (some oneshot))
    (runsOn : oneshot.service = some service) (frame : Frame state after) :
    Untouched future service state after := by
  have inRange : future < state.futures.length :=
    (List.getElem?_eq_some_iff.mp present).1
  have notHeld : service ∉ state.services :=
    invariant.service_not_mem present runsOn
  have old : service < state.instances :=
    invariant.lt_of_runsOn present runsOn
  exact ⟨frame.futures future inRange, frame.history.untouched notHeld old⟩

private theorem Invariant.untouched_of_step (invariant : Invariant state)
    (present : state.futures[future]? = some (some oneshot))
    (runsOn : oneshot.service = some service)
    {op : ClientOp Request Response Error} (notOn : ¬ op.IsOn future)
    (stepped : state.step op = some after) :
    Untouched future service state after := by
  cases op with
  | pollFuture polled ready response =>
      exact invariant.untouched_of_futureFrame present runsOn
        (fun same => notOn same.symm) (pollFuture_spec invariant stepped).2
  | dropFuture dropped =>
      exact invariant.untouched_of_futureFrame present runsOn
        (fun same => notOn same.symm) (dropFuture_spec invariant stepped).2
  | _ =>
      exact invariant.untouched_of_frame present runsOn
        (handleOp_spec invariant stepped fun _ => id).2

end Requests

/-! ## All runs -/

/-- The states that operations on the handles and futures of one client
reach. -/
inductive Reachable (Response : Type v) (Error : Type w) :
    ClientState Request → Prop
  | new :
      Reachable Response Error .new
  | step {before after : ClientState Request}
      {op : ClientOp Request Response Error} :
      Reachable Response Error before →
      before.step op = some after →
      Reachable Response Error after

private theorem Reachable.invariant {state : ClientState Request}
    (reachable : Reachable Response Error state) : Invariant state := by
  induction reachable with
  | new =>
      exact Invariant.new
  | step _ stepped inductionHypothesis =>
      exact step_invariant inductionHypothesis stepped

/-- However handles are cloned, polled and called, every call is made on an
instance that was polled ready, and a request alone has the instance it runs on
until its future is polled again or dropped. -/
theorem reachable_respects_readiness {state : ClientState Request}
    (reachable : Reachable Response Error state) :
    RespectsReadiness state.history ∧
      ∀ future oneshot service,
        state.futures[future]? = some (some oneshot) →
          oneshot.service = some service →
            OwnedAlone state future service ∧
              ∀ (op : ClientOp Request Response Error)
                (after : ClientState Request),
                ¬ op.IsOn future → state.step op = some after →
                  Untouched future service state after := by
  have invariant := reachable.invariant
  refine ⟨invariant.respects, ?_⟩
  intro future oneshot service present runsOn
  refine ⟨invariant.ownedAlone present runsOn, ?_⟩
  intro op after notOn stepped
  exact invariant.untouched_of_step present runsOn notOn stepped

/-- The client is polled until it is ready and then cloned, and the handle that
was polled issues a request. -/
def polledThenCloned : ClientState Unit where
  instances := 3
  refs := [⟨0⟩, ⟨2⟩]
  handles := [some 1, some 0]
  futures := [some (.notReady 1 ())]
  history := [.cloned 1 2, .cloned 0 1, .polled 0 true]

/-- The future of the request finds its instance ready and calls it. -/
def polledAndCalled : ClientState Unit :=
  { polledThenCloned with
    futures := [some (.called 1)]
    history := .called 1 :: .polled 1 true :: polledThenCloned.history }

private theorem polledThenCloned_reachable :
    Reachable Unit Empty polledThenCloned := by
  have polled :
      (new : ClientState Unit).step
          (.pollReady 0 (.ready (.ok ())) : ClientOp Unit Unit Empty) =
        some { new with history := [.polled 0 true] } :=
    rfl
  have cloned :
      ClientState.step { new with history := [.polled 0 true] }
          (.clone 0 : ClientOp Unit Unit Empty) =
        some
          { new with
            handles := [some 0, some 0]
            history := [.polled 0 true] } :=
    rfl
  have called :
      ClientState.step
          { new with
            handles := [some 0, some 0]
            history := [.polled 0 true] }
          (.call 0 () : ClientOp Unit Unit Empty) =
        some polledThenCloned :=
    rfl
  exact .step (.step (.step .new polled) cloned) called

private theorem polledAndCalled_reachable :
    Reachable Unit Empty polledAndCalled := by
  have polled :
      polledThenCloned.step
          (.pollFuture 0 (.ready (.ok ())) .pending :
            ClientOp Unit Unit Empty) =
        some polledAndCalled :=
    rfl
  exact .step polledThenCloned_reachable polled

/-- The request runs on the clone that was made for its handle, which is not
ready before it is polled itself; the instance that was polled stays with the
other handle. -/
theorem reachable_respects_readiness_polledThenCloned :
    OwnedAlone polledThenCloned 0 1 ∧
      ¬ ReadyIn polledThenCloned.history 1 ∧
        polledThenCloned.find 1 = some (0, ⟨0⟩) ∧
          OwnedAlone polledAndCalled 0 1 ∧
            .called 1 ∈ polledAndCalled.history ∧
              RespectsReadiness polledAndCalled.history := by
  have waiting :=
    (reachable_respects_readiness polledThenCloned_reachable).2 0 _ 1 rfl rfl
  obtain ⟨respects, owned⟩ :=
    reachable_respects_readiness polledAndCalled_reachable
  have calling := owned 0 _ 1 rfl rfl
  exact ⟨waiting.1, nofun, rfl, calling.1, List.mem_cons_self, respects⟩

end ClientState

end Client

end Hyperdriver
