import Hyperdriver.Foundation.SharedServices
import Hyperdriver.Service.SwapReadiness

/-!
# Requests that hyper serves

For hyper, the service of a connection is a `TowerHyperService`, which hyper
calls by reference.  Each call clones the service, and its future owns the
clone.  So the service of a connection is never called itself, and each clone of
it at most once; what `ConnectionWithInfo` gives to its first call only, every
request gets.
-/

namespace Hyperdriver

open Foundation Service

universe u v w x y z

namespace Bridge

/-- `TowerHyperService`. -/
structure TowerHyperService (S : Type u) where
  service : S

/-- `TowerHyperFuture`, with the `Oneshot` of the clone and the request. -/
structure TowerHyperFuture (S : Type u) (Request : Type v)
    (Future : Type w) where
  future : OwnedCall S Request Future

/-- `call(&self, req)`: the service stays as it is. -/
def TowerHyperService.call {S : Type u} {Request : Type v} {Future : Type w}
    (clone : S → S) (self : TowerHyperService S) (request : Request) :
    TowerHyperFuture S Request Future where
  future := .notReady (clone self.service) request

def TowerHyperFuture.poll {World : Type x} {S : Type u} {Request : Type v}
    {Future : Type w} {Response : Type y} {Error : Type z}
    (hosting : Hosting World S Request Future Response Error) (world : World)
    (self : TowerHyperFuture S Request Future) :
    Checked
      (Poll (Except Error Response) × TowerHyperFuture S Request Future ×
        World) :=
  (self.future.poll hosting world).map fun (answer, future, world) =>
    (answer, ⟨future⟩, world)

end Bridge

namespace Service

/-- `IncomingRequestService`. -/
structure IncomingRequestService (S : Type u) where
  inner : S

namespace IncomingRequestService

variable {S : Type u} {Authority : Type v} {Extensions : Type w}
  {Incoming : Type x} {Body : Type y} {Future : Type z}

def clone (cloneInner : S → S) (self : IncomingRequestService S) :
    IncomingRequestService S where
  inner := cloneInner self.inner

def pollReady {Answer : Type*} (pollInner : S → Answer × S)
    (self : IncomingRequestService S) : Answer × IncomingRequestService S :=
  let (answer, inner) := pollInner self.inner
  (answer, { inner })

/-- The body of the request is converted. -/
def call (fromIncoming : Incoming → Body)
    (callInner :
      S → Request Authority Extensions Body → Future × S)
    (self : IncomingRequestService S)
    (request : Request Authority Extensions Incoming) :
    Future × IncomingRequestService S :=
  let (future, inner) := callInner self.inner (request.map fromIncoming)
  (future, { inner })

end IncomingRequestService

/-- `IncomingRequestService` around another wrapper. -/
def incomingRequests {Handle Authority Extensions Incoming Body Future : Type}
    (fromIncoming : Incoming → Body)
    (wrapper :
      SwapWrapper Handle (Request Authority Extensions Body) Future) :
    SwapWrapper (IncomingRequestService Handle)
      (Request Authority Extensions Incoming) Future where
  held self := wrapper.held self.inner
  clone copy := IncomingRequestService.clone (wrapper.clone copy)
  pollReady := IncomingRequestService.pollReady wrapper.pollReady
  call copy := IncomingRequestService.call fromIncoming (wrapper.call copy)
  called := wrapper.called
  waits := wrapper.waits
  Polls := wrapper.Polls
  held_clone copy self := wrapper.held_clone copy self.inner
  pollReady_fst self := wrapper.pollReady_fst self.inner
  held_pollReady self := wrapper.held_pollReady self.inner
  held_call copy self request :=
    wrapper.held_call copy self.inner (request.map fromIncoming)
  called_call copy self request :=
    wrapper.called_call copy self.inner (request.map fromIncoming)
  polls := wrapper.polls

end Service

namespace Server

open Bridge

/-! ## hyper's steps -/

section Steps

variable {Handle Request Future : Type}
  {wrapper : SwapWrapper Handle Request Future}
  {world : SharedWorld Handle Request Future}

/-- A call by hyper is a step of the server. -/
theorem sharedStep_of_call {shared : Handle} (request : Request)
    (found : world.host.swap.handle 0 = some shared) :
    SharedStep wrapper world
      { world with
        host :=
          { world.host with
            swap := world.host.swap.cloned wrapper 0 shared }
        tasks :=
          (TowerHyperService.call
            (fun _ => world.host.swap.handles.length) ⟨0⟩ request).future ::
              world.tasks
        requests := request :: world.requests } :=
  .asks found

/-- A poll by hyper is a step of the server. -/
theorem sharedStep_of_poll {earlier later : List (OwnedCall Nat Request Nat)}
    {self next : TowerHyperFuture Nat Request Nat} {Response Error : Type}
    {answers : SharedAnswers Future Response Error}
    {answer : Poll (Except Error Response)}
    {host : SharedHost Handle Request Future}
    (split : world.tasks = earlier ++ self.future :: later)
    (lawful : answers.Lawful wrapper)
    (polled :
      self.poll (SharedHost.hosting wrapper answers) world.host =
        .ok (answer, next, host)) :
    SharedStep wrapper world
      { world with host, tasks := earlier ++ next.future :: later } := by
  apply SharedStep.polls split lawful
  unfold TowerHyperFuture.poll at polled
  rcases result : self.future.poll (SharedHost.hosting wrapper answers)
    world.host with panic | ⟨given, future, after⟩
  · rw [result] at polled
    cases polled
  · rw [result] at polled
    cases polled
    rfl

end Steps

/-! ## Connection info -/

section Info

variable {Authority Extensions Incoming Body Info Erased : Type}
  [ExtensionSlot Extensions Erased]

/-- The service that hyper calls for a connection with info. -/
def servedWithInfo (fromIncoming : Incoming → Body) (erase : Info → Erased) :
    SwapWrapper (IncomingRequestService (ConnectionWithInfo Nat Info))
      (Request Authority Extensions Incoming) Nat :=
  incomingRequests fromIncoming
    (connectionWithInfo erase :
      SwapWrapper _ (Request Authority Extensions Body) _)

/-- The request that the inner service of a handle is called with. -/
def forwarded (fromIncoming : Incoming → Body) (erase : Info → Erased)
    (handle : IncomingRequestService (ConnectionWithInfo Nat Info))
    (request : Request Authority Extensions Incoming) :
    Request Authority Extensions Body :=
  (handle.call fromIncoming
    (ConnectionWithInfo.call id erase fun _ sent => sent) request).1

/-- The info has not been taken. -/
def HasInfo (info : Info)
    (handle : IncomingRequestService (ConnectionWithInfo Nat Info)) : Prop :=
  handle.inner.info = some info

private theorem keptFresh_hasInfo (fromIncoming : Incoming → Body)
    (erase : Info → Erased) (info : Info) :
    KeptFresh
      (servedWithInfo fromIncoming erase :
        SwapWrapper _ (Request Authority Extensions Incoming) _)
      (HasInfo info) where
  clone _ _ has := has
  pollReady _ has := has

private theorem forwarded_of_hasInfo (fromIncoming : Incoming → Body)
    (erase : Info → Erased) {info : Info}
    {handle : IncomingRequestService (ConnectionWithInfo Nat Info)}
    (has : HasInfo info handle)
    (request : Request Authority Extensions Incoming) :
    forwarded fromIncoming erase handle request =
      { request.map fromIncoming with
        extensions :=
          ExtensionSlot.insert request.extensions (erase info) } := by
  have isSome : handle.inner.info = some info := has
  simp only [forwarded, IncomingRequestService.call, ConnectionWithInfo.call,
    isSome]
  rfl

/-- Every request that hyper calls the service of a connection with gets the
info of the connection, and otherwise reaches the application as it came, once,
on a clone of its own that has answered that it is ready; unless hyper drops it
before.  The application of the connection's own service is left alone. -/
theorem every_served_request_has_info
    {Stream Make MakeFuture MakeError : Type} [HasConnectionInfo Stream Info]
    (pollMake : MakeFuture → Poll (Except MakeError Nat) × MakeFuture)
    (cloneMake : Make → Make) (callMake : Make → Stream → MakeFuture)
    (make : MakeServiceConnectionInfoService Make) (stream : Stream)
    (service : ConnectionWithInfo Nat Info)
    (final : MakeServiceConnectionInfoFuture MakeFuture Info)
    (made :
      Completes (MakeServiceConnectionInfoFuture.answers pollMake)
        (make.call cloneMake callMake stream).1 (.ok service) final)
    (fromIncoming : Incoming → Body) (erase : Info → Erased)
    (world :
      SharedWorld (IncomingRequestService (ConnectionWithInfo Nat Info))
        (Request Authority Extensions Incoming) Nat)
    (run :
      SharedRun (servedWithInfo fromIncoming erase) ⟨service⟩ world) :
    (world.requests : Multiset (Request Authority Extensions Incoming)) =
        world.host.calls.map Prod.snd +
          world.tasks.filterMap OwnedCall.held + world.dropped ∧
      (∀ handle request, (handle, request) ∈ world.host.calls →
        forwarded fromIncoming erase handle request =
          { request.map fromIncoming with
            extensions :=
              ExtensionSlot.insert request.extensions
                (erase (HasConnectionInfo.info stream)) }) ∧
      CallsJustified world.host.swap.trace ∧
      Untouched world.host.swap.trace service.inner := by
  have hasInfo :
      HasInfo (HasConnectionInfo.info stream)
        (⟨service⟩ : IncomingRequestService _) :=
    MakeServiceConnectionInfoFuture.info_of_completes made
  have invariant :=
    SharedRun.invariant _ (keptFresh_hasInfo fromIncoming erase _) hasInfo run
  obtain ⟨justified, untouched⟩ := invariant.sound
  refine ⟨invariant.accounts, ?_, justified, untouched⟩
  intro handle request member
  have has := invariant.host.calls (handle, request) member
  exact forwarded_of_hasInfo fromIncoming erase has request

end Info

/-! ## Two requests on one connection -/

def servedPeer :
    SwapWrapper (IncomingRequestService (ConnectionWithInfo Nat String))
      TextRequest Nat :=
  servedWithInfo id id

def numberedPeer : ConnectionWithInfo Nat String :=
  ⟨0, some "peer"⟩

def makeNumbered (future : Unit) : Poll (Except Empty Nat) × Unit :=
  (.ready (.ok 0), future)

private theorem numberedPeer_made :
    Completes (MakeServiceConnectionInfoFuture.answers makeNumbered)
      ((⟨()⟩ : MakeServiceConnectionInfoService Unit).call id
        (fun _ _ => ()) (⟨"peer"⟩ : InfoStream String)).1
      (.ok numberedPeer) ⟨(), none⟩ :=
  .of_ready rfl

/-- Services are ready, and responses are not. -/
def readyAnswers : SharedAnswers Nat Unit Empty :=
  ⟨.ready (.ok ()), .pending, fun future => .ok ([], future)⟩

private theorem readyAnswers_lawful : readyAnswers.Lawful servedPeer := by
  rintro before calls after ⟨⟩
  rfl

/-- Both of two requests on a connection get its info. -/
theorem every_served_request_has_info_twoRequests :
    ∃ world, SharedRun servedPeer ⟨numberedPeer⟩ world ∧
      world.host.calls.length = 2 ∧
        ∀ handle request, (handle, request) ∈ world.host.calls →
          forwarded id id handle request =
            { request with extensions := some "peer" } := by
  have asked : SharedRun servedPeer ⟨numberedPeer⟩ _ :=
    (Relation.ReflTransGen.refl.tail
      (@SharedStep.asks _ _ _ _ _ _ plainRequest rfl)).tail
      (@SharedStep.asks _ _ _ _ _ _ plainRequest rfl)
  have served : SharedRun servedPeer ⟨numberedPeer⟩ _ :=
    (asked.tail
      (@SharedStep.polls _ _ _ _ _ [] _ _ _ _ _ readyAnswers _ _ rfl
        readyAnswers_lawful rfl)).tail
      (@SharedStep.polls _ _ _ _ _ [_] [] _ _ _ _ readyAnswers _ _ rfl
        readyAnswers_lawful rfl)
  obtain ⟨_, haveInfo, _⟩ :=
    every_served_request_has_info makeNumbered id (fun _ _ => ()) _ _ _ _
      numberedPeer_made id id _ served
  exact ⟨_, served, rfl, haveInfo⟩

end Server

end Hyperdriver
