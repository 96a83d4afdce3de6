import Hyperdriver.Client.Unix
import Hyperdriver.Foundation.SwapServices
import Hyperdriver.Server.ConnectionInfo
import Hyperdriver.Server.TlsConnectionInfo

/-!
# Wrappers respect the readiness of their services

Four wrappers swap a clone in when they are called.  Three of them call the
service that was there at once, or drop it; `ConnectionWithTlsInfo` leaves that
to the future of the call.  Here their services are numbered instances, and each
operation tells the instances it is about.
-/

namespace Hyperdriver

open Foundation Server Client

namespace Service

section Wrappers

variable {Authority Extensions Body : Type}

/-- `ConnectionWithInfo`.  The future of a call is that of the instance that was
called. -/
def connectionWithInfo {Info Erased : Type} [ExtensionSlot Extensions Erased]
    (erase : Info → Erased) :
    SwapWrapper (ConnectionWithInfo Nat Info)
      (Request Authority Extensions Body) Nat where
  held := ConnectionWithInfo.inner
  clone copy := ConnectionWithInfo.clone fun _ => copy
  pollReady := ConnectionWithInfo.pollReady fun service => (service, service)
  call copy :=
    ConnectionWithInfo.call (fun _ => copy) erase fun service _ => service
  called future := [future]
  waits _ := none
  Polls _ calls _ := calls = []
  held_clone _ _ := rfl
  pollReady_fst _ := rfl
  held_pollReady _ := rfl
  held_call _ _ _ := rfl
  called_call _ _ _ := .calls
  polls _ _ _ none := none ▸ .keeps

def makeServiceConnectionInfo {Stream Info : Type}
    [HasConnectionInfo Stream Info] :
    SwapWrapper (MakeServiceConnectionInfoService Nat) Stream
      (MakeServiceConnectionInfoFuture Nat Info) where
  held := MakeServiceConnectionInfoService.inner
  clone copy := MakeServiceConnectionInfoService.clone fun _ => copy
  pollReady :=
    MakeServiceConnectionInfoService.pollReady fun service =>
      (service, service)
  call copy :=
    MakeServiceConnectionInfoService.call (fun _ => copy) fun service _ =>
      service
  called future := [future.inner]
  waits _ := none
  Polls before calls after :=
    calls = [] ∧
      ∃ (Inner Error : Type)
        (pollInner : Nat → Poll (Except Error Inner) × Nat)
        (answer : Poll (Except Error (ConnectionWithInfo Inner Info))),
        before.poll pollInner = (answer, after)
  held_clone _ _ := rfl
  pollReady_fst _ := rfl
  held_pollReady _ := rfl
  held_call _ _ _ := rfl
  called_call _ _ _ := .calls
  polls _ _ _ polled := polled.1 ▸ .keeps

/-- `UnixExtensionTransport`.  A request without an address calls nothing. -/
def unixExtension (Addr : Type) {Error : Type}
    [ExtensionSlot Extensions Addr] :
    SwapWrapper (UnixExtensionTransport Nat)
      (Request Authority Extensions Body) (UnixFuture Nat Error) where
  held := UnixExtensionTransport.transport
  clone copy := UnixExtensionTransport.clone fun _ => copy
  pollReady :=
    UnixExtensionTransport.pollReady fun transport => (transport, transport)
  call copy :=
    UnixExtensionTransport.call (fun _ => copy)
      fun transport
          (_ : UnixRequest (Request Authority Extensions Body) Addr) =>
        transport
  called
    | .connector (.ok transport) => [transport]
    | .connector (.error _) => []
    | .done => []
  waits _ := none
  Polls before calls after :=
    calls = [] ∧
      ∃ (Stream : Type)
        (pollInner :
          Nat → Poll (Except (UnixConnectionError Error) Stream) × Nat)
        (answer : Poll (Except (UnixConnectionError Error) Stream)),
        before.poll pollInner = .ok (answer, after)
  held_clone _ _ := rfl
  pollReady_fst _ := rfl
  held_pollReady _ := rfl
  held_call _ _ _ := rfl
  called_call copy service request := by
    unfold UnixExtensionTransport.call
    cases (ExtensionSlot.get request.extensions : Option Addr) with
    | none => exact .drops
    | some addr => exact .calls
  polls _ _ _ polled := polled.1 ▸ .keeps

/-- `ConnectionWithTlsInfo`.  The future of a call waits with the instance until
the info has been received. -/
def connectionWithTlsInfo (Info : Type) {Receiver : Type}
    [ExtensionSlot Extensions Info] (cloneReceiver : Receiver → Receiver) :
    SwapWrapper (ConnectionWithTlsInfo Nat Receiver)
      (Request Authority Extensions Body)
      (TlsInfoFuture Nat Receiver (Request Authority Extensions Body)
        Nat) where
  held := ConnectionWithTlsInfo.inner
  clone copy := ConnectionWithTlsInfo.clone (fun _ => copy) cloneReceiver
  pollReady :=
    ConnectionWithTlsInfo.pollReady fun service => (service, service)
  call copy := ConnectionWithTlsInfo.call (fun _ => copy) cloneReceiver
  called _ := []
  waits
    | .receiving _ service _ => some service
    | .responding _ => none
    | .done => none
  Polls before calls after :=
    ∃ (Output : Type) (receive : Receiver → Poll (Option Info) × Receiver)
      (pollInner : Nat → Poll Output × Nat) (answer : Poll Output),
      before.poll receive (fun service _ calls => (service, calls ++ [service]))
        pollInner [] = .ok (answer, after, calls)
  held_clone _ _ := rfl
  pollReady_fst _ := rfl
  held_pollReady _ := rfl
  held_call _ _ _ := rfl
  called_call _ _ _ := .keeps
  polls before calls after polled := by
    obtain ⟨Output, receive, pollInner, answer, polled⟩ := polled
    cases TlsInfoFuture.poll_spec polled with
    | waits =>
        exact .keeps
    | calls called =>
        cases called with
        | responding => exact .calls
        | done => exact .calls
    | responds called =>
        cases called with
        | responding => exact .keeps
        | done => exact .keeps

/-! ## Main result -/

/-- In every run of one of the wrappers whose handles are called when they are
ready, each call on an instance is made on the one that answered that it is
ready, once for each answer, and the handle keeps a fresh clone. -/
theorem swaps_respect_readiness :
    (∀ {Info Erased : Type} [ExtensionSlot Extensions Erased]
        (erase : Info → Erased),
      (connectionWithInfo erase :
        SwapWrapper _ (Request Authority Extensions Body) _).KeepsReadiness) ∧
    (∀ {Receiver Info : Type} [ExtensionSlot Extensions Info]
        (cloneReceiver : Receiver → Receiver),
      (connectionWithTlsInfo Info cloneReceiver :
        SwapWrapper _ (Request Authority Extensions Body) _).KeepsReadiness) ∧
    (∀ {Stream Info : Type} [HasConnectionInfo Stream Info],
      (makeServiceConnectionInfo :
        SwapWrapper _ Stream _).KeepsReadiness) ∧
    ∀ {Addr Error : Type} [ExtensionSlot Extensions Addr],
      (unixExtension Addr :
        SwapWrapper _ (Request Authority Extensions Body)
          (UnixFuture Nat Error)).KeepsReadiness := by
  refine ⟨?_, ?_, ?_, ?_⟩
  · intro Info Erased _ erase
    exact (connectionWithInfo erase).keepsReadiness
  · intro Receiver Info _ cloneReceiver
    exact (connectionWithTlsInfo Info cloneReceiver).keepsReadiness
  · intro Stream Info _
    exact makeServiceConnectionInfo.keepsReadiness
  · intro Addr Error _
    exact (unixExtension Addr).keepsReadiness

end Wrappers

/-! ## A run of each wrapper -/

section Example

variable {Handle Request Future : Type}
  (wrapper : SwapWrapper Handle Request Future)

/-- A handle is polled until it is ready and called, and then the future of the
call is polled. -/
theorem exists_run_polledThenCalled (start : Handle) (request : Request)
    {calls : List Nat} {after : Future}
    (polls :
      wrapper.Polls
        (wrapper.call (wrapper.held start + 1) (wrapper.pollReady start).2
          request).1
        calls after) :
    ∃ world, SwapRun wrapper start world ∧ RespectsHandles world.trace ∧
      world.trace =
        recordCalls 0 calls
          (recordCalls 0
            (wrapper.called
              (wrapper.call (wrapper.held start + 1)
                (wrapper.pollReady start).2 request).1)
            [.called 0 0, .serviceCloned (wrapper.held start + 1),
              .polled 0 (wrapper.pollReady start).1 true]) := by
  have initial : SwapRun wrapper start (.initial wrapper start) := .refl
  have found :
      (SwapWorld.initial wrapper start : SwapWorld Handle Future).handle 0 =
        some start :=
    rfl
  have polled := initial.tail (.pollReady found true)
  have called := polled.tail (@SwapStep.call _ _ _ _ _ 0 _ rfl request)
  have answered :=
    called.tail (@SwapStep.pollFuture _ _ _ _ _ 0 _ _ _ rfl polls)
  refine ⟨_, answered, ?_, rfl⟩
  have ready :
      HandleReady
        [.serviceCloned (wrapper.held start + 1),
          .polled 0 (wrapper.pollReady start).1 true] 0 :=
    ⟨_, Or.inl ⟨rfl, rfl, rfl⟩⟩
  apply respectsHandles_recordCalls.mpr
  exact respectsHandles_recordCalls.mpr ⟨ready, trivial⟩

/-- A run that calls the instance of its first handle, and is sound. -/
def SoundCall (start : Handle) : Prop :=
  ∃ world, SwapRun wrapper start world ∧ RespectsHandles world.trace ∧
    .serviceCalled 0 (wrapper.held start) ∈ world.trace ∧
      SwapSound wrapper world

end Example

abbrev TextRequest : Type :=
  Request TextAuthority (Option String) Unit

def peerInfo : SwapWrapper (ConnectionWithInfo Nat String) TextRequest Nat :=
  connectionWithInfo id

def peerTlsInfo :
    SwapWrapper (ConnectionWithTlsInfo Nat Unit) TextRequest
      (TlsInfoFuture Nat Unit TextRequest Nat) :=
  connectionWithTlsInfo String id

def peerMake :
    SwapWrapper (MakeServiceConnectionInfoService Nat) (InfoStream String)
      (MakeServiceConnectionInfoFuture Nat String) :=
  makeServiceConnectionInfo

def socketTransport :
    SwapWrapper (UnixExtensionTransport Nat) TextRequest
      (UnixFuture Nat Empty) :=
  unixExtension String

theorem swaps_respect_readiness_polledThenCalled :
    SoundCall peerInfo ⟨0, some "peer"⟩ ∧ SoundCall peerTlsInfo ⟨0, ()⟩ ∧
      SoundCall peerMake ⟨0⟩ ∧ SoundCall socketTransport ⟨0⟩ := by
  obtain ⟨withInfo, withTlsInfo, makeService, unix⟩ :=
    @swaps_respect_readiness TextAuthority (Option String) Unit
  refine ⟨?_, ?_, ?_, ?_⟩
  · have polls : peerInfo.Polls 0 [] 0 := rfl
    obtain ⟨world, run, respects, trace⟩ :=
      exists_run_polledThenCalled peerInfo ⟨0, some "peer"⟩ plainRequest polls
    have called : .serviceCalled 0 0 ∈ world.trace :=
      trace ▸ List.mem_cons_self
    exact ⟨world, run, respects, called, withInfo id _ world run respects⟩
  · have polls :
        peerTlsInfo.Polls (.receiving () 0 plainRequest) [0] (.responding 0) :=
      ⟨Unit, fun _ => (.ready (some "tls"), ()), fun next => (.pending, next),
        .pending, rfl⟩
    obtain ⟨world, run, respects, trace⟩ :=
      exists_run_polledThenCalled peerTlsInfo ⟨0, ()⟩ plainRequest polls
    have called : .serviceCalled 0 0 ∈ world.trace :=
      trace ▸ List.mem_cons_self
    exact
      ⟨world, run, respects, called, withTlsInfo id _ world run respects⟩
  · have polls :
        peerMake.Polls ⟨0, some "peer"⟩ [] ⟨0, some "peer"⟩ :=
      ⟨rfl, Unit, Empty, fun next => (.pending, next), .pending, rfl⟩
    obtain ⟨world, run, respects, trace⟩ :=
      exists_run_polledThenCalled peerMake ⟨0⟩ ⟨"peer"⟩ polls
    have called : .serviceCalled 0 0 ∈ world.trace :=
      trace ▸ List.mem_cons_self
    exact ⟨world, run, respects, called, makeService _ world run respects⟩
  · have polls :
        socketTransport.Polls (.connector (.ok 0)) [] (.connector (.ok 0)) :=
      ⟨rfl, Unit, fun next => (.pending, next), .pending, rfl⟩
    obtain ⟨world, run, respects, trace⟩ :=
      exists_run_polledThenCalled socketTransport ⟨0⟩
        (requestToSocket "a.sock") polls
    have called : .serviceCalled 0 0 ∈ world.trace :=
      trace ▸ List.mem_cons_self
    exact ⟨world, run, respects, called, unix _ world run respects⟩

end Service

end Hyperdriver
