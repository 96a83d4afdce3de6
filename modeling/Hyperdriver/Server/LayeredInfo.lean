import Hyperdriver.Server.ConnectionInfo
import Hyperdriver.Server.TlsInfoRequests

/-!
# Both infos of a connection

A server that asks for connection info and then for TLS connection info makes a
`ConnectionWithTlsInfo` around a `ConnectionWithInfo`.  A call of the outer
service leaves a clone of the inner one behind and calls the one that was there
later, so every call has an inner service of its own, which still has its
info.  With both layers no request goes without connection info, which the one
layer gives to the first call of a handle only.
-/

namespace Hyperdriver

open Foundation

namespace Server

/-! ## Making the service -/

namespace MakeServiceTlsConnectionInfoFuture

variable {Future Inner Error Receiver : Type*}
  {pollInner : Future → Poll (Except Error Inner) × Future}

private theorem inner_of_pending
    {before after : MakeServiceTlsConnectionInfoFuture Future Receiver}
    (waiting : answers pollInner before .pending after) :
    pollInner before.inner = (.pending, after.inner) := by
  unfold answers poll at waiting
  split at waiting
  · rcases hasRx : before.rx with _ | rx
    · rw [hasRx] at waiting
      cases waiting
    · rw [hasRx] at waiting
      cases waiting
  · cases waiting
  · rename_i polled
    cases waiting
    exact polled

private theorem inner_of_ready
    {before after : MakeServiceTlsConnectionInfoFuture Future Receiver}
    {service : ConnectionWithTlsInfo Inner Receiver}
    (answered : answers pollInner before (.ready (.ok service)) after) :
    pollInner before.inner = (.ready (.ok service.inner), after.inner) := by
  unfold answers poll at answered
  split at answered
  · rename_i polled
    rcases hasRx : before.rx with _ | rx
    · rw [hasRx] at answered
      cases answered
    · rw [hasRx] at answered
      cases answered
      exact polled
  · cases answered
  · cases answered

/-- The inner service is the one that the inner future made. -/
theorem inner_of_completes
    {start final : MakeServiceTlsConnectionInfoFuture Future Receiver}
    {service : ConnectionWithTlsInfo Inner Receiver}
    (completes :
      Completes (answers pollInner) start (.ok service) final) :
    Completes
      (fun before answer after => pollInner before = (answer, after))
      start.inner (.ok service.inner) final.inner := by
  obtain ⟨last, suspends, answered⟩ := completes
  refine ⟨last.inner, ?_, inner_of_ready answered⟩
  exact
    suspends.lift MakeServiceTlsConnectionInfoFuture.inner
      fun _ _ waiting => inner_of_pending waiting

end MakeServiceTlsConnectionInfoFuture

/-! ## Calls and futures in any order -/

section Layered

variable {App Receiver Authority Extensions Body Info Erased TlsInfo Future :
    Type*}
  [ExtensionSlot Extensions TlsInfo] [ExtensionSlot Extensions Erased]

/-- What is inserted into one slot leaves another one as it is. -/
class SeparateSlots (Extensions Value Other : Type*)
    [ExtensionSlot Extensions Value] [ExtensionSlot Extensions Other] :
    Prop where
  get_insert_other :
    ∀ (extensions : Extensions) (other : Other),
      (ExtensionSlot.get (ExtensionSlot.insert extensions other) :
        Option Value) =
          ExtensionSlot.get extensions

/-- The request with the info of its connection in its extensions. -/
def withInfo (info : Erased) (request : Request Authority Extensions Body) :
    Request Authority Extensions Body :=
  { request with extensions := ExtensionSlot.insert request.extensions info }

/-- The calls on a service with both layers, with what the application is called
with. -/
def bothInfoCalls (Output : Type*) (cloneApp : App → App)
    (cloneReceiver : Receiver → Receiver) (OnConnection : Receiver → Prop)
    (outcome : Option TlsInfo) (erase : Info → Erased)
    (startApp : App → Request Authority Extensions Body → Future) :
    Deferring (ConnectionWithTlsInfo (ConnectionWithInfo App Info) Receiver)
      (Request Authority Extensions Body)
      (TlsInfoFuture (ConnectionWithInfo App Info) Receiver
        (Request Authority Extensions Body) Future)
      (Request Authority Extensions Body) where
  clone :=
    ConnectionWithTlsInfo.clone (ConnectionWithInfo.clone cloneApp)
      cloneReceiver
  call :=
    ConnectionWithTlsInfo.call (ConnectionWithInfo.clone cloneApp)
      cloneReceiver
  Polls :=
    TlsInfoFuture.ForwardsTo Output OnConnection outcome
      (fun handle request =>
        (handle.call cloneApp erase startApp request).1)
      fun handle request =>
        (handle.call cloneApp erase (fun _ sent => sent) request).1
  held := TlsInfoFuture.held

/-- The info of the handle has not been taken. -/
def StillHas (info : Info) (handle : ConnectionWithInfo App Info) : Prop :=
  handle.info = some info

private theorem call_of_stillHas (cloneApp : App → App) (erase : Info → Erased)
    {info : Info} {handle : ConnectionWithInfo App Info}
    (has : StillHas info handle)
    (request : Request Authority Extensions Body) :
    (handle.call cloneApp erase (fun _ sent => sent) request).1 =
      withInfo (erase info) request := by
  have isSome : handle.info = some info := has
  simp only [ConnectionWithInfo.call, isSome, withInfo]

private theorem bothInfoCalls_lawful (Output : Type*) (cloneApp : App → App)
    {cloneReceiver : Receiver → Receiver} {OnConnection : Receiver → Prop}
    (clones : ∀ rx, OnConnection rx → OnConnection (cloneReceiver rx))
    (outcome : Option TlsInfo) (info : Info) (erase : Info → Erased)
    (startApp : App → Request Authority Extensions Body → Future) :
    (bothInfoCalls Output cloneApp cloneReceiver OnConnection outcome erase
        startApp).Lawful
      (fun service => OnConnection service.rx ∧ StillHas info service.inner)
      (fun future =>
        future.Waits OnConnection ∧ future.Keeps (StillHas info))
      (fun request sent =>
        withInfo (erase info) (withTlsInfo outcome request) = sent) where
  clone service := by
    rintro ⟨isOn, has⟩
    exact ⟨clones service.rx isOn, has⟩
  call service request := by
    rintro ⟨isOn, has⟩
    -- The future gets the handle, and its clone still has the info.
    exact ⟨⟨isOn, has⟩, ⟨clones service.rx isOn, has⟩, rfl⟩
  polls future sent left := by
    rintro ⟨waits, keeps⟩ forwards
    obtain ⟨leftOk, passes⟩ :=
      TlsInfoFuture.passes_of_forwardsTo waits keeps forwards
    refine ⟨leftOk, passes.imp ?_⟩
    rintro request forwarded ⟨handle, has, rfl⟩
    exact (call_of_stillHas cloneApp erase has _).symm

end Layered

/-! ## Main result -/

section Made

variable {Make Stream MakeFuture Error App Info : Type}
  {Receiver Authority Extensions Body Erased TlsInfo Future : Type*}
  [HasConnectionInfo Stream Info] [TlsHandshakeInfo Stream Receiver]

/-- The service that both layers make has the infos of its stream. -/
theorem infos_of_made
    {pollMake : MakeFuture → Poll (Except Error App) × MakeFuture}
    {cloneMake : Make → Make} {callMake : Make → Stream → MakeFuture}
    {make :
      MakeServiceTlsConnectionInfoService
        (MakeServiceConnectionInfoService Make)}
    {stream : Stream}
    {service : ConnectionWithTlsInfo (ConnectionWithInfo App Info) Receiver}
    {final :
      MakeServiceTlsConnectionInfoFuture
        (MakeServiceConnectionInfoFuture MakeFuture Info) Receiver}
    (made :
      Completes
        (MakeServiceTlsConnectionInfoFuture.answers
          (MakeServiceConnectionInfoFuture.poll pollMake))
        (make.call (MakeServiceConnectionInfoService.clone cloneMake)
          (fun make stream => (make.call cloneMake callMake stream).1)
          stream).1
        (.ok service) final)
    {OnConnection : Receiver → Prop}
    (isOn : OnConnection (TlsHandshakeInfo.recv stream)) :
    OnConnection service.rx ∧
      StillHas (HasConnectionInfo.info stream) service.inner := by
  have innerMade :=
    MakeServiceTlsConnectionInfoFuture.inner_of_completes made
  exact
    ⟨onConnection_of_made made isOn,
      MakeServiceConnectionInfoFuture.info_of_completes innerMade⟩

variable [ExtensionSlot Extensions TlsInfo] [ExtensionSlot Extensions Erased]
  [SeparateSlots Extensions TlsInfo Erased]

/-- With connection info and then TLS connection info, whatever is done with the
service of a connection, with its clones and with the futures of their calls:
every request that was called has reached the application once, with both infos
of the connection and otherwise unchanged, or waits, or was dropped with its
future; and no poll of a future that is left can panic. -/
theorem every_request_has_both_infos {Output : Type*}
    (pollMake : MakeFuture → Poll (Except Error App) × MakeFuture)
    (cloneMake : Make → Make) (callMake : Make → Stream → MakeFuture)
    (make :
      MakeServiceTlsConnectionInfoService
        (MakeServiceConnectionInfoService Make))
    (stream : Stream)
    (service : ConnectionWithTlsInfo (ConnectionWithInfo App Info) Receiver)
    (final :
      MakeServiceTlsConnectionInfoFuture
        (MakeServiceConnectionInfoFuture MakeFuture Info) Receiver)
    (made :
      Completes
        (MakeServiceTlsConnectionInfoFuture.answers
          (MakeServiceConnectionInfoFuture.poll pollMake))
        (make.call (MakeServiceConnectionInfoService.clone cloneMake)
          (fun make stream => (make.call cloneMake callMake stream).1)
          stream).1
        (.ok service) final)
    (cloneApp : App → App) (cloneReceiver : Receiver → Receiver)
    (OnConnection : Receiver → Prop)
    (isOn : OnConnection (TlsHandshakeInfo.recv stream))
    (clones : ∀ rx, OnConnection rx → OnConnection (cloneReceiver rx))
    (outcome : Option TlsInfo) (erase : Info → Erased)
    (startApp : App → Request Authority Extensions Body → Future)
    (world :
      DeferredWorld (ConnectionWithTlsInfo (ConnectionWithInfo App Info)
          Receiver)
        (Request Authority Extensions Body)
        (TlsInfoFuture (ConnectionWithInfo App Info) Receiver
          (Request Authority Extensions Body) Future)
        (Request Authority Extensions Body))
    (run :
      (bothInfoCalls Output cloneApp cloneReceiver OnConnection outcome erase
        startApp).Run service world) :
    (∃ answered : List (Request Authority Extensions Body),
      world.sent =
          answered.map
            (withInfo (erase (HasConnectionInfo.info stream)) ∘
              withTlsInfo outcome) ∧
        (world.called : Multiset (Request Authority Extensions Body)) =
          answered + world.futures.filterMap TlsInfoFuture.held +
            world.dropped) ∧
    (∀ sent, sent ∈ world.sent →
      ExtensionSlot.get sent.extensions =
          some (erase (HasConnectionInfo.info stream)) ∧
        ∀ info, outcome = some info →
          ExtensionSlot.get sent.extensions = some info) ∧
    ∀ future, future ∈ world.futures →
      ∀ (receive : Receiver → Poll (Option TlsInfo) × Receiver)
        (pollApp : Future → Poll Output × Future),
        ∃ result,
          future.poll receive
              (fun handle request (_ : Unit) =>
                ((handle.call cloneApp erase startApp request).1, ()))
              pollApp () =
            .ok result := by
  have lawful :=
    bothInfoCalls_lawful Output cloneApp clones outcome
      (HasConnectionInfo.info stream) erase startApp
  have invariant := Deferring.Run.invariant lawful (infos_of_made made isOn) run
  obtain ⟨answered, isMap, account⟩ := invariant.accounts.exists_map
  refine ⟨⟨answered, isMap, account⟩, ?_, ?_⟩
  · intro sent member
    rw [isMap] at member
    obtain ⟨request, _, rfl⟩ := List.mem_map.mp member
    refine ⟨ExtensionSlot.get_insert _ _, ?_⟩
    rintro info rfl
    exact
      (SeparateSlots.get_insert_other _ _).trans
        (ExtensionSlot.get_insert request.extensions info)
  · intro future member receive pollApp
    have waits := (invariant.futures future member).1
    exact TlsInfoFuture.poll_ok_of_waits _ _ _ _ waits

end Made

/-! ## Two requests on one handle -/

structure InfoSlots where
  tls : Option String
  peer : Option Nat

instance : ExtensionSlot InfoSlots String where
  get := InfoSlots.tls
  insert slots tls := { slots with tls := some tls }
  get_insert _ _ := rfl

instance : ExtensionSlot InfoSlots Nat where
  get := InfoSlots.peer
  insert slots peer := { slots with peer := some peer }
  get_insert _ _ := rfl

instance : SeparateSlots InfoSlots String Nat where
  get_insert_other _ _ := rfl

structure PeerStream where
  peer : Nat

instance : HasConnectionInfo PeerStream Nat where
  info := PeerStream.peer

instance : TlsHandshakeInfo PeerStream Unit where
  recv _ := ()

def slotsRequest : Request TextAuthority InfoSlots Unit :=
  Request.get .default ⟨none, none⟩ ()

private theorem bothService_made :
    Completes
      (MakeServiceTlsConnectionInfoFuture.answers
        (MakeServiceConnectionInfoFuture.poll
          fun future : Unit => (.ready (.ok ()), future)))
      ((⟨⟨()⟩⟩ :
          MakeServiceTlsConnectionInfoService
            (MakeServiceConnectionInfoService Unit)).call
        (MakeServiceConnectionInfoService.clone id)
        (fun make stream => (make.call id (fun _ _ => ()) stream).1)
        (⟨7⟩ : PeerStream)).1
      (.ok (⟨⟨(), some 7⟩, ()⟩ :
          ConnectionWithTlsInfo (ConnectionWithInfo Unit Nat) Unit) :
        Except Empty _)
      ⟨⟨(), none⟩, none⟩ :=
  .of_ready rfl

def bothCalls :
    Deferring (ConnectionWithTlsInfo (ConnectionWithInfo Unit Nat) Unit)
      (Request TextAuthority InfoSlots Unit)
      (TlsInfoFuture (ConnectionWithInfo Unit Nat) Unit
        (Request TextAuthority InfoSlots Unit) Unit)
      (Request TextAuthority InfoSlots Unit) :=
  bothInfoCalls Unit id id (fun _ => True) (some "tls") id fun _ _ => ()

private theorem bothCalls_forwards :
    bothCalls.Polls (.receiving () ⟨(), some 7⟩ slotsRequest)
      [{ slotsRequest with extensions := ⟨some "tls", some 7⟩ }] none := by
  refine ⟨fun _ => (.ready (some "tls"), ()), fun _ => (.ready (), ()),
    .ready (), .done, ⟨fun _ _ _ => trivial, ?_⟩, rfl, rfl⟩
  intro rx info _ received
  cases received
  rfl

/-- Both calls of the one handle carry both infos. -/
theorem every_request_has_both_infos_twoRequests :
    ∃ world, bothCalls.Run ⟨⟨(), some 7⟩, ()⟩ world ∧
      world.sent.length = 2 ∧
        ∀ sent, sent ∈ world.sent →
          sent.extensions.peer = some 7 ∧
            sent.extensions.tls = some "tls" := by
  have called : bothCalls.Run ⟨⟨(), some 7⟩, ()⟩ _ :=
    (Relation.ReflTransGen.refl.tail
      (@Deferring.Step.calls _ _ _ _ _ _ [] [] _ slotsRequest rfl)).tail
      (@Deferring.Step.calls _ _ _ _ _ _ [] [] _ slotsRequest rfl)
  have answered : bothCalls.Run ⟨⟨(), some 7⟩, ()⟩ _ :=
    (called.tail
      (@Deferring.Step.polls _ _ _ _ _ _ [] _ _ _ _ rfl
        bothCalls_forwards)).tail
      (@Deferring.Step.polls _ _ _ _ _ _ [] _ _ _ _ rfl bothCalls_forwards)
  obtain ⟨_, haveInfos, _⟩ :=
    every_request_has_both_infos _ _ _ _ _ _ _ bothService_made id id
      (fun _ => True) trivial (fun _ _ => trivial) (some "tls") id
      (fun _ _ => ()) _ answered
  refine ⟨_, answered, rfl, ?_⟩
  intro sent member
  exact ⟨(haveInfos sent member).1, (haveInfos sent member).2 "tls" rfl⟩

end Server

end Hyperdriver
