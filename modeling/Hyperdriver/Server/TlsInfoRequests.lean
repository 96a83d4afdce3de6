import Hyperdriver.Foundation.Deferred
import Hyperdriver.Server.TlsConnectionInfo

/-!
# TLS connection info reaches every request

`MakeServiceTlsConnectionInfoService` captures the receiver of the TLS info of a
stream when it makes the service of that connection.  The receiver is cloned
for every call, so that all requests wait for the same handshake, and no clone
of the service or earlier request takes the info away from a later one.
-/

namespace Hyperdriver

open Foundation

universe u v

namespace Server

/-- The streams that have a receiver of their TLS info. -/
class TlsHandshakeInfo (Stream : Type*) (Receiver : outParam Type*) where
  recv : Stream → Receiver

structure TlsInfoStream (Receiver : Type u) where
  rx : Receiver

instance {Receiver : Type u} :
    TlsHandshakeInfo (TlsInfoStream Receiver) Receiver where
  recv := TlsInfoStream.rx

/-! ## Making the service -/

structure MakeServiceTlsConnectionInfoService (Make : Type u) where
  inner : Make

/-- The future of the service, with the receiver until it is taken. -/
structure MakeServiceTlsConnectionInfoFuture (Future : Type u)
    (Receiver : Type v) where
  inner : Future
  rx : Option Receiver

namespace MakeServiceTlsConnectionInfoService

def clone {Make : Type*} (cloneMake : Make → Make)
    (service : MakeServiceTlsConnectionInfoService Make) :
    MakeServiceTlsConnectionInfoService Make where
  inner := cloneMake service.inner

def pollReady {Make Answer : Type*} (pollMake : Make → Answer × Make)
    (service : MakeServiceTlsConnectionInfoService Make) :
    Answer × MakeServiceTlsConnectionInfoService Make :=
  let (answer, inner) := pollMake service.inner
  (answer, { inner })

/-- Swap a clone of the inner service in and call the one that was there, with
the receiver of the stream kept for later. -/
def call {Make Stream Future Receiver : Type*}
    [TlsHandshakeInfo Stream Receiver] (cloneMake : Make → Make)
    (callMake : Make → Stream → Future)
    (service : MakeServiceTlsConnectionInfoService Make) (stream : Stream) :
    MakeServiceTlsConnectionInfoFuture Future Receiver ×
      MakeServiceTlsConnectionInfoService Make :=
  let inner := cloneMake service.inner
  let rx := TlsHandshakeInfo.recv stream
  ({ inner := callMake service.inner stream, rx := some rx }, { inner })

end MakeServiceTlsConnectionInfoService

namespace MakeServiceTlsConnectionInfoFuture

variable {Future Inner Error Receiver : Type*}

def poll (pollInner : Future → Poll (Except Error Inner) × Future)
    (future : MakeServiceTlsConnectionInfoFuture Future Receiver) :
    Checked
      (Poll (Except Error (ConnectionWithTlsInfo Inner Receiver)) ×
        MakeServiceTlsConnectionInfoFuture Future Receiver) :=
  match pollInner future.inner with
  | (.ready (.ok inner), polled) =>
      (expect "future polled after completion" future.rx).map fun rx =>
        (.ready (.ok { inner, rx }), { inner := polled, rx := none })
  | (.ready (.error error), polled) =>
      .ok (.ready (.error error), { future with inner := polled })
  | (.pending, polled) => .ok (.pending, { future with inner := polled })

def answers (pollInner : Future → Poll (Except Error Inner) × Future)
    (before : MakeServiceTlsConnectionInfoFuture Future Receiver)
    (answer : Poll (Except Error (ConnectionWithTlsInfo Inner Receiver)))
    (after : MakeServiceTlsConnectionInfoFuture Future Receiver) : Prop :=
  before.poll pollInner = .ok (answer, after)

variable {pollInner : Future → Poll (Except Error Inner) × Future}

private theorem rx_of_pending
    {before after : MakeServiceTlsConnectionInfoFuture Future Receiver}
    (waiting : answers pollInner before .pending after) :
    after.rx = before.rx := by
  unfold answers poll at waiting
  split at waiting
  · rcases hasRx : before.rx with _ | rx
    · rw [hasRx] at waiting
      cases waiting
    · rw [hasRx] at waiting
      cases waiting
  · cases waiting
  · cases waiting
    rfl

private theorem rx_of_ready
    {before after : MakeServiceTlsConnectionInfoFuture Future Receiver}
    {service : ConnectionWithTlsInfo Inner Receiver}
    (answered : answers pollInner before (.ready (.ok service)) after) :
    before.rx = some service.rx := by
  unfold answers poll at answered
  split at answered
  · rcases hasRx : before.rx with _ | rx
    · rw [hasRx] at answered
      cases answered
    · rw [hasRx] at answered
      cases answered
      rfl
  · cases answered
  · cases answered

/-- The service has the receiver that its call captured. -/
theorem rx_of_completes
    {start final : MakeServiceTlsConnectionInfoFuture Future Receiver}
    {service : ConnectionWithTlsInfo Inner Receiver}
    (completes :
      Completes (answers pollInner) start (.ok service) final) :
    start.rx = some service.rx := by
  obtain ⟨last, suspends, answered⟩ := completes
  have kept : last.rx = start.rx :=
    suspends.invariant (fun state => state.rx = start.rx)
      (fun before after same waiting => (rx_of_pending waiting).trans same)
      rfl
  exact kept ▸ rx_of_ready answered

/-- A future that has its receiver does not panic, whatever the inner service
answers. -/
theorem poll_ok {rx : Receiver}
    {future : MakeServiceTlsConnectionInfoFuture Future Receiver}
    (hasRx : future.rx = some rx) :
    ∃ answer after, answers pollInner future answer after := by
  unfold answers poll
  split
  · exact ⟨_, _, by rw [hasRx]; rfl⟩
  · exact ⟨_, _, rfl⟩
  · exact ⟨_, _, rfl⟩

end MakeServiceTlsConnectionInfoFuture

/-! ## The channel of the info -/

section Requests

variable {Inner Receiver Authority Extensions Body Info Future : Type*}
  [ExtensionSlot Extensions Info]

/-- The receivers of one connection can be cloned; they wait, or all of them
report the outcome of its handshake. -/
structure Reports (OnConnection : Receiver → Prop) (outcome : Option Info)
    (receive : Receiver → Poll (Option Info) × Receiver) : Prop where
  waits :
    ∀ rx, OnConnection rx → (receive rx).1 = .pending →
      OnConnection (receive rx).2
  reports :
    ∀ rx info, OnConnection rx → (receive rx).1 = .ready info →
      info = outcome

/-- The request with the outcome of the handshake in its extensions. -/
def withTlsInfo (outcome : Option Info)
    (request : Request Authority Extensions Body) :
    Request Authority Extensions Body :=
  match outcome with
  | some info =>
      { request with
        extensions := ExtensionSlot.insert request.extensions info }
  | none => request

/-! ## Calls and futures in any order -/

namespace TlsInfoFuture

/-- The request that has not been forwarded yet. -/
def held {Request : Type*} :
    TlsInfoFuture Inner Receiver Request Future → Option Request
  | .receiving _ _ request => some request
  | .responding _ => none
  | .done => none

/-- The future has not completed, and waits for its own connection. -/
def Waits {Request : Type*} (OnConnection : Receiver → Prop) :
    TlsInfoFuture Inner Receiver Request Future → Prop
  | .receiving rx _ _ => OnConnection rx
  | .responding _ => True
  | .done => False

/-- One poll, with what is recorded of the calls of the inner service.  Nothing
is left of a future that is ready. -/
def ForwardsTo {Sent : Type*} (Output : Type*) (OnConnection : Receiver → Prop)
    (outcome : Option Info)
    (startInner : Inner → Request Authority Extensions Body → Future)
    (record : Inner → Request Authority Extensions Body → Sent)
    (future :
      TlsInfoFuture Inner Receiver (Request Authority Extensions Body)
        Future)
    (sent : List Sent)
    (left :
      Option
        (TlsInfoFuture Inner Receiver (Request Authority Extensions Body)
          Future)) : Prop :=
  ∃ (receive : Receiver → Poll (Option Info) × Receiver)
    (pollInner : Future → Poll Output × Future) (answer : Poll Output)
    (next :
      TlsInfoFuture Inner Receiver (Request Authority Extensions Body)
        Future),
    Reports OnConnection outcome receive ∧
      future.poll receive
          (fun inner request sent =>
            (startInner inner request, record inner request :: sent))
          pollInner [] =
        .ok (answer, next, sent) ∧
      left = answer.left next

/-- One poll, with the requests that the inner service is called with. -/
def Forwards (Output : Type*) (OnConnection : Receiver → Prop)
    (outcome : Option Info)
    (startInner : Inner → Request Authority Extensions Body → Future) :
    TlsInfoFuture Inner Receiver (Request Authority Extensions Body) Future →
      List (Request Authority Extensions Body) →
        Option
          (TlsInfoFuture Inner Receiver (Request Authority Extensions Body)
            Future) →
          Prop :=
  ForwardsTo Output OnConnection outcome startInner fun _ request => request

variable {Output : Type*} {OnConnection : Receiver → Prop}
  {outcome : Option Info}
  {startInner : Inner → Request Authority Extensions Body → Future}

/-- The handle that the future will call. -/
def Keeps {Request : Type*} (Kept : Inner → Prop) :
    TlsInfoFuture Inner Receiver Request Future → Prop
  | .receiving _ inner _ => Kept inner
  | .responding _ => True
  | .done => True

/-- Once the inner service has been called, nothing is held any more. -/
theorem spec_of_respond {Request : Type*} {Kept : Inner → Prop}
    {future : Future} {pollInner : Future → Poll Output × Future}
    {answer : Poll Output}
    {next : TlsInfoFuture Inner Receiver Request Future}
    (responds : (answer, next) = respond pollInner future) :
    (∀ later, answer.left next = some later →
      later.Waits OnConnection ∧ later.Keeps Kept) ∧
      (answer.left next).bind held = none := by
  unfold respond at responds
  split at responds
  · cases responds
    refine ⟨?_, rfl⟩
    intro later isLeft
    cases isLeft
    exact ⟨trivial, trivial⟩
  · cases responds
    exact ⟨nofun, rfl⟩

/-- A poll keeps the request, or calls the handle that is kept for it with the
outcome of the handshake. -/
theorem passes_of_forwardsTo {Sent : Type*} {Kept : Inner → Prop}
    {record : Inner → Request Authority Extensions Body → Sent}
    {future :
      TlsInfoFuture Inner Receiver (Request Authority Extensions Body)
        Future}
    {sent : List Sent}
    {left :
      Option
        (TlsInfoFuture Inner Receiver (Request Authority Extensions Body)
          Future)}
    (waits : future.Waits OnConnection) (keeps : future.Keeps Kept)
    (forwards :
      ForwardsTo Output OnConnection outcome startInner record future sent
        left) :
    (∀ next, left = some next →
      next.Waits OnConnection ∧ next.Keeps Kept) ∧
      Deferring.Passes
        (fun request sent =>
          ∃ inner, Kept inner ∧
            record inner (withTlsInfo outcome request) = sent)
        future.held sent (left.bind held) := by
  obtain ⟨receive, pollInner, answer, next, reports, polled, rfl⟩ := forwards
  cases future with
  | receiving rx inner request =>
      have onConnection : OnConnection rx := waits
      rcases received : receive rx with ⟨_ | info, later⟩
      · simp only [poll, received] at polled
        cases polled
        have waitsOn := reports.waits rx onConnection (by rw [received])
        rw [received] at waitsOn
        refine ⟨?_, .keeps⟩
        rintro next ⟨⟩
        exact ⟨waitsOn, keeps⟩
      · have isOutcome :=
          reports.reports rx info onConnection (by rw [received])
        subst isOutcome
        simp only [poll, received] at polled
        cases polled
        obtain ⟨leftWaits, nothingHeld⟩ := spec_of_respond Prod.mk.eta
        refine ⟨leftWaits, ?_⟩
        rw [nothingHeld]
        exact .forwards ⟨inner, keeps, rfl⟩
  | responding future =>
      simp only [poll] at polled
      cases polled
      obtain ⟨leftWaits, nothingHeld⟩ := spec_of_respond Prod.mk.eta
      refine ⟨leftWaits, ?_⟩
      rw [nothingHeld]
      exact .empty
  | done =>
      exact waits.elim

private theorem keeps_true {Request : Type*}
    (future : TlsInfoFuture Inner Receiver Request Future) :
    future.Keeps fun _ => True := by
  cases future with
  | receiving rx inner request => trivial
  | responding future => trivial
  | done => trivial

/-- A poll keeps the request, or forwards it with the outcome of the
handshake. -/
theorem passes_of_forwards
    {future :
      TlsInfoFuture Inner Receiver (Request Authority Extensions Body)
        Future}
    {sent : List (Request Authority Extensions Body)}
    {left :
      Option
        (TlsInfoFuture Inner Receiver (Request Authority Extensions Body)
          Future)}
    (waits : future.Waits OnConnection)
    (forwards :
      Forwards Output OnConnection outcome startInner future sent left) :
    (∀ next, left = some next → next.Waits OnConnection) ∧
      Deferring.Passes
        (fun request sent => withTlsInfo outcome request = sent)
        future.held sent (left.bind held) := by
  obtain ⟨leftWaits, passes⟩ :=
    passes_of_forwardsTo waits (keeps_true future) forwards
  refine ⟨fun next isLeft => (leftWaits next isLeft).1, passes.imp ?_⟩
  rintro request sent ⟨_, _, same⟩
  exact same

/-- No poll of a future that waits panics. -/
theorem poll_ok_of_waits {World : Type*}
    (receive : Receiver → Poll (Option Info) × Receiver)
    (callInner :
      Inner → Request Authority Extensions Body → World → Future × World)
    (pollInner : Future → Poll Output × Future) (world : World)
    {future :
      TlsInfoFuture Inner Receiver (Request Authority Extensions Body)
        Future}
    (waits : future.Waits OnConnection) :
    ∃ result, future.poll receive callInner pollInner world = .ok result := by
  cases future with
  | receiving rx inner request =>
      rcases received : receive rx with ⟨_ | info, later⟩
      · simp only [poll, received]
        exact ⟨_, rfl⟩
      · simp only [poll, received]
        exact ⟨_, rfl⟩
  | responding future =>
      exact ⟨_, rfl⟩
  | done =>
      exact waits.elim

end TlsInfoFuture

/-- The calls on the service of one connection. -/
def tlsInfoCalls (Output : Type*) (cloneInner : Inner → Inner)
    (cloneReceiver : Receiver → Receiver) (OnConnection : Receiver → Prop)
    (outcome : Option Info)
    (startInner : Inner → Request Authority Extensions Body → Future) :
    Deferring (ConnectionWithTlsInfo Inner Receiver)
      (Request Authority Extensions Body)
      (TlsInfoFuture Inner Receiver (Request Authority Extensions Body)
        Future)
      (Request Authority Extensions Body) where
  clone := ConnectionWithTlsInfo.clone cloneInner cloneReceiver
  call := ConnectionWithTlsInfo.call cloneInner cloneReceiver
  Polls := TlsInfoFuture.Forwards Output OnConnection outcome startInner
  held := TlsInfoFuture.held

private theorem tlsInfoCalls_lawful (Output : Type*)
    (cloneInner : Inner → Inner)
    {cloneReceiver : Receiver → Receiver} {OnConnection : Receiver → Prop}
    (clones : ∀ rx, OnConnection rx → OnConnection (cloneReceiver rx))
    (outcome : Option Info)
    (startInner : Inner → Request Authority Extensions Body → Future) :
    (tlsInfoCalls Output cloneInner cloneReceiver OnConnection outcome
        startInner).Lawful
      (fun service => OnConnection service.rx)
      (TlsInfoFuture.Waits OnConnection)
      (fun request sent => withTlsInfo outcome request = sent) where
  clone service isOn := clones service.rx isOn
  call service _ isOn := ⟨isOn, clones service.rx isOn, rfl⟩
  polls _ _ _ waits forwards := TlsInfoFuture.passes_of_forwards waits forwards

/-- In every run each request that was called has been forwarded once, with the
outcome of the handshake, or waits, or was dropped with its future. -/
theorem accounts_of_tlsInfoCalls {Output : Type*} {cloneInner : Inner → Inner}
    {cloneReceiver : Receiver → Receiver} {OnConnection : Receiver → Prop}
    (clones : ∀ rx, OnConnection rx → OnConnection (cloneReceiver rx))
    {outcome : Option Info}
    {startInner : Inner → Request Authority Extensions Body → Future}
    {service : ConnectionWithTlsInfo Inner Receiver}
    (hasRx : OnConnection service.rx)
    {world :
      DeferredWorld (ConnectionWithTlsInfo Inner Receiver)
        (Request Authority Extensions Body)
        (TlsInfoFuture Inner Receiver (Request Authority Extensions Body)
          Future)
        (Request Authority Extensions Body)}
    (run :
      (tlsInfoCalls Output cloneInner cloneReceiver OnConnection outcome
        startInner).Run service world) :
    (∃ answered : List (Request Authority Extensions Body),
      world.sent = answered.map (withTlsInfo outcome) ∧
        (world.called : Multiset (Request Authority Extensions Body)) =
          answered + world.futures.filterMap TlsInfoFuture.held +
            world.dropped) ∧
    ∀ future, future ∈ world.futures → future.Waits OnConnection := by
  have lawful :=
    tlsInfoCalls_lawful Output cloneInner clones outcome startInner
  have invariant := Deferring.Run.invariant lawful hasRx run
  exact ⟨invariant.accounts.exists_map, invariant.futures⟩

/-- The service that is made has the receiver of its stream. -/
theorem onConnection_of_made {Make Stream MakeFuture Error : Type*}
    [TlsHandshakeInfo Stream Receiver]
    {pollMake : MakeFuture → Poll (Except Error Inner) × MakeFuture}
    {cloneMake : Make → Make} {callMake : Make → Stream → MakeFuture}
    {make : MakeServiceTlsConnectionInfoService Make} {stream : Stream}
    {service : ConnectionWithTlsInfo Inner Receiver}
    {final : MakeServiceTlsConnectionInfoFuture MakeFuture Receiver}
    (made :
      Completes (MakeServiceTlsConnectionInfoFuture.answers pollMake)
        (make.call cloneMake callMake stream).1 (.ok service) final)
    {OnConnection : Receiver → Prop}
    (isOn : OnConnection (TlsHandshakeInfo.recv stream)) :
    OnConnection service.rx := by
  have captured := MakeServiceTlsConnectionInfoFuture.rx_of_completes made
  have same : TlsHandshakeInfo.recv stream = service.rx :=
    Option.some.inj captured
  exact same ▸ isOn

/-! ## Main result -/

/-- Whatever is done with the service of a connection, with its clones and with
the futures of their calls: every request that was called has been forwarded
once, with the outcome of the handshake, or waits, or was dropped with its
future; and no poll of a future that is left can panic. -/
theorem every_request_has_tlsInfo {Make Stream MakeFuture Error Output : Type*}
    [TlsHandshakeInfo Stream Receiver]
    (pollMake : MakeFuture → Poll (Except Error Inner) × MakeFuture)
    (cloneMake : Make → Make) (callMake : Make → Stream → MakeFuture)
    (make : MakeServiceTlsConnectionInfoService Make) (stream : Stream)
    (service : ConnectionWithTlsInfo Inner Receiver)
    (final : MakeServiceTlsConnectionInfoFuture MakeFuture Receiver)
    (made :
      Completes (MakeServiceTlsConnectionInfoFuture.answers pollMake)
        (make.call cloneMake callMake stream).1 (.ok service) final)
    (cloneInner : Inner → Inner) (cloneReceiver : Receiver → Receiver)
    (OnConnection : Receiver → Prop)
    (isOn : OnConnection (TlsHandshakeInfo.recv stream))
    (clones : ∀ rx, OnConnection rx → OnConnection (cloneReceiver rx))
    (outcome : Option Info)
    (startInner : Inner → Request Authority Extensions Body → Future)
    (world :
      DeferredWorld (ConnectionWithTlsInfo Inner Receiver)
        (Request Authority Extensions Body)
        (TlsInfoFuture Inner Receiver (Request Authority Extensions Body)
          Future)
        (Request Authority Extensions Body))
    (run :
      (tlsInfoCalls Output cloneInner cloneReceiver OnConnection outcome
        startInner).Run service world) :
    (∃ answered : List (Request Authority Extensions Body),
      world.sent = answered.map (withTlsInfo outcome) ∧
        (world.called : Multiset (Request Authority Extensions Body)) =
          answered + world.futures.filterMap TlsInfoFuture.held +
            world.dropped) ∧
    (∀ info, outcome = some info →
      ∀ sent, sent ∈ world.sent →
        ExtensionSlot.get sent.extensions = some info) ∧
    ∀ future, future ∈ world.futures →
      ∀ (receive : Receiver → Poll (Option Info) × Receiver)
        (pollInner : Future → Poll Output × Future),
        ∃ result,
          future.poll receive
              (fun inner request (_ : Unit) => (startInner inner request, ()))
              pollInner () =
            .ok result := by
  obtain ⟨⟨answered, isMap, account⟩, waits⟩ :=
    accounts_of_tlsInfoCalls clones (onConnection_of_made made isOn) run
  refine ⟨⟨answered, isMap, account⟩, ?_, ?_⟩
  · rintro info rfl sent member
    rw [isMap] at member
    obtain ⟨request, _, rfl⟩ := List.mem_map.mp member
    exact ExtensionSlot.get_insert request.extensions info
  · intro future member receive pollInner
    exact TlsInfoFuture.poll_ok_of_waits _ _ _ _ (waits future member)

end Requests

/-! ## Two requests on one connection -/

def tlsRequest : Request TextAuthority (Option String) Unit :=
  Request.get .default none ()

theorem tlsService_made :
    Completes
      (MakeServiceTlsConnectionInfoFuture.answers
        fun future => (.ready (.ok ()), future))
      ((⟨()⟩ : MakeServiceTlsConnectionInfoService Unit).call id
        (fun _ _ => ()) (⟨()⟩ : TlsInfoStream Unit)).1
      (.ok (⟨(), ()⟩ : ConnectionWithTlsInfo Unit Unit) :
        Except Empty _)
      ⟨(), none⟩ :=
  .of_ready rfl

def tlsCalls :
    Deferring (ConnectionWithTlsInfo Unit Unit)
      (Request TextAuthority (Option String) Unit)
      (TlsInfoFuture Unit Unit (Request TextAuthority (Option String) Unit)
        Unit)
      (Request TextAuthority (Option String) Unit) :=
  tlsInfoCalls Unit id id (fun _ => True) (some "tls") fun _ _ => ()

private theorem tlsCalls_forwards :
    TlsInfoFuture.Forwards Unit (fun _ : Unit => True) (some "tls")
      (fun (_ : Unit) _ => ()) (.receiving () () tlsRequest)
      [{ tlsRequest with extensions := some "tls" }] none := by
  refine ⟨fun _ => (.ready (some "tls"), ()), fun _ => (.ready (), ()),
    .ready (), .done, ⟨fun _ _ _ => trivial, ?_⟩, rfl, rfl⟩
  intro rx info _ received
  cases received
  rfl

/-- Both requests carry the info, and the service was called twice. -/
theorem every_request_has_tlsInfo_twoRequests :
    ∃ world, tlsCalls.Run ⟨(), ()⟩ world ∧ world.sent.length = 2 ∧
      ∀ sent, sent ∈ world.sent → sent.extensions = some "tls" := by
  have called : tlsCalls.Run ⟨(), ()⟩ _ :=
    (Relation.ReflTransGen.refl.tail
      (@Deferring.Step.calls _ _ _ _ _ _ [] [] _ tlsRequest rfl)).tail
      (@Deferring.Step.calls _ _ _ _ _ _ [] [] _ tlsRequest rfl)
  have answered : tlsCalls.Run ⟨(), ()⟩ _ :=
    (called.tail
      (@Deferring.Step.polls _ _ _ _ _ _ [] _ _ _ _ rfl
        tlsCalls_forwards)).tail
      (@Deferring.Step.polls _ _ _ _ _ _ [] _ _ _ _ rfl tlsCalls_forwards)
  refine ⟨_, answered, rfl, ?_⟩
  exact
    (every_request_has_tlsInfo _ _ _ _ _ _ _ tlsService_made id id
      (fun _ => True) trivial (fun _ _ => trivial) (some "tls")
      (fun _ _ => ()) _ answered).2.1 "tls" rfl

end Server

end Hyperdriver
