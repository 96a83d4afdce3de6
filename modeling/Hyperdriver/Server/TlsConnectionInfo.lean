import Hyperdriver.Foundation.Poll
import Hyperdriver.Http.Message

/-!
# TLS connection info in the extensions of requests

`ConnectionWithTlsInfo` is the service of a connection whose TLS handshake may
still be going on.  The future of a call waits for the info of the handshake,
puts it into the extensions of the request, and only then calls the inner
service.
-/

namespace Hyperdriver

open Foundation

universe u v

namespace Server

/-- A service with the receiver of the info of its connection. -/
structure ConnectionWithTlsInfo (Inner : Type u) (Receiver : Type v) where
  inner : Inner
  rx : Receiver

/-- The boxed future of a call: it waits for the info, or for the response, or
is complete. -/
inductive TlsInfoFuture (Inner Receiver Request Future : Type*) where
  | receiving (rx : Receiver) (inner : Inner) (request : Request)
  | responding (future : Future)
  | done

namespace ConnectionWithTlsInfo

variable {Inner : Type u} {Receiver : Type v}

def clone (cloneInner : Inner → Inner) (cloneReceiver : Receiver → Receiver)
    (service : ConnectionWithTlsInfo Inner Receiver) :
    ConnectionWithTlsInfo Inner Receiver where
  inner := cloneInner service.inner
  rx := cloneReceiver service.rx

def pollReady {Answer : Type*} (pollInner : Inner → Answer × Inner)
    (service : ConnectionWithTlsInfo Inner Receiver) :
    Answer × ConnectionWithTlsInfo Inner Receiver :=
  let (answer, inner) := pollInner service.inner
  (answer, { service with inner })

/-- Swap a clone of the inner service in, and move the one that was there into
the future, with a clone of the receiver. -/
def call {Request Future : Type*} (cloneInner : Inner → Inner)
    (cloneReceiver : Receiver → Receiver)
    (service : ConnectionWithTlsInfo Inner Receiver) (request : Request) :
    TlsInfoFuture Inner Receiver Request Future ×
      ConnectionWithTlsInfo Inner Receiver :=
  let rx := cloneReceiver service.rx
  let next := cloneInner service.inner
  (.receiving rx service.inner request, { service with inner := next })

end ConnectionWithTlsInfo

namespace TlsInfoFuture

variable {Inner Receiver Authority Extensions Body Info Future Output World :
    Type*}
  [ExtensionSlot Extensions Info]

/-- Await the response of the inner service. -/
def respond {Request : Type*} (pollInner : Future → Poll Output × Future)
    (future : Future) :
    Poll Output × TlsInfoFuture Inner Receiver Request Future :=
  match pollInner future with
  | (.pending, future) => (.pending, .responding future)
  | (.ready output, _) => (.ready output, .done)

/-- Poll the future.  Calling the inner service changes the world. -/
def poll (receive : Receiver → Poll (Option Info) × Receiver)
    (callInner :
      Inner → Request Authority Extensions Body → World → Future × World)
    (pollInner : Future → Poll Output × Future) :
    TlsInfoFuture Inner Receiver (Request Authority Extensions Body) Future →
      World →
        Checked
          (Poll Output ×
            TlsInfoFuture Inner Receiver
                (Request Authority Extensions Body) Future ×
              World)
  | .receiving rx inner request, world =>
      match receive rx with
      | (.pending, rx) => .ok (.pending, .receiving rx inner request, world)
      | (.ready info, _) =>
          let request :=
            match info with
            | some info =>
                { request with
                  extensions := ExtensionSlot.insert request.extensions info }
            | none => request
          let (future, world) := callInner inner request world
          let (answer, next) := respond pollInner future
          .ok (answer, next, world)
  | .responding future, world =>
      let (answer, next) := respond pollInner future
      .ok (answer, next, world)
  | .done, _ => .error .resumed

section Polled

variable {receive : Receiver → Poll (Option Info) × Receiver}
  {callInner :
    Inner → Request Authority Extensions Body → World → Future × World}
  {pollInner : Future → Poll Output × Future}

/-- The inner service has been called. -/
inductive HasCalled {Request : Type*} :
    TlsInfoFuture Inner Receiver Request Future → Prop
  | responding {future : Future} : HasCalled (.responding future)
  | done : HasCalled .done

/-- Everything a poll can do to the inner service. -/
inductive Polled
    (callInner :
      Inner → Request Authority Extensions Body → World → Future × World)
    (world : World) :
    TlsInfoFuture Inner Receiver (Request Authority Extensions Body) Future →
      TlsInfoFuture Inner Receiver (Request Authority Extensions Body)
          Future →
        World → Prop
  | waits {rx later : Receiver} {inner : Inner}
      {request : Request Authority Extensions Body} :
      Polled callInner world (.receiving rx inner request)
        (.receiving later inner request) world
  | calls {rx : Receiver} {inner : Inner}
      {request sent : Request Authority Extensions Body}
      {next :
        TlsInfoFuture Inner Receiver (Request Authority Extensions Body)
          Future} :
      HasCalled next →
        Polled callInner world (.receiving rx inner request) next
          (callInner inner sent world).2
  | responds {future : Future}
      {next :
        TlsInfoFuture Inner Receiver (Request Authority Extensions Body)
          Future} :
      HasCalled next → Polled callInner world (.responding future) next world

private theorem hasCalled_respond {Request : Type*}
    (pollInner : Future → Poll Output × Future) (future : Future) :
    HasCalled
      (respond pollInner future :
        Poll Output × TlsInfoFuture Inner Receiver Request Future).2 := by
  unfold respond
  split
  · exact .responding
  · exact .done

theorem poll_spec {world after : World} {answer : Poll Output}
    {future next :
      TlsInfoFuture Inner Receiver (Request Authority Extensions Body) Future}
    (polled :
      future.poll receive callInner pollInner world =
        .ok (answer, next, after)) :
    Polled callInner world future next after := by
  cases future with
  | receiving rx inner request =>
      rcases received : receive rx with ⟨_ | info, later⟩
      · simp only [poll, received] at polled
        cases polled
        exact .waits
      · simp only [poll, received] at polled
        cases polled
        exact .calls (hasCalled_respond _ _)
  | responding future =>
      cases polled
      exact .responds (hasCalled_respond _ _)
  | done =>
      cases polled

end Polled

end TlsInfoFuture

end Server

end Hyperdriver
