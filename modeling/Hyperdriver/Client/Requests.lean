import Hyperdriver.Client.Key
import Hyperdriver.Service.Middleware

/-!
# The services between the user and the pool

The client builder puts the pool under services that convert its errors and the
bodies of its responses, set the User-Agent, follow redirects and limit the time
of each request.  What a user of the client sees is described here for whole
sessions, in which handles are cloned, polled and called in any order.
-/

namespace Hyperdriver

open Foundation Service

universe u v w x

namespace Client

/-! ## Errors -/

/-- What is boxed as an error: that of a transport, a protocol, a service or a
key, or a text. -/
inductive BoxError (T P S : Type x) where
  | transport (error : T)
  | protocol (error : P)
  | service (error : S)
  | key (error : KeyError)
  | text (text : String)
  deriving DecidableEq, Repr

/-- `client::Error`. -/
inductive Error (Boxed : Type v) (Hyper : Type w) where
  | connection (source : Boxed)
  | transport (source : Boxed)
  | protocol (source : Boxed)
  | service (source : Boxed)
  | user (source : Hyper)
  | invalidMethod (method : Method)
  | unsupportedProtocol
  | requestTimeout
  deriving DecidableEq, Repr

/-- The errors of the pool; it may have further ones. -/
inductive ConnectionError (T P S : Type x) where
  | connecting (error : T)
  | handshaking (error : P)
  | service (error : S)
  | unavailable
  | key (error : KeyError)
  | other
  deriving DecidableEq, Repr

section Errors

variable {T P S Hyper : Type x}

/-- `From<ConnectionError>` for `client::Error`. -/
def Error.ofConnectionError :
    ConnectionError T P S → Error (BoxError T P S) Hyper
  | .connecting error => .transport (.transport error)
  | .handshaking error => .protocol (.protocol error)
  | .service error => .connection (.service error)
  | .unavailable =>
      .connection (.text "pool closed, no connection can be made")
  | .key error => .connection (.key error)
  | .other => .connection (.text "Unknown error occured")

private theorem Error.ofConnectionError_ne_requestTimeout
    (error : ConnectionError T P S) :
    (Error.ofConnectionError error : Error (BoxError T P S) Hyper) ≠
      .requestTimeout := by
  cases error with
  | connecting => exact nofun
  | handshaking => exact nofun
  | service => exact nofun
  | unavailable => exact nofun
  | key => exact nofun
  | other => exact nofun

end Errors

/-! ## The builder -/

/-- The layer that follows redirects by a policy. -/
structure FollowRedirect (Policy : Type x) (Input : Type u) (Request : Type v)
    (Response : Type w) (Error : Type x) where
  serving :
    Serving.{u, v, w, x, x} Input Request Response Error →
      Serving.{u, v, w, x, x} Input Request Response Error
  layer :
    ∀ inner : Serving.{u, v, w, x, x} Input Request Response Error,
      Policy → inner.Service → (serving inner).Service

/-- The layers that a user has put on a builder. -/
structure UserLayers (Input : Type u) (Request : Type v) (Response : Type w)
    (Error : Type x) where
  serving :
    Serving.{u, v, w, x, x} Input Request Response Error →
      Serving.{u, v, w, x, x} Input Request Response Error
  layer :
    ∀ inner : Serving.{u, v, w, x, x} Input Request Response Error,
      inner.Service → (serving inner).Service

/-- The layers of a builder on which no layer was put. -/
def UserLayers.none {Input : Type u} {Request : Type v} {Response : Type w}
    {Error : Type x} : UserLayers Input Request Response Error where
  serving := id
  layer _ := id

structure Builder (Policy : Type x) where
  userAgent : Option String := none
  redirect : Option Policy := none
  timeout : Option Nat := none

/-- `Builder::default`, with a time limit of 30 seconds. -/
def Builder.default {Policy : Type x} (standard : Policy) :
    Builder Policy where
  redirect := some standard
  timeout := some 30000000000

end Client

def HeaderName.userAgent : HeaderName := ⟨"user-agent"⟩

namespace Client

namespace Builder

section Build

variable {Policy T P S Hyper : Type x} {Input : Type u}
  {Authority Extensions Body : Type v} {Head Incoming Out : Type w}

/-- The name and version of the package. -/
def packageAgent : String := "hyperdriver/0.12.8"

/-- The User-Agent that requests get which have none. -/
def agent (self : Builder Policy) : Checked HeaderValue :=
  match self.userAgent with
  | some userAgent =>
      expect "user-agent should be a valid http header"
        (HeaderValue.fromStr userAgent)
  | none => .ok (.fromStatic packageAgent)

def timeoutLayer (self : Builder Policy) :
    Option (TimeoutLayer (Error (BoxError T P S) Hyper)) :=
  self.timeout.map fun timeout => ⟨fun _ => .requestTimeout, timeout⟩

variable (convert : Incoming → Out)
  (pool :
    Serving.{u, v, w, x, x} Input (Request Authority Extensions Body)
      (Response Head Incoming) (ConnectionError T P S))

/-- The services under the one that follows redirects. -/
abbrev pooled :
    Serving.{u, v, w, x, x} Input (Request Authority Extensions Body)
      (Response Head Out) (Error (BoxError T P S) Hyper) :=
  SetRequestHeader.serving
    (IncomingResponseService.serving convert
      (pool.mapErr Error.ofConnectionError))

variable (redirect :
    FollowRedirect Policy Input (Request Authority Extensions Body)
      (Response Head Out) (Error (BoxError T P S) Hyper))

/-- The services under the time limit. -/
abbrev redirected :
    Serving.{u, v, w, x, x} Input (Request Authority Extensions Body)
      (Response Head Out) (Error (BoxError T P S) Hyper) :=
  OptionService.serving id (redirect.serving (pooled convert pool))
    (pooled convert pool)

/-- All services over the pool. -/
abbrev served (timers : Timers Input) :
    Serving.{u, v, w, x, x} Input (Request Authority Extensions Body)
      (Response Head Out) (Error (BoxError T P S) Hyper) :=
  OptionService.serving id
    (Timeout.serving timers (redirected convert pool redirect))
    (redirected convert pool redirect)

variable {convert pool}

def layerPooled (value : HeaderValue) (inner : pool.Service) :
    (pooled convert pool : Serving Input _ _ (Error _ Hyper)).Service :=
  { inner := ⟨inner⟩
    name := .userAgent
    value := value }

def layerRedirected (self : Builder Policy) (value : HeaderValue)
    (inner : pool.Service) : (redirected convert pool redirect).Service :=
  OptionService.layer (redirect.layer (pooled convert pool)) self.redirect
    (layerPooled value inner)

def layerTimeout (self : Builder Policy) (timers : Timers Input)
    (inner : (redirected convert pool redirect).Service) :
    (served convert pool redirect timers).Service :=
  OptionService.layer TimeoutLayer.layer self.timeoutLayer inner

/-- `Builder::build_service`, over a pool.  The layers of the user are the
outermost ones. -/
def buildService (self : Builder Policy)
    (layers :
      UserLayers Input (Request Authority Extensions Body)
        (Response Head Out) (Error (BoxError T P S) Hyper))
    (timers : Timers Input) (inner : pool.Service) :
    Checked (layers.serving (served convert pool redirect timers)).Service :=
  self.agent.map fun value =>
    layers.layer _
      (self.layerTimeout redirect timers
        (self.layerRedirected redirect value inner))

/-! ## The effect of the services -/

/-- The answer to the user, from that of the pool. -/
def answer (convert : Incoming → Out)
    (result : Except (ConnectionError T P S) (Response Head Incoming)) :
    Except (Error (BoxError T P S) Hyper) (Response Head Out) :=
  fromIncoming convert (result.mapError Error.ofConnectionError)

/-- The effect of the services under redirects. -/
def pooledEffect (convert : Incoming → Out) (value : HeaderValue) :
    LayerEffect Input (Request Authority Extensions Body)
      (Request Authority Extensions Body) (Response Head Out)
      (Response Head Incoming) (Error (BoxError T P S) Hyper)
      (ConnectionError T P S) where
  prepare := insertIfNotPresent .userAgent value
  mapError := Error.ofConnectionError
  behave _ := Behaviour.map (answer convert)

/-- The effect of all services when redirects are not followed. -/
def directEffect (self : Builder Policy) (convert : Incoming → Out)
    (timers : Timers Input) (value : HeaderValue) :
    LayerEffect Input (Request Authority Extensions Body)
      (Request Authority Extensions Body) (Response Head Out)
      (Response Head Incoming) (Error (BoxError T P S) Hyper)
      (ConnectionError T P S) where
  prepare := insertIfNotPresent .userAgent value
  mapError := Error.ofConnectionError
  behave input inner :=
    optionalLimit timers input (inner.map (answer convert)) self.timeoutLayer

/-- What the user gets when redirects are not followed. -/
def directResult (self : Builder Policy) (convert : Incoming → Out)
    (timers : Timers Input) :
    SessionResult Input (Response Head Incoming) (ConnectionError T P S) →
      SessionResult Input (Response Head Out) (Error (BoxError T P S) Hyper)
  | .ready isReady =>
      .ready (isReady.map (Except.mapError Error.ofConnectionError))
  | .called input answers =>
      .called input
        (optionalLimit timers input (answers.map (answer convert))
          self.timeoutLayer)

private theorem layered_pooled (value : HeaderValue) :
    Layered (pooled convert pool : Serving Input _ _ (Error _ Hyper)) pool
      (layerPooled value) (pooledEffect convert value) := by
  have layered :=
    (SetRequestHeader.layered .userAgent value
      (IncomingResponseService.serving convert
        (pool.mapErr Error.ofConnectionError))).comp
      ((IncomingResponseService.layered convert _).comp
        (Layered.mapErr
          (Error.ofConnectionError : _ → Error (BoxError T P S) Hyper) pool))
  have same :
      LayerEffect.comp (.prepares (insertIfNotPresent .userAgent value))
          (LayerEffect.comp
            (.behaves fun _ => Behaviour.map (fromIncoming convert))
            (.converts Error.ofConnectionError)) =
        (pooledEffect convert value :
          LayerEffect Input (Request Authority Extensions Body)
            (Request Authority Extensions Body) (Response Head Out)
            (Response Head Incoming) (Error (BoxError T P S) Hyper)
            (ConnectionError T P S)) := by
    ext
    · rfl
    · rfl
    · exact congrFun (Behaviour.map_map _ _ _) _
  exact same ▸ layered

/-- Without a redirect policy, the services have the direct effect. -/
theorem layered_direct (self : Builder Policy) (direct : self.redirect = none)
    (timers : Timers Input) (value : HeaderValue) :
    Layered (served convert pool redirect timers) pool
      (fun inner =>
        self.layerTimeout redirect timers
          (self.layerRedirected redirect value inner))
      (self.directEffect convert timers value) := by
  have noRedirect :=
    (OptionService.layered_service id
      (redirect.serving (pooled convert pool)) (pooled convert pool)).comp
      (layered_pooled value)
  have layered :=
    (OptionService.layered_timeout self.timeoutLayer timers
      (redirected convert pool redirect)).comp noRedirect
  unfold layerRedirected
  rw [direct]
  exact layered

/-! ## Sessions with a client -/

private theorem exists_agent {self : Builder Policy}
    {layers :
      UserLayers Input (Request Authority Extensions Body)
        (Response Head Out) (Error (BoxError T P S) Hyper)}
    {timers : Timers Input} {inner : pool.Service}
    {client : (layers.serving (served convert pool redirect timers)).Service}
    (built : self.buildService redirect layers timers inner = .ok client) :
    ∃ value, self.agent = .ok value ∧
      client =
        layers.layer _
          (self.layerTimeout redirect timers
            (self.layerRedirected redirect value inner)) := by
  unfold buildService at built
  rcases agentIs : self.agent with panic | value
  · rw [agentIs] at built
    cases built
  · rw [agentIs] at built
    cases built
    exact ⟨value, rfl, rfl⟩

/-- A session with a client that follows no redirects and has no layers of its
own is the same session with the pool: each request is given the User-Agent if
it has none, the answers of the pool are converted, and the time of each call is
limited from when it is made. -/
theorem session_of_direct {self : Builder Policy}
    (direct : self.redirect = none) {timers : Timers Input}
    {inner : pool.Service}
    {client : (served convert pool redirect timers).Service}
    (built : self.buildService redirect .none timers inner = .ok client)
    (ops : List (SessionOp Input (Request Authority Extensions Body))) :
    ∃ value, self.agent = .ok value ∧
      (served convert pool redirect timers).session [client] ops =
        (pool.session [inner]
          (ops.map (SessionOp.map (insertIfNotPresent .userAgent value)))).map
            fun (final, results) =>
              (final.map fun inner =>
                self.layerTimeout redirect timers
                  (self.layerRedirected redirect value inner),
                results.map (self.directResult convert timers)) := by
  obtain ⟨value, agentIs, rfl⟩ := exists_agent redirect built
  have same :
      (self.directEffect convert timers value :
        LayerEffect Input (Request Authority Extensions Body) _ _ _ _
          _).result =
        (self.directResult convert timers :
          _ → SessionResult Input (Response Head Out)
            (Error (BoxError T P S) Hyper)) := by
    funext result
    cases result with
    | ready isReady => rfl
    | called input answers => rfl
  have layered :
      Layered (served convert pool redirect timers) pool _ _ :=
    layered_direct redirect self direct timers value
  exact ⟨value, agentIs, same ▸ layered.session [inner] ops⟩

private theorem neverFails_pooled :
    (pooled convert pool :
      Serving Input _ _ (Error _ Hyper)).NeverFails .requestTimeout := by
  intro future polls isReady
  have same :=
    (behaviour_incomingResponseFuture convert
      (pool.mapErr
        (Error.ofConnectionError : _ → Error (BoxError T P S) Hyper)).poll
      future.future).trans
      (congrArg (Behaviour.map _) (Serving.behaviour_mapErr _ pool _))
  obtain ⟨converted, isConverted, isTimeout⟩ :=
    Behaviour.exists_of_map_eq_ready
      ((congrFun same polls).symm.trans isReady)
  obtain ⟨result, _, rfl⟩ := Behaviour.exists_of_map_eq_ready isConverted
  rcases result with error | response
  · exact Error.ofConnectionError_ne_requestTimeout error
      (Except.error.inj isTimeout)
  · cases isTimeout

/-- Whatever policy redirects are followed by, unless that fails with a request
timeout by itself: in every session with a client without layers of its own, a
call fails with a request timeout only from its time limit on, and it is not
pending any more when a poll finds that time over. -/
theorem requestTimeout_of_session {self : Builder Policy}
    (honest :
      ∀ inner :
        Serving.{u, v, w, x, x} Input (Request Authority Extensions Body)
          (Response Head Out) (Error (BoxError T P S) Hyper),
        inner.NeverFails .requestTimeout →
          (redirect.serving inner).NeverFails .requestTimeout)
    {timers : Timers Input} {inner : pool.Service}
    {client : (served convert pool redirect timers).Service}
    (built : self.buildService redirect .none timers inner = .ok client)
    {ops : List (SessionOp Input (Request Authority Extensions Body))}
    {final : List (served convert pool redirect timers).Service}
    {results :
      List
        (SessionResult Input (Response Head Out)
          (Error (BoxError T P S) Hyper))}
    (ran :
      (served convert pool redirect timers).session [client] ops =
        .ok (final, results))
    {input : Input}
    {answers :
      Behaviour Input
        (Except (Error (BoxError T P S) Hyper) (Response Head Out))}
    (member : .called input answers ∈ results) (polls : List Input) :
    (answers polls = .ok (.ready (.error .requestTimeout)) →
      ∃ timeout, self.timeout = some timeout ∧
        ∃ poll ∈ polls, timers.now input + timeout ≤ timers.now poll) ∧
    ∀ timeout, self.timeout = some timeout →
      (∃ poll ∈ polls,
        timers.elapsed poll (timers.now input + timeout) = true) →
      answers polls ≠ .ok .pending := by
  obtain ⟨value, _, rfl⟩ := exists_agent redirect built
  have layered :=
    OptionService.layered_timeout self.timeoutLayer timers
      (redirected convert pool redirect)
  obtain ⟨future, rfl⟩ :=
    @Layered.exists_future _ _ _ _ _ _ _ _ _ _ _ layered
      [self.layerRedirected redirect value inner] ops final results ran input
      answers member
  have other :
      ∀ polls,
        behaviour (redirected convert pool redirect).poll future polls ≠
          .ok (.ready (.error .requestTimeout)) :=
    OptionService.neverFails (honest _ neverFails_pooled) neverFails_pooled
      future
  dsimp only [LayerEffect.behaves, timeoutLayer]
  cases isTimeout : self.timeout with
  | none =>
      exact ⟨fun failed => (other polls failed).elim, nofun⟩
  | some timeout =>
      refine ⟨?_, ?_⟩
      · intro failed
        obtain ⟨_, poll, isPoll, isOver⟩ :=
          (Behaviour.within_eq_value_iff other).mp failed
        exact ⟨timeout, rfl, poll, isPoll,
          timers.le_now_of_elapsed poll _ isOver⟩
      · rintro _ ⟨rfl⟩ isOver
        exact Behaviour.within_ne_pending isOver

end Build

/-! ## A client with a time limit -/

/-- A pool whose calls are answered after a hundred nanoseconds. -/
def delayedPool :
    Serving Nat (Request Unit Unit Unit) (Response Unit Nat)
      (ConnectionError Empty Empty Empty) where
  Service := Unit
  Future := Nat
  clone := id
  pollReady _ service := .ok (.ready (.ok ()), service)
  call now service _ := .ok (now + 100, service)
  poll now future :=
    .ok (if future ≤ now then .ready (.ok ⟨(), future⟩) else .pending, future)

/-- Timers that are over as soon as the clock shows their time. -/
def exactTimers : Timers Nat where
  now := id
  elapsed now deadline := decide (deadline ≤ now)
  le_now_of_elapsed _ _ isOver := of_decide_eq_true isOver

def noRedirect :
    FollowRedirect Unit Nat (Request Unit Unit Unit) (Response Unit Nat)
      (Error (BoxError Empty Empty Empty) Empty) where
  serving inner := inner
  layer _ _ inner := inner

def limitedBuilder : Builder Unit where
  timeout := some 50

def slowRequest : Request Unit Unit Unit :=
  .get .default () ()

/-- The call at time 4 is pending at time 10, and over at time 60. -/
theorem session_of_direct_slowRequest :
    ∃ client final answers,
      limitedBuilder.buildService noRedirect .none exactTimers () =
          .ok client ∧
        (served id delayedPool noRedirect exactTimers).session [client]
            [.clone 0, .pollReady 0 3, .call 1 4 slowRequest] =
          .ok (final, [.ready (.ready (.ok ())), .called 4 answers]) ∧
          answers [10] = .ok .pending ∧
            answers [10, 60] = .ok (.ready (.error .requestTimeout)) := by
  obtain ⟨value, _, ran⟩ :=
    @session_of_direct Unit Empty Empty Empty Empty Nat Unit Unit Unit Unit Nat
      Nat id delayedPool noRedirect limitedBuilder rfl exactTimers () _ rfl
      [.clone 0, .pollReady 0 3, .call 1 4 slowRequest]
  exact ⟨_, _, _, rfl, ran, rfl, rfl⟩

theorem requestTimeout_of_session_slowRequest :
    ∃ client final results answers,
      limitedBuilder.buildService noRedirect .none exactTimers () =
          .ok client ∧
        (served id delayedPool noRedirect exactTimers).session [client]
          [.call 0 4 slowRequest] = .ok (final, results) ∧
          .called 4 answers ∈ results ∧
            answers [10, 60] ≠ .ok .pending := by
  refine ⟨_, _, _, _, rfl, rfl, List.mem_cons_self, ?_⟩
  exact
    (@requestTimeout_of_session Unit Empty Empty Empty Empty Nat Unit Unit Unit
      Unit Nat Nat id delayedPool noRedirect limitedBuilder
      (fun _ neverFails => neverFails) exactTimers () _ rfl
      [.call 0 4 slowRequest] _ _ rfl 4 _ List.mem_cons_self [10, 60]).2
      50 rfl ⟨60, by decide, rfl⟩

end Builder

end Client

end Hyperdriver
