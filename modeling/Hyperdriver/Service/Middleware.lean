import Hyperdriver.Foundation.Layers
import Hyperdriver.Http.Message

/-!
# Middleware

Layers that limit the time of a request, are there or not, convert the body of
a response, convert errors, or set a header.  Each has its service and future
as in the source, and the effect it has on the service below.

Times are numbers of nanoseconds.
-/

namespace Hyperdriver

open Foundation

universe u v w x

namespace Service

/-! ## Timeouts -/

/-- The clock that a poll reads, and whether a sleep until some time is over
then.  A sleep is never over too early. -/
structure Timers (Input : Type u) where
  now : Input → Nat
  elapsed : Input → Nat → Bool
  le_now_of_elapsed :
    ∀ input deadline, elapsed input deadline = true → deadline ≤ now input

structure TimeoutLayer (Error : Type x) where
  error : Unit → Error
  timeout : Nat

structure Timeout (S : Type x) (Error : Type x) where
  inner : S
  timeout : Nat
  error : Unit → Error

/-- The future of the inner call, and the time until which it may take. -/
structure TimeoutFuture (F : Type x) (Error : Type x) where
  inner : F
  error : Unit → Error
  timeout : Nat

section Timeouts

variable {Input : Type u} {Request : Type v} {Response : Type w}
  {Error : Type x}

def TimeoutLayer.layer {S : Type x} (self : TimeoutLayer Error) (inner : S) :
    Timeout S Error where
  inner := inner
  timeout := self.timeout
  error := self.error

/-- The inner future is asked first, the sleep only while that is pending. -/
def TimeoutFuture.poll {F : Type x} (timers : Timers Input)
    (pollInner : Input → F → Checked (Poll (Except Error Response) × F))
    (input : Input) (self : TimeoutFuture F Error) :
    Checked (Poll (Except Error Response) × TimeoutFuture F Error) :=
  match pollInner input self.inner with
  | .error panic => .error panic
  | .ok (.ready response, inner) =>
      .ok (.ready response, { self with inner })
  | .ok (.pending, inner) =>
      if timers.elapsed input self.timeout then
        .ok (.ready (.error (self.error ())), { self with inner })
      else
        .ok (.pending, { self with inner })

def Timeout.serving (timers : Timers Input)
    (inner : Serving.{u, v, w, x, x} Input Request Response Error) :
    Serving.{u, v, w, x, x} Input Request Response Error where
  Service := Timeout inner.Service Error
  Future := TimeoutFuture inner.Future Error
  clone self := { self with inner := inner.clone self.inner }
  pollReady input self :=
    (inner.pollReady input self.inner).map fun (answer, next) =>
      (answer, { self with inner := next })
  call input self request :=
    (inner.call input self.inner request).map fun (future, next) =>
      ({ inner := future
         error := self.error
         timeout := timers.now input + self.timeout },
        { self with inner := next })
  poll := TimeoutFuture.poll timers inner.poll

/-- The time limit of a call that is made at an input. -/
def TimeoutLayer.limit (self : TimeoutLayer Error) (timers : Timers Input)
    (input : Input) (inner : Behaviour Input (Except Error Response)) :
    Behaviour Input (Except Error Response) :=
  inner.within
    (fun later => timers.elapsed later (timers.now input + self.timeout))
    (.error (self.error ()))

private theorem behaviour_timeoutFuture {F : Type x} (timers : Timers Input)
    (pollInner : Input → F → Checked (Poll (Except Error Response) × F))
    (error : Unit → Error) (deadline : Nat) (inner : F) :
    behaviour (TimeoutFuture.poll timers pollInner)
        { inner, error, timeout := deadline } =
      (behaviour pollInner inner).within
        (fun later => timers.elapsed later deadline) (.error (error ())) := by
  let wrap (inner : F) : TimeoutFuture F Error := ⟨inner, error, deadline⟩
  have polls (input : Input) (state : F) :
      TimeoutFuture.poll timers pollInner input (wrap state) =
        (pollInner input state).map fun (answer, next) =>
          (answer.orElse
              (if timers.elapsed input deadline then
                .ready (.error (error ()))
              else
                .pending),
            wrap next) := by
    rw [TimeoutFuture.poll]
    rcases pollInner input state with panic | ⟨_ | answer, next⟩
    · rfl
    · dsimp only [Except.map, Poll.orElse, wrap]
      split
      · rfl
      · rfl
    · rfl
  exact behaviour_within _ _ wrap polls inner

/-- A timeout limits the time of each call from when it is made. -/
theorem TimeoutLayer.layered (self : TimeoutLayer Error)
    (timers : Timers Input)
    (inner : Serving.{u, v, w, x, x} Input Request Response Error) :
    Layered (Timeout.serving timers inner) inner self.layer
      (.behaves (self.limit timers)) := by
  let wrap (input : Input) (_ : inner.Service) (future : inner.Future) :
      TimeoutFuture inner.Future Error :=
    ⟨future, self.error, timers.now input + self.timeout⟩
  refine Layered.of_wraps ?clone ?pollReady wrap ?call ?wraps
  case clone =>
    exact fun _ => rfl
  case pollReady =>
    exact fun _ _ => map_mapError_id self.layer _
  case call =>
    exact fun _ _ _ => rfl
  case wraps =>
    exact fun input _ future =>
      behaviour_timeoutFuture timers inner.poll self.error _ future

end Timeouts

/-! ## Optional layers -/

/-- The inner service, or the middleware around it. -/
inductive OptionService (M S : Type x) where
  | middleware (middleware : M)
  | service (service : S)

inductive OptionServiceFuture (M S : Type x) where
  | middleware (future : M)
  | service (future : S)

section Optional

variable {Input : Type u} {Request : Type v} {Response : Type w}
  {Error MiddlewareError : Type x}

/-- `OptionLayer::layer`. -/
def OptionService.layer {Layer M S : Type x} (layer : Layer → S → M)
    (middleware : Option Layer) (inner : S) : OptionService M S :=
  match middleware with
  | some middleware => .middleware (layer middleware inner)
  | none => .service inner

def OptionServiceFuture.poll {M S : Type x} (into : MiddlewareError → Error)
    (pollMiddleware :
      Input → M → Checked (Poll (Except MiddlewareError Response) × M))
    (pollService : Input → S → Checked (Poll (Except Error Response) × S))
    (input : Input) :
    OptionServiceFuture M S →
      Checked (Poll (Except Error Response) × OptionServiceFuture M S)
  | .middleware future =>
      (pollMiddleware input future).map fun (answer, next) =>
        (answer.map (Except.mapError into), .middleware next)
  | .service future =>
      (pollService input future).map fun (answer, next) =>
        (answer, .service next)

def OptionService.serving (into : MiddlewareError → Error)
    (middleware :
      Serving.{u, v, w, x, x} Input Request Response MiddlewareError)
    (service : Serving.{u, v, w, x, x} Input Request Response Error) :
    Serving.{u, v, w, x, x} Input Request Response Error where
  Service := OptionService middleware.Service service.Service
  Future := OptionServiceFuture middleware.Future service.Future
  clone
    | .middleware inner => .middleware (middleware.clone inner)
    | .service inner => .service (service.clone inner)
  pollReady input
    | .middleware inner =>
        (middleware.pollReady input inner).map fun (answer, next) =>
          (answer.map (Except.mapError into), .middleware next)
    | .service inner =>
        (service.pollReady input inner).map fun (answer, next) =>
          (answer, .service next)
  call input self request :=
    match self with
    | .middleware inner =>
        (middleware.call input inner request).map fun (future, next) =>
          (.middleware future, .middleware next)
    | .service inner =>
        (service.call input inner request).map fun (future, next) =>
          (.service future, .service next)
  poll := OptionServiceFuture.poll into middleware.poll service.poll

private theorem behaviour_middlewareFuture {M S : Type x}
    (into : MiddlewareError → Error)
    (pollMiddleware :
      Input → M → Checked (Poll (Except MiddlewareError Response) × M))
    (pollService : Input → S → Checked (Poll (Except Error Response) × S))
    (future : M) :
    behaviour (OptionServiceFuture.poll into pollMiddleware pollService)
        (.middleware future) =
      (behaviour pollMiddleware future).map (Except.mapError into) := by
  have polls (input : Input) (state : M) :
      OptionServiceFuture.poll into pollMiddleware pollService input
          (.middleware state) =
        (pollMiddleware input state).map fun (answer, next) =>
          (answer.map (Except.mapError into), .middleware next) :=
    rfl
  exact behaviour_map polls future

private theorem behaviour_serviceFuture {M S : Type x}
    (into : MiddlewareError → Error)
    (pollMiddleware :
      Input → M → Checked (Poll (Except MiddlewareError Response) × M))
    (pollService : Input → S → Checked (Poll (Except Error Response) × S))
    (future : S) :
    behaviour (OptionServiceFuture.poll into pollMiddleware pollService)
        (.service future) =
      behaviour pollService future := by
  have polls (input : Input) (state : S) :
      OptionServiceFuture.poll into pollMiddleware pollService input
          (.service state) =
        (pollService input state).map fun (answer, next) =>
          (answer.map id, .service next) := by
    change (pollService input state).map _ = _
    rcases pollService input state with panic | ⟨_ | answer, next⟩
    · rfl
    · rfl
    · rfl
  exact (behaviour_map polls future).trans (Behaviour.map_id _)

/-- With middleware, only its errors are converted. -/
theorem OptionService.layered_middleware (into : MiddlewareError → Error)
    (middleware :
      Serving.{u, v, w, x, x} Input Request Response MiddlewareError)
    (service : Serving.{u, v, w, x, x} Input Request Response Error) :
    Layered (OptionService.serving into middleware service) middleware
      .middleware (.converts into) := by
  let wrap (_ : Input) (_ : middleware.Service) :=
    @OptionServiceFuture.middleware middleware.Future service.Future
  refine Layered.of_wraps ?clone ?pollReady wrap ?call ?wraps
  case clone =>
    exact fun _ => rfl
  case pollReady =>
    exact fun _ _ => rfl
  case call =>
    exact fun _ _ _ => rfl
  case wraps =>
    exact fun _ _ =>
      behaviour_middlewareFuture into middleware.poll service.poll

/-- Without middleware, the service is as if there were no layer. -/
theorem OptionService.layered_service (into : MiddlewareError → Error)
    (middleware :
      Serving.{u, v, w, x, x} Input Request Response MiddlewareError)
    (service : Serving.{u, v, w, x, x} Input Request Response Error) :
    Layered (OptionService.serving into middleware service) service
      .service (.behaves fun _ inner => inner) := by
  let wrap (_ : Input) (_ : service.Service) :=
    @OptionServiceFuture.service middleware.Future service.Future
  refine Layered.of_wraps ?clone ?pollReady wrap ?call ?wraps
  case clone =>
    exact fun _ => rfl
  case pollReady =>
    exact fun _ _ => map_mapError_id OptionService.service _
  case call =>
    exact fun _ _ _ => rfl
  case wraps =>
    exact fun _ _ => behaviour_serviceFuture into middleware.poll service.poll

/-- The time limit of an optional timeout. -/
def optionalLimit (timers : Timers Input) (input : Input)
    (inner : Behaviour Input (Except Error Response)) :
    Option (TimeoutLayer Error) → Behaviour Input (Except Error Response)
  | none => inner
  | some layer => layer.limit timers input inner

private theorem behaviour_mapError_id
    (inner : Behaviour Input (Except Error Response)) :
    inner.map (Except.mapError id) = inner := by
  have same : (Except.mapError id : Except Error Response → _) = id := by
    funext result
    rcases result with error | response
    · rfl
    · rfl
  rw [same, Behaviour.map_id]

theorem OptionService.neverFails {middleware service :
      Serving.{u, v, w, x, x} Input Request Response Error} {error : Error}
    (ofMiddleware : middleware.NeverFails error)
    (ofService : service.NeverFails error) :
    (OptionService.serving id middleware service).NeverFails error := by
  intro future polls
  cases future with
  | middleware future =>
      have same :=
        (behaviour_middlewareFuture id middleware.poll service.poll
          future).trans (behaviour_mapError_id _)
      exact (congrFun same polls).trans_ne (ofMiddleware future polls)
  | service future =>
      have same :=
        behaviour_serviceFuture id middleware.poll service.poll future
      exact (congrFun same polls).trans_ne (ofService future polls)

/-- A timeout that is there limits the time of each call. -/
theorem OptionService.layered_timeout (layer : Option (TimeoutLayer Error))
    (timers : Timers Input)
    (inner : Serving.{u, v, w, x, x} Input Request Response Error) :
    Layered
      (OptionService.serving id (Timeout.serving timers inner) inner) inner
      (OptionService.layer TimeoutLayer.layer layer)
      (.behaves fun input behaviour =>
        optionalLimit timers input behaviour layer) := by
  cases layer with
  | none =>
      exact OptionService.layered_service id _ inner
  | some layer =>
      have layered :=
        (OptionService.layered_middleware id (Timeout.serving timers inner)
          inner).comp (layer.layered timers inner)
      have same :
          LayerEffect.comp (.converts id) (.behaves (layer.limit timers)) =
            (.behaves (layer.limit timers) :
              LayerEffect Input Request Request Response Response Error
                Error) := by
        ext
        · rfl
        · rfl
        · exact congrFun (behaviour_mapError_id _) _
      exact same ▸ layered

end Optional

/-! ## Bodies of responses -/

end Service

/-- A response: its parts other than the body, and the body. -/
structure Response (Head : Type u) (Body : Type v) where
  head : Head
  body : Body
  deriving DecidableEq, Repr

/-- `http::Response::map`. -/
def Response.map {Head : Type u} {Inner : Type v} {Body : Type w}
    (convert : Inner → Body) (response : Response Head Inner) :
    Response Head Body where
  head := response.head
  body := convert response.body

namespace Service

structure IncomingResponseService (S : Type x) where
  inner : S

structure IncomingResponseFuture (F : Type x) where
  future : F

section Incoming

variable {Input : Type u} {Request : Type v} {Head Incoming Body : Type w}
  {Error : Type x}

/-- The body of a response is converted, errors are not. -/
def fromIncoming (convert : Incoming → Body) :
    Except Error (Response Head Incoming) →
      Except Error (Response Head Body) :=
  Except.map (Response.map convert)

def IncomingResponseFuture.poll {F : Type x} (convert : Incoming → Body)
    (pollFuture :
      Input → F →
        Checked (Poll (Except Error (Response Head Incoming)) × F))
    (input : Input) (self : IncomingResponseFuture F) :
    Checked
      (Poll (Except Error (Response Head Body)) × IncomingResponseFuture F) :=
  (pollFuture input self.future).map fun (answer, future) =>
    (answer.map (fromIncoming convert), ⟨future⟩)

theorem behaviour_incomingResponseFuture {F : Type x}
    (convert : Incoming → Body)
    (pollFuture :
      Input → F →
        Checked (Poll (Except Error (Response Head Incoming)) × F))
    (future : F) :
    behaviour (IncomingResponseFuture.poll convert pollFuture) ⟨future⟩ =
      (behaviour pollFuture future).map (fromIncoming convert) := by
  have polls (input : Input) (state : F) :
      IncomingResponseFuture.poll convert pollFuture input ⟨state⟩ =
        (pollFuture input state).map fun (answer, next) =>
          (answer.map (fromIncoming convert), ⟨next⟩) :=
    rfl
  exact behaviour_map polls future

def IncomingResponseService.serving (convert : Incoming → Body)
    (inner :
      Serving.{u, v, w, x, x} Input Request (Response Head Incoming) Error) :
    Serving.{u, v, w, x, x} Input Request (Response Head Body) Error where
  Service := IncomingResponseService inner.Service
  Future := IncomingResponseFuture inner.Future
  clone self := ⟨inner.clone self.inner⟩
  pollReady input self :=
    (inner.pollReady input self.inner).map fun (answer, next) =>
      (answer, ⟨next⟩)
  call input self request :=
    (inner.call input self.inner request).map fun (future, next) =>
      (⟨future⟩, ⟨next⟩)
  poll := IncomingResponseFuture.poll convert inner.poll

theorem IncomingResponseService.layered (convert : Incoming → Body)
    (inner :
      Serving.{u, v, w, x, x} Input Request (Response Head Incoming) Error) :
    Layered (IncomingResponseService.serving convert inner) inner
      IncomingResponseService.mk
      (.behaves fun _ => Behaviour.map (fromIncoming convert)) := by
  let wrap (_ : Input) (_ : inner.Service) :=
    @IncomingResponseFuture.mk inner.Future
  refine Layered.of_wraps ?clone ?pollReady wrap ?call ?wraps
  case clone =>
    exact fun _ => rfl
  case pollReady =>
    exact fun _ _ => map_mapError_id IncomingResponseService.mk _
  case call =>
    exact fun _ _ _ => rfl
  case wraps =>
    exact fun _ _ => behaviour_incomingResponseFuture convert inner.poll

end Incoming

/-! ## Headers of requests -/

/-- A layer that sets a header which a request does not have. -/
structure SetRequestHeader (S : Type x) where
  inner : S
  name : HeaderName
  value : HeaderValue

section Headers

variable {Input : Type u} {Authority Extensions Body : Type v}
  {Response : Type w} {Error : Type x}

/-- A header is set unless the request has one of the name. -/
def insertIfNotPresent (name : HeaderName) (value : HeaderValue)
    (request : Request Authority Extensions Body) :
    Request Authority Extensions Body :=
  if request.headers.getAll name = [] then
    { request with headers := request.headers.append name value }
  else
    request

def SetRequestHeader.serving
    (inner :
      Serving.{u, v, w, x, x} Input (Request Authority Extensions Body)
        Response Error) :
    Serving.{u, v, w, x, x} Input (Request Authority Extensions Body)
      Response Error where
  Service := SetRequestHeader inner.Service
  Future := inner.Future
  clone self := { self with inner := inner.clone self.inner }
  pollReady input self :=
    (inner.pollReady input self.inner).map fun (answer, next) =>
      (answer, { self with inner := next })
  call input self request :=
    (inner.call input self.inner
      (insertIfNotPresent self.name self.value request)).map
        fun (future, next) => (future, { self with inner := next })
  poll := inner.poll

theorem SetRequestHeader.layered (name : HeaderName) (value : HeaderValue)
    (inner :
      Serving.{u, v, w, x, x} Input (Request Authority Extensions Body)
        Response Error) :
    Layered (SetRequestHeader.serving inner) inner
      (SetRequestHeader.mk · name value)
      (.prepares (insertIfNotPresent name value)) := by
  refine Layered.of_wraps ?clone ?pollReady (fun _ _ => id) ?call ?wraps
  case clone =>
    exact fun _ => rfl
  case pollReady =>
    exact fun _ _ => map_mapError_id (SetRequestHeader.mk · name value) _
  case call =>
    exact fun _ _ _ => rfl
  case wraps =>
    exact fun _ _ _ => rfl

end Headers

end Service

end Hyperdriver
