import Hyperdriver.Foundation.Behaviour
import Mathlib.Data.List.Basic

/-!
# Services in layers

A service is polled until it is ready, called with requests, and cloned; the
futures of its calls are polled on their own.  A layer puts a service around
another one.  The effect of a layer says how it prepares requests, and what it
makes of errors and of the behaviours of futures; effects compose.

A session is any sequence of clones, polls and calls of several handles.  What
a session with the outer service gives follows from the same session with the
inner one.
-/

namespace Foundation

universe u v w x y

structure Serving (Input : Type u) (Request : Type v) (Response : Type w)
    (Error : Type x) where
  Service : Type y
  Future : Type y
  clone : Service → Service
  pollReady :
    Input → Service → Checked (Poll (Except Error Unit) × Service)
  call : Input → Service → Request → Checked (Future × Service)
  poll : Input → Future → Checked (Poll (Except Error Response) × Future)

/-- A clone, a poll or a call of a handle, which is named by its place in the
list of handles. -/
inductive SessionOp (Input : Type u) (Request : Type v) where
  | clone (handle : Nat)
  | pollReady (handle : Nat) (input : Input)
  | call (handle : Nat) (input : Input) (request : Request)

def SessionOp.map {Input : Type u} {Request : Type v} {Prepared : Type w}
    (prepare : Request → Prepared) :
    SessionOp Input Request → SessionOp Input Prepared
  | .clone handle => .clone handle
  | .pollReady handle input => .pollReady handle input
  | .call handle input request => .call handle input (prepare request)

/-- What the user of a handle gets: whether it is ready, or the future of a
call, which was made at an input. -/
inductive SessionResult (Input : Type u) (Response : Type v)
    (Error : Type w) where
  | ready (answer : Poll (Except Error Unit))
  | called (input : Input)
      (answers : Behaviour Input (Except Error Response))

namespace Serving

variable {Input : Type u} {Request : Type v} {Response : Type w}
  {Error : Type x}
  (serving : Serving.{u, v, w, x, y} Input Request Response Error)

/-- A call, by the behaviour of its future and the service after it. -/
def called (input : Input) (service : serving.Service) (request : Request) :
    Checked (Behaviour Input (Except Error Response) × serving.Service) :=
  (serving.call input service request).map fun (future, next) =>
    (behaviour serving.poll future, next)

/-- One operation on a list of handles. -/
def operate (handles : List serving.Service) :
    SessionOp Input Request →
      Checked (List serving.Service × List (SessionResult Input Response Error))
  | .clone handle =>
      match handles[handle]? with
      | none => .ok (handles, [])
      | some service => .ok (handles ++ [serving.clone service], [])
  | .pollReady handle input =>
      match handles[handle]? with
      | none => .ok (handles, [])
      | some service =>
          (serving.pollReady input service).map fun (answer, next) =>
            (handles.set handle next, [.ready answer])
  | .call handle input request =>
      match handles[handle]? with
      | none => .ok (handles, [])
      | some service =>
          (serving.called input service request).map fun (answers, next) =>
            (handles.set handle next, [.called input answers])

/-- A session: the handles after the operations, and what each gave. -/
def session (handles : List serving.Service) :
    List (SessionOp Input Request) →
      Checked (List serving.Service × List (SessionResult Input Response Error))
  | [] => .ok (handles, [])
  | op :: ops =>
      match serving.operate handles op with
      | .error panic => .error panic
      | .ok (next, results) =>
          (session next ops).map fun (final, later) =>
            (final, results ++ later)

/-- No future of the service answers with the error. -/
def NeverFails (error : Error) : Prop :=
  ∀ (future : serving.Future) (polls : List Input),
    behaviour serving.poll future polls ≠ .ok (.ready (.error error))

variable {serving}

theorem exists_future_of_operate {handles next : List serving.Service}
    {op : SessionOp Input Request}
    {results : List (SessionResult Input Response Error)}
    (operated : serving.operate handles op = .ok (next, results))
    {input : Input} {answers : Behaviour Input (Except Error Response)}
    (member : .called input answers ∈ results) :
    ∃ future : serving.Future, answers = behaviour serving.poll future := by
  cases op with
  | clone handle =>
      rcases found : handles[handle]? with _ | service
      · simp only [operate, found] at operated
        cases operated
        cases member
      · simp only [operate, found] at operated
        cases operated
        cases member
  | pollReady handle polled =>
      rcases found : handles[handle]? with _ | service
      · simp only [operate, found] at operated
        cases operated
        cases member
      · simp only [operate, found] at operated
        rcases answered : serving.pollReady polled service
          with panic | ⟨answer, left⟩
        · rw [answered] at operated
          cases operated
        · rw [answered] at operated
          cases operated
          cases List.mem_singleton.mp member
  | call handle calledWith request =>
      rcases found : handles[handle]? with _ | service
      · simp only [operate, found] at operated
        cases operated
        cases member
      · simp only [operate, found] at operated
        rcases called : serving.call calledWith service request
          with panic | ⟨future, left⟩
        · rw [Serving.called, called] at operated
          cases operated
        · rw [Serving.called, called] at operated
          cases operated
          cases List.mem_singleton.mp member
          exact ⟨future, rfl⟩

/-- What a call in a session gives is the behaviour of a future. -/
theorem exists_future_of_session {handles final : List serving.Service}
    {ops : List (SessionOp Input Request)}
    {results : List (SessionResult Input Response Error)}
    (ran : serving.session handles ops = .ok (final, results))
    {input : Input} {answers : Behaviour Input (Except Error Response)}
    (member : .called input answers ∈ results) :
    ∃ future : serving.Future, answers = behaviour serving.poll future := by
  induction ops generalizing handles final results with
  | nil =>
      cases ran
      cases member
  | cons op ops inductionHypothesis =>
      unfold session at ran
      rcases operated : serving.operate handles op
        with panic | ⟨next, results⟩
      · rw [operated] at ran
        cases ran
      · rw [operated] at ran
        dsimp only at ran
        rcases rest : serving.session next ops with panic | ⟨last, later⟩
        · rw [rest] at ran
          cases ran
        · rw [rest] at ran
          cases ran
          rcases List.mem_append.mp member with now | after
          · exact exists_future_of_operate operated now
          · exact inductionHypothesis rest after

end Serving

/-! ## The effect of a layer -/

section Effects

variable {Input : Type u} {Request Prepared Sent : Type v}
  {Response Inner Innermost : Type w} {Error Failure Cause : Type x}

@[ext]
structure LayerEffect (Input : Type u) (Request Prepared : Type v)
    (Response Inner : Type w) (Error Failure : Type x) where
  prepare : Request → Prepared
  mapError : Failure → Error
  /-- The behaviour of a future, from that of the inner call. -/
  behave :
    Input → Behaviour Input (Except Failure Inner) →
      Behaviour Input (Except Error Response)

namespace LayerEffect

def comp
    (outer : LayerEffect Input Request Prepared Response Inner Error Failure)
    (inner :
      LayerEffect Input Prepared Sent Inner Innermost Failure Cause) :
    LayerEffect Input Request Sent Response Innermost Error Cause where
  prepare := inner.prepare ∘ outer.prepare
  mapError := outer.mapError ∘ inner.mapError
  behave input := outer.behave input ∘ inner.behave input

/-- What the user of the outer handle gets. -/
def result
    (effect :
      LayerEffect Input Request Prepared Response Inner Error Failure) :
    SessionResult Input Inner Failure → SessionResult Input Response Error
  | .ready answer => .ready (answer.map (Except.mapError effect.mapError))
  | .called input answers => .called input (effect.behave input answers)

end LayerEffect

/-- The outer service is the inner one with the effect. -/
structure Layered (outer : Serving.{u, v, w, x, y} Input Request Response Error)
    (inner : Serving.{u, v, w, x, y} Input Prepared Inner Failure)
    (layer : inner.Service → outer.Service)
    (effect :
      LayerEffect Input Request Prepared Response Inner Error Failure) :
    Prop where
  clone : ∀ service, outer.clone (layer service) = layer (inner.clone service)
  pollReady :
    ∀ input service,
      outer.pollReady input (layer service) =
        (inner.pollReady input service).map fun (answer, next) =>
          (answer.map (Except.mapError effect.mapError), layer next)
  called :
    ∀ input service request,
      outer.called input (layer service) request =
        (inner.called input service (effect.prepare request)).map
          fun (answers, next) => (effect.behave input answers, layer next)

namespace Layered

variable {outer : Serving.{u, v, w, x, y} Input Request Response Error}
  {middle : Serving.{u, v, w, x, y} Input Prepared Inner Failure}
  {inner : Serving.{u, v, w, x, y} Input Sent Innermost Cause}
  {layer : middle.Service → outer.Service}
  {below : inner.Service → middle.Service}
  {effect : LayerEffect Input Request Prepared Response Inner Error Failure}
  {effectBelow :
    LayerEffect Input Prepared Sent Inner Innermost Failure Cause}

/-- A layer that wraps the future of the inner call. -/
theorem of_wraps
    (clone :
      ∀ service, outer.clone (layer service) = layer (middle.clone service))
    (pollReady :
      ∀ input service,
        outer.pollReady input (layer service) =
          (middle.pollReady input service).map fun (answer, next) =>
            (answer.map (Except.mapError effect.mapError), layer next))
    (wrap : Input → middle.Service → middle.Future → outer.Future)
    (call :
      ∀ input service request,
        outer.call input (layer service) request =
          (middle.call input service (effect.prepare request)).map
            fun (future, next) => (wrap input service future, layer next))
    (wraps :
      ∀ input service future,
        behaviour outer.poll (wrap input service future) =
          effect.behave input (behaviour middle.poll future)) :
    Layered outer middle layer effect where
  clone := clone
  pollReady := pollReady
  called input service request := by
    rw [Serving.called, Serving.called, call]
    rcases middle.call input service (effect.prepare request)
      with panic | ⟨future, next⟩
    · rfl
    · exact congrArg (fun answers => Except.ok (answers, layer next))
        (wraps input service future)

/-- A layer over a layer has the effect of both. -/
theorem comp (first : Layered outer middle layer effect)
    (second : Layered middle inner below effectBelow) :
    Layered outer inner (layer ∘ below) (effect.comp effectBelow) where
  clone service := by
    rw [Function.comp, first.clone, second.clone]
    rfl
  pollReady input service := by
    rw [Function.comp, first.pollReady, second.pollReady]
    rcases inner.pollReady input service with panic | ⟨_ | _ | _, next⟩
    · rfl
    · rfl
    · rfl
    · rfl
  called input service request := by
    rw [Function.comp, first.called, second.called]
    change _ =
      (inner.called input service
        (effectBelow.prepare (effect.prepare request))).map _
    rcases inner.called input service
      (effectBelow.prepare (effect.prepare request)) with panic | called
    · rfl
    · rfl

/-- One operation on outer handles is that on the inner ones. -/
theorem operate (layered : Layered outer middle layer effect)
    (handles : List middle.Service) (op : SessionOp Input Request) :
    outer.operate (handles.map layer) op =
      (middle.operate handles (op.map effect.prepare)).map
        fun (next, results) =>
          (next.map layer, results.map effect.result) := by
  cases op with
  | clone handle =>
      rw [Serving.operate, SessionOp.map, Serving.operate, List.getElem?_map]
      rcases handles[handle]? with _ | service
      · rfl
      · simp [layered.clone, Except.map]
  | pollReady handle input =>
      rw [Serving.operate, SessionOp.map, Serving.operate, List.getElem?_map]
      rcases handles[handle]? with _ | service
      · rfl
      · simp only [Option.map_some, layered.pollReady]
        rcases middle.pollReady input service with panic | ⟨answer, next⟩
        · rfl
        · simp [Except.map, List.map_set, LayerEffect.result]
  | call handle input request =>
      rw [Serving.operate, SessionOp.map, Serving.operate, List.getElem?_map]
      rcases handles[handle]? with _ | service
      · rfl
      · simp only [Option.map_some, layered.called]
        rcases middle.called input service (effect.prepare request)
          with panic | ⟨answers, next⟩
        · rfl
        · simp [Except.map, List.map_set, LayerEffect.result]

/-- A session with outer handles is the same session with the inner ones: it
panics when that does, and gives the same results with the effect. -/
theorem session (layered : Layered outer middle layer effect)
    (handles : List middle.Service) (ops : List (SessionOp Input Request)) :
    outer.session (handles.map layer) ops =
      (middle.session handles (ops.map (SessionOp.map effect.prepare))).map
        fun (final, results) =>
          (final.map layer, results.map effect.result) := by
  induction ops generalizing handles with
  | nil =>
      rfl
  | cons op ops inductionHypothesis =>
      rw [Serving.session, layered.operate, List.map_cons, Serving.session]
      rcases middle.operate handles (op.map effect.prepare)
        with panic | ⟨next, results⟩
      · rfl
      · dsimp only [Except.map]
        rw [inductionHypothesis]
        rcases middle.session next (ops.map (SessionOp.map effect.prepare))
          with panic | ⟨final, later⟩
        · rfl
        · simp [Except.map]

/-- What a call of an outer handle gives is the behaviour of an inner future,
with the effect. -/
theorem exists_future (layered : Layered outer middle layer effect)
    {handles : List middle.Service} {ops : List (SessionOp Input Request)}
    {final : List outer.Service}
    {results : List (SessionResult Input Response Error)}
    (ran : outer.session (handles.map layer) ops = .ok (final, results))
    {input : Input} {answers : Behaviour Input (Except Error Response)}
    (member : .called input answers ∈ results) :
    ∃ future : middle.Future,
      answers = effect.behave input (behaviour middle.poll future) := by
  rw [layered.session] at ran
  rcases inner : middle.session handles
    (ops.map (SessionOp.map effect.prepare)) with panic | ⟨left, given⟩
  · rw [inner] at ran
    cases ran
  · rw [inner] at ran
    cases ran
    obtain ⟨result, isGiven, isResult⟩ := List.mem_map.mp member
    cases result with
    | ready answer =>
        cases isResult
    | called calledWith behaves =>
        cases isResult
        obtain ⟨future, rfl⟩ :=
          Serving.exists_future_of_session inner isGiven
        exact ⟨future, rfl⟩

end Layered

end Effects

/-! ## Layers with one effect -/

section Maps

variable {Input : Type u} {Request Prepared : Type v} {Response : Type w}
  {Error Failure : Type x}

/-- The service that converts the errors of the inner one. -/
def Serving.mapErr (convert : Failure → Error)
    (inner : Serving.{u, v, w, x, y} Input Request Response Failure) :
    Serving.{u, v, w, x, y} Input Request Response Error where
  Service := inner.Service
  Future := inner.Future
  clone := inner.clone
  pollReady input service :=
    (inner.pollReady input service).map fun (answer, next) =>
      (answer.map (Except.mapError convert), next)
  call := inner.call
  poll input future :=
    (inner.poll input future).map fun (answer, next) =>
      (answer.map (Except.mapError convert), next)

namespace LayerEffect

/-- The effect on requests only. -/
def prepares (prepare : Request → Prepared) :
    LayerEffect Input Request Prepared Response Response Error Error where
  prepare := prepare
  mapError := id
  behave _ inner := inner

/-- The effect on errors only. -/
def converts (convert : Failure → Error) :
    LayerEffect Input Request Request Response Response Error Failure where
  prepare := id
  mapError := convert
  behave _ := Behaviour.map (Except.mapError convert)

/-- The effect on the behaviour of futures only. -/
def behaves {Inner : Type w}
    (behave :
      Input → Behaviour Input (Except Error Inner) →
        Behaviour Input (Except Error Response)) :
    LayerEffect Input Request Request Response Inner Error Error where
  prepare := id
  mapError := id
  behave := behave

end LayerEffect

/-- Errors that are not converted leave an answer as it is. -/
theorem map_mapError_id {S : Type v} {T : Type w} (layer : S → T)
    (polled : Checked (Poll (Except Error Unit) × S)) :
    (polled.map fun (answer, next) => (answer, layer next)) =
      polled.map fun (answer, next) =>
        (answer.map (Except.mapError id), layer next) := by
  rcases polled with panic | ⟨_ | _ | _, next⟩
  · rfl
  · rfl
  · rfl
  · rfl

theorem map_pair_id {S : Type v} {T : Type w} (called : Checked (S × T)) :
    called = called.map fun (future, next) => (id future, id next) := by
  rcases called with panic | ⟨future, next⟩
  · rfl
  · rfl

theorem Serving.behaviour_mapErr (convert : Failure → Error)
    (inner : Serving.{u, v, w, x, y} Input Request Response Failure)
    (future : inner.Future) :
    behaviour (inner.mapErr convert).poll future =
      (behaviour inner.poll future).map (Except.mapError convert) := by
  have polls (input : Input) (state : inner.Future) :
      (inner.mapErr convert).poll input (id state) =
        (inner.poll input state).map fun (answer, next) =>
          (answer.map (Except.mapError convert), id next) :=
    rfl
  exact behaviour_map polls future

theorem Layered.mapErr (convert : Failure → Error)
    (inner : Serving.{u, v, w, x, y} Input Request Response Failure) :
    Layered (inner.mapErr convert) inner id (.converts convert) := by
  refine Layered.of_wraps ?clone ?pollReady (fun _ _ => id) ?call ?wraps
  case clone =>
    exact fun _ => rfl
  case pollReady =>
    exact fun _ _ => rfl
  case call =>
    exact fun _ _ _ => map_pair_id _
  case wraps =>
    exact fun _ _ => inner.behaviour_mapErr convert

end Maps

end Foundation
