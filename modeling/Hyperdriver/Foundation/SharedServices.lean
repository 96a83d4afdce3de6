import Hyperdriver.Foundation.Deferred
import Hyperdriver.Foundation.Poll
import Hyperdriver.Foundation.SwapServices

/-!
# Services that are called by reference

A server holds one handle of a wrapper and calls it by reference.  Each request
gets a clone of its own, and a task that polls the clone until it is ready,
calls it once, and then polls the future of the call.  Tasks are polled and
dropped in any order.

Every run of such a server is a run of the wrapper in which handles are called
when they are ready.  The handle that is shared is never called itself.
-/

namespace Foundation

universe u v w x y z

/-! ## The call of a service that is owned -/

/-- The operations on the services and futures that live in a world. -/
structure Hosting (World : Type u) (Service : Type v) (Request : Type w)
    (Future : Type x) (Response : Type y) (Error : Type z) where
  pollReady :
    World → Service → Checked (Poll (Except Error Unit) × Service × World)
  /-- The service is dropped after the call. -/
  call : World → Service → Request → Checked (Future × World)
  pollFuture :
    World → Future →
      Checked (Poll (Except Error Response) × Future × World)

/-- A service with the request for it, the future of the call, or nothing after
completion. -/
inductive OwnedCall (Service : Type v) (Request : Type w)
    (Future : Type x) where
  | notReady (service : Service) (request : Request)
  | called (future : Future)
  | done

namespace OwnedCall

variable {World : Type u} {Service : Type v} {Request : Type w}
  {Future : Type x} {Response : Type y} {Error : Type z}
  (hosting : Hosting World Service Request Future Response Error)

/-- The request that the service has not been called with. -/
def held : OwnedCall Service Request Future → Option Request
  | .notReady _ request => some request
  | .called _ => none
  | .done => none

def pollCalled (world : World) (future : Future) :
    Checked
      (Poll (Except Error Response) × OwnedCall Service Request Future ×
        World) :=
  (hosting.pollFuture world future).map fun (answer, next, world) =>
    match answer with
    | .ready (.ok response) => (.ready (.ok response), .done, world)
    | answer => (answer, .called next, world)

/-- One poll.  A service that is ready is called, and the future of the call is
polled at once. -/
def poll (world : World) :
    OwnedCall Service Request Future →
      Checked
        (Poll (Except Error Response) × OwnedCall Service Request Future ×
          World)
  | .notReady service request =>
      match hosting.pollReady world service with
      | .error panic => .error panic
      | .ok (.pending, service, world) =>
          .ok (.pending, .notReady service request, world)
      | .ok (.ready (.error error), service, world) =>
          .ok (.ready (.error error), .notReady service request, world)
      | .ok (.ready (.ok ()), service, world) =>
          match hosting.call world service request with
          | .error panic => .error panic
          | .ok (future, world) => pollCalled hosting world future
  | .called future => pollCalled hosting world future
  | .done => .error (.explicit "polled after complete")

/-- What a poll does to the world. -/
inductive Polled (world : World) :
    OwnedCall Service Request Future → OwnedCall Service Request Future →
      World → Prop
  | waits {service next : Service} {request : Request}
      {answer : Poll (Except Error Unit)} {after : World} :
      hosting.pollReady world service = .ok (answer, next, after) →
      answer ≠ .ready (.ok ()) →
      Polled world (.notReady service request) (.notReady next request) after
  | calls {service next : Service} {request : Request} {future later : Future}
      {answer : Poll (Except Error Response)}
      {left : OwnedCall Service Request Future} {ready called after : World} :
      hosting.pollReady world service = .ok (.ready (.ok ()), next, ready) →
      hosting.call ready next request = .ok (future, called) →
      hosting.pollFuture called future = .ok (answer, later, after) →
      (left = .called later ∨ left = .done) →
      Polled world (.notReady service request) left after
  | awaits {future later : Future} {answer : Poll (Except Error Response)}
      {left : OwnedCall Service Request Future} {after : World} :
      hosting.pollFuture world future = .ok (answer, later, after) →
      (left = .called later ∨ left = .done) →
      Polled world (.called future) left after

variable {hosting}

theorem exists_of_pollCalled {world after : World} {future : Future}
    {answer : Poll (Except Error Response)}
    {left : OwnedCall Service Request Future}
    (polled : pollCalled hosting world future = .ok (answer, left, after)) :
    ∃ later,
      hosting.pollFuture world future = .ok (answer, later, after) ∧
        (left = .called later ∨ left = .done) := by
  unfold pollCalled at polled
  rcases answered : hosting.pollFuture world future
    with panic | ⟨_ | _ | _, later, _⟩
  · rw [answered] at polled
    cases polled
  · rw [answered] at polled
    cases polled
    exact ⟨later, rfl, Or.inl rfl⟩
  · rw [answered] at polled
    cases polled
    exact ⟨later, rfl, Or.inl rfl⟩
  · rw [answered] at polled
    cases polled
    exact ⟨later, rfl, Or.inr rfl⟩

theorem polled_of_poll {world after : World}
    {call left : OwnedCall Service Request Future}
    {answer : Poll (Except Error Response)}
    (polled : call.poll hosting world = .ok (answer, left, after)) :
    Polled hosting world call left after := by
  cases call with
  | notReady service request =>
      unfold poll at polled
      rcases isReady : hosting.pollReady world service
        with panic | ⟨_ | _ | _, next, ready⟩
      · simp only [isReady] at polled
        cases polled
      · simp only [isReady] at polled
        cases polled
        exact .waits isReady nofun
      · simp only [isReady] at polled
        cases polled
        exact .waits isReady nofun
      · simp only [isReady] at polled
        rcases isCalled : hosting.call ready next request
          with panic | ⟨future, called⟩
        · simp only [isCalled] at polled
          cases polled
        · simp only [isCalled] at polled
          obtain ⟨later, answered, isLeft⟩ := exists_of_pollCalled polled
          exact .calls isReady isCalled answered isLeft
  | called future =>
      obtain ⟨later, answered, isLeft⟩ := exists_of_pollCalled polled
      exact .awaits answered isLeft
  | done =>
      cases polled

end OwnedCall

/-! ## Servers of one wrapper -/

section Servers

variable {Handle : Type u} {Request : Type v} {Future : Type w}
  (wrapper : SwapWrapper Handle Request Future)

namespace SwapWorld

def cloned (world : SwapWorld Handle Future) (source : Nat)
    (handle : Handle) : SwapWorld Handle Future where
  handles := world.handles ++ [some (wrapper.clone world.services handle)]
  futures := world.futures
  services := world.services + 1
  trace :=
    .handleCloned source world.handles.length ::
      .serviceCloned world.services :: world.trace

def polled (world : SwapWorld Handle Future) (index : Nat) (handle : Handle)
    (ready : Bool) : SwapWorld Handle Future where
  handles := world.handles.set index (some (wrapper.pollReady handle).2)
  futures := world.futures
  services := world.services
  trace := .polled index (wrapper.pollReady handle).1 ready :: world.trace

def called (world : SwapWorld Handle Future) (index : Nat) (handle : Handle)
    (request : Request) : SwapWorld Handle Future where
  handles :=
    world.handles.set index
      (some (wrapper.call world.services handle request).2)
  futures :=
    world.futures ++ [some (wrapper.call world.services handle request).1]
  services := world.services + 1
  trace :=
    recordCalls world.futures.length
      (wrapper.called (wrapper.call world.services handle request).1)
      (.called index world.futures.length ::
        .serviceCloned world.services :: world.trace)

def futurePolled (world : SwapWorld Handle Future) (index : Nat)
    (after : Future) (calls : List Nat) : SwapWorld Handle Future where
  handles := world.handles
  futures := world.futures.set index (some after)
  services := world.services
  trace := recordCalls index calls world.trace

def handleDropped (world : SwapWorld Handle Future) (index : Nat) :
    SwapWorld Handle Future :=
  { world with handles := world.handles.set index none }

def futureDropped (world : SwapWorld Handle Future) (index : Nat) :
    SwapWorld Handle Future :=
  { world with futures := world.futures.set index none }

end SwapWorld

/-- The world of a wrapper, and the calls of handles with their requests, from
the last one back. -/
structure SharedHost (Handle : Type u) (Request : Type v)
    (Future : Type w) where
  swap : SwapWorld Handle Future
  calls : List (Handle × Request)

/-- The service answers that it is ready. -/
def Poll.isOk {Error : Type x} : Poll (Except Error Unit) → Bool
  | .ready (.ok ()) => true
  | .ready (.error _) => false
  | .pending => false

/-- What handles and futures answer in one poll, and what futures call. -/
structure SharedAnswers (Future : Type w) (Response Error : Type) where
  ready : Poll (Except Error Unit)
  response : Poll (Except Error Response)
  polls : Future → Checked (List Nat × Future)

def SharedAnswers.Lawful {Response Error : Type}
    (answers : SharedAnswers Future Response Error) : Prop :=
  ∀ before calls after,
    answers.polls before = .ok (calls, after) →
      wrapper.Polls before calls after

def SharedHost.hosting {Response Error : Type}
    (answers : SharedAnswers Future Response Error) :
    Hosting (SharedHost Handle Request Future) Nat Request Nat Response
      Error where
  pollReady host index :=
    (unwrap (host.swap.handle index)).map fun handle =>
      (answers.ready, index,
        { host with
          swap := host.swap.polled wrapper index handle answers.ready.isOk })
  call host index request :=
    (unwrap (host.swap.handle index)).map fun handle =>
      (host.swap.futures.length,
        { swap :=
            (host.swap.called wrapper index handle request).handleDropped
              index
          calls := (handle, request) :: host.calls })
  pollFuture host index :=
    match host.swap.future index with
    | none => .error .unwrapNone
    | some future =>
        (answers.polls future).map fun (calls, after) =>
          (answers.response, index,
            { host with swap := host.swap.futurePolled index after calls })

def SharedHost.drop (host : SharedHost Handle Request Future) :
    OwnedCall Nat Request Nat → SharedHost Handle Request Future
  | .notReady index _ => { host with swap := host.swap.handleDropped index }
  | .called index => { host with swap := host.swap.futureDropped index }
  | .done => host

/-- A server: its host, the calls that are going on, the requests it has been
given, and those it dropped before they were called. -/
structure SharedWorld (Handle : Type u) (Request : Type v)
    (Future : Type w) where
  host : SharedHost Handle Request Future
  tasks : List (OwnedCall Nat Request Nat)
  requests : List Request
  dropped : List Request

def SharedWorld.initial (start : Handle) :
    SharedWorld Handle Request Future where
  host := ⟨.initial wrapper start, []⟩
  tasks := []
  requests := []
  dropped := []

inductive SharedStep :
    SharedWorld Handle Request Future →
      SharedWorld Handle Request Future → Prop
  | asks {world : SharedWorld Handle Request Future} {shared : Handle}
      {request : Request} :
      world.host.swap.handle 0 = some shared →
      SharedStep world
        { world with
          host :=
            { world.host with
              swap := world.host.swap.cloned wrapper 0 shared }
          tasks :=
            .notReady world.host.swap.handles.length request :: world.tasks
          requests := request :: world.requests }
  | polls {world : SharedWorld Handle Request Future}
      {earlier later : List (OwnedCall Nat Request Nat)}
      {task left : OwnedCall Nat Request Nat} {Response Error : Type}
      {answers : SharedAnswers Future Response Error}
      {answer : Poll (Except Error Response)}
      {host : SharedHost Handle Request Future} :
      world.tasks = earlier ++ task :: later →
      answers.Lawful wrapper →
      task.poll (SharedHost.hosting wrapper answers) world.host =
        .ok (answer, left, host) →
      SharedStep world
        { world with host, tasks := earlier ++ left :: later }
  | drops {world : SharedWorld Handle Request Future}
      {earlier later : List (OwnedCall Nat Request Nat)}
      {task : OwnedCall Nat Request Nat} :
      world.tasks = earlier ++ task :: later →
      SharedStep world
        { world with
          host := world.host.drop task
          tasks := earlier ++ later
          dropped := task.held.toList ++ world.dropped }

def SharedRun (start : Handle) : SharedWorld Handle Request Future → Prop :=
  Relation.ReflTransGen (SharedStep wrapper) (.initial wrapper start)

/-! ## What a server keeps -/

/-- What clones of a handle and polls keep. -/
structure KeptFresh (P : Handle → Prop) : Prop where
  clone : ∀ copy handle, P handle → P (wrapper.clone copy handle)
  pollReady : ∀ handle, P handle → P (wrapper.pollReady handle).2

/-- The world is one of the wrapper in which handles are called when they are
ready, the shared handle is left alone, and the handles that are there or were
called have never been called before. -/
structure HostInvariant (start : Handle) (P : Handle → Prop)
    (host : SharedHost Handle Request Future) : Prop where
  run : SwapRun wrapper start host.swap
  respects : RespectsHandles host.swap.trace
  shared : host.swap.handle 0 = some start
  unused : ¬ PolledSince host.swap.trace 0
  handles : ∀ index handle, host.swap.handle index = some handle → P handle
  calls : ∀ call, call ∈ host.calls → P call.1

/-- The task has a handle of its own, if it still has one. -/
def OwnsHandle : OwnedCall Nat Request Nat → Prop
  | .notReady index _ => 0 < index
  | .called _ => True
  | .done => True

theorem polledSince_recordCalls {future handle : Nat} {calls : List Nat}
    {trace : List SwapEvent} :
    PolledSince (recordCalls future calls trace) handle ↔
      PolledSince trace handle := by
  induction calls generalizing trace with
  | nil =>
      exact Iff.rfl
  | cons first rest inductionHypothesis =>
      exact inductionHypothesis

theorem forall_of_set {P : Handle → Prop} {handles : List (Option Handle)}
    {index : Nat} {value : Option Handle}
    (old :
      ∀ (other : Nat) (handle : Handle),
        handles[other]?.join = some handle → P handle)
    (new : ∀ handle, value = some handle → P handle) (other : Nat)
    (handle : Handle)
    (found : (handles.set index value)[other]?.join = some handle) :
    P handle := by
  by_cases inRange : index < handles.length
  · rw [join_getElem?_set inRange] at found
    split at found
    · exact new handle found
    · exact old other handle found
  · rw [List.set_eq_of_length_le (Nat.not_lt.mp inRange)] at found
    exact old other handle found

theorem join_getElem?_set_of_ne {handles : List (Option Handle)}
    {index other : Nat} (different : index ≠ other)
    (value : Option Handle) :
    (handles.set index value)[other]?.join = handles[other]?.join := by
  rw [List.getElem?_set_ne different]

namespace HostInvariant

variable {wrapper} {start : Handle} {P : Handle → Prop}
  {host : SharedHost Handle Request Future}

theorem handles_pos (invariant : HostInvariant wrapper start P host) :
    0 < host.swap.handles.length :=
  lt_length_of_join invariant.shared

theorem cloned (invariant : HostInvariant wrapper start P host)
    (kept : KeptFresh wrapper P) {source : Nat} {handle : Handle}
    (found : host.swap.handle source = some handle) :
    HostInvariant wrapper start P
      { host with swap := host.swap.cloned wrapper source handle } where
  run := invariant.run.tail (.clone found)
  respects := invariant.respects
  shared := by
    have old := Nat.ne_of_lt invariant.handles_pos
    rw [SwapWorld.handle, SwapWorld.cloned, join_getElem?_concat, if_neg old]
    exact invariant.shared
  unused := invariant.unused
  handles index other isHandle := by
    rw [SwapWorld.handle, SwapWorld.cloned, join_getElem?_concat] at isHandle
    split at isHandle
    · cases isHandle
      exact kept.clone _ handle (invariant.handles source handle found)
    · exact invariant.handles index other isHandle
  calls := invariant.calls

theorem polled (invariant : HostInvariant wrapper start P host)
    (kept : KeptFresh wrapper P) {index : Nat} {handle : Handle}
    (owned : 0 < index) (found : host.swap.handle index = some handle)
    (ready : Bool) :
    HostInvariant wrapper start P
      { host with swap := host.swap.polled wrapper index handle ready } where
  run := invariant.run.tail (.pollReady found ready)
  respects := invariant.respects
  shared :=
    (join_getElem?_set_of_ne owned.ne' _).trans invariant.shared
  unused := by
    rintro (same | earlier)
    · exact owned.ne' same
    · exact invariant.unused earlier
  handles := by
    apply forall_of_set invariant.handles
    rintro next ⟨⟩
    exact kept.pollReady handle (invariant.handles index handle found)
  calls := invariant.calls

/-- A handle of a task is called when it is ready, and dropped. -/
theorem called (invariant : HostInvariant wrapper start P host)
    {index : Nat} {handle : Handle} (owned : 0 < index)
    (found : host.swap.handle index = some handle)
    (ready : HandleReady host.swap.trace index) (request : Request) :
    HostInvariant wrapper start P
      { swap :=
          (host.swap.called wrapper index handle request).handleDropped index
        calls := (handle, request) :: host.calls } where
  run := (invariant.run.tail (.call found request)).tail (.dropHandle index)
  respects := respectsHandles_recordCalls.mpr ⟨ready, invariant.respects⟩
  shared := by
    refine (join_getElem?_set_of_ne owned.ne' _).trans ?_
    exact (join_getElem?_set_of_ne owned.ne' _).trans invariant.shared
  unused := by
    intro polled
    exact invariant.unused (polledSince_recordCalls.mp polled).2
  handles := by
    rw [SwapWorld.handleDropped, SwapWorld.called]
    intro other next isHandle
    rw [SwapWorld.handle, List.set_set] at isHandle
    refine forall_of_set invariant.handles ?_ other next isHandle
    nofun
  calls call member := by
    rcases List.mem_cons.mp member with rfl | earlier
    · exact invariant.handles index handle found
    · exact invariant.calls call earlier

theorem futurePolled (invariant : HostInvariant wrapper start P host)
    {index : Nat} {before after : Future} {calls : List Nat}
    (found : host.swap.future index = some before)
    (polls : wrapper.Polls before calls after) :
    HostInvariant wrapper start P
      { host with swap := host.swap.futurePolled index after calls } where
  run := invariant.run.tail (.pollFuture found polls)
  respects := respectsHandles_recordCalls.mpr invariant.respects
  shared := invariant.shared
  unused := fun polled =>
    invariant.unused (polledSince_recordCalls.mp polled)
  handles := invariant.handles
  calls := invariant.calls

theorem dropped (invariant : HostInvariant wrapper start P host)
    {task : OwnedCall Nat Request Nat} (owns : OwnsHandle task) :
    HostInvariant wrapper start P (host.drop task) := by
  cases task with
  | notReady index request =>
      have different : index ≠ 0 := Nat.ne_of_gt owns
      exact
        { run := invariant.run.tail (.dropHandle index)
          respects := invariant.respects
          shared :=
            (join_getElem?_set_of_ne different _).trans invariant.shared
          unused := invariant.unused
          handles := forall_of_set invariant.handles nofun
          calls := invariant.calls }
  | called index =>
      exact
        { run := invariant.run.tail (.dropFuture index)
          respects := invariant.respects
          shared := invariant.shared
          unused := invariant.unused
          handles := invariant.handles
          calls := invariant.calls }
  | done =>
      exact invariant

end HostInvariant

/-! ## The operations of a host -/

namespace SharedHost

variable {wrapper} {Response Error : Type}
  {answers : SharedAnswers Future Response Error}
  {host after : SharedHost Handle Request Future}

theorem of_pollReady {index next : Nat} {answer : Poll (Except Error Unit)}
    (polled :
      (hosting wrapper answers).pollReady host index =
        .ok (answer, next, after)) :
    next = index ∧
      ∃ handle, host.swap.handle index = some handle ∧
        after =
          { host with
            swap := host.swap.polled wrapper index handle answer.isOk } := by
  unfold hosting at polled
  rcases found : host.swap.handle index with _ | handle
  · simp only [found] at polled
    cases polled
  · simp only [found] at polled
    cases polled
    exact ⟨rfl, handle, rfl, rfl⟩

theorem of_call {index future : Nat} {request : Request}
    (called :
      (hosting wrapper answers).call host index request =
        .ok (future, after)) :
    ∃ handle, host.swap.handle index = some handle ∧
      after =
        { swap :=
            (host.swap.called wrapper index handle request).handleDropped
              index
          calls := (handle, request) :: host.calls } := by
  unfold hosting at called
  rcases found : host.swap.handle index with _ | handle
  · simp only [found] at called
    cases called
  · simp only [found] at called
    cases called
    exact ⟨handle, rfl, rfl⟩

theorem of_pollFuture (lawful : answers.Lawful wrapper) {index next : Nat}
    {answer : Poll (Except Error Response)}
    (polled :
      (hosting wrapper answers).pollFuture host index =
        .ok (answer, next, after)) :
    ∃ before calls later, host.swap.future index = some before ∧
      wrapper.Polls before calls later ∧
        after =
          { host with swap := host.swap.futurePolled index later calls } := by
  unfold hosting at polled
  rcases found : host.swap.future index with _ | before
  · simp only [found] at polled
    cases polled
  · simp only [found] at polled
    rcases result : answers.polls before with panic | ⟨calls, later⟩
    · rw [result] at polled
      cases polled
    · rw [result] at polled
      cases polled
      exact ⟨before, calls, later, rfl, lawful before calls later result, rfl⟩

end SharedHost

/-! ## Invariant of the server -/

/-- What a poll of a task keeps.  The request of the task is with the task or in
the calls that were made. -/
theorem HostInvariant.of_poll {wrapper : SwapWrapper Handle Request Future}
    {start : Handle} {P : Handle → Prop}
    {Response Error : Type} {answers : SharedAnswers Future Response Error}
    {host after : SharedHost Handle Request Future}
    {task left : OwnedCall Nat Request Nat}
    (invariant : HostInvariant wrapper start P host)
    (kept : KeptFresh wrapper P) (lawful : answers.Lawful wrapper)
    (owns : OwnsHandle task)
    (polled :
      OwnedCall.Polled (SharedHost.hosting wrapper answers) host task left
        after) :
    HostInvariant wrapper start P after ∧ OwnsHandle left ∧
      left.held.toList ++ after.calls.map Prod.snd =
        task.held.toList ++ host.calls.map Prod.snd := by
  cases polled with
  | waits isPolled notReady =>
      obtain ⟨rfl, handle, found, rfl⟩ := SharedHost.of_pollReady isPolled
      exact ⟨invariant.polled kept owns found _, owns, rfl⟩
  | @calls service next request future later answer left ready called _
      isReady isCalled isAnswered isLeft =>
      obtain ⟨rfl, handle, found, rfl⟩ := SharedHost.of_pollReady isReady
      obtain ⟨calledHandle, calledFound, rfl⟩ := SharedHost.of_call isCalled
      obtain ⟨before, calls, last, futureFound, polls, rfl⟩ :=
        SharedHost.of_pollFuture lawful isAnswered
      have afterPoll := invariant.polled kept owns found true
      have afterCall :=
        afterPoll.called owns calledFound ⟨_, Or.inl ⟨rfl, rfl, rfl⟩⟩ request
      refine ⟨afterCall.futurePolled futureFound polls, ?_, ?_⟩
      · rcases isLeft with rfl | rfl
        · trivial
        · trivial
      · rcases isLeft with rfl | rfl
        · rfl
        · rfl
  | awaits isAnswered isLeft =>
      obtain ⟨before, calls, last, futureFound, polls, rfl⟩ :=
        SharedHost.of_pollFuture lawful isAnswered
      refine ⟨invariant.futurePolled futureFound polls, ?_, ?_⟩
      · rcases isLeft with rfl | rfl
        · trivial
        · trivial
      · rcases isLeft with rfl | rfl
        · rfl
        · rfl

structure SharedInvariant (start : Handle) (P : Handle → Prop)
    (world : SharedWorld Handle Request Future) : Prop where
  host : HostInvariant wrapper start P world.host
  tasks : ∀ task, task ∈ world.tasks → OwnsHandle task
  accounts :
    (world.requests : Multiset Request) =
      world.host.calls.map Prod.snd + world.tasks.filterMap OwnedCall.held +
        world.dropped

theorem SharedInvariant.initial {start : Handle} {P : Handle → Prop}
    (holds : P start) :
    SharedInvariant wrapper start P
      (SharedWorld.initial wrapper start :
        SharedWorld Handle Request Future) where
  host :=
    { run := .refl
      respects := trivial
      shared := rfl
      unused := fun polled => polled
      handles := by
        intro index handle found
        rcases index with _ | index
        · cases found
          exact holds
        · cases found
      calls := nofun }
  tasks := nofun
  accounts := rfl

/-- One step of the server keeps the invariant. -/
theorem SharedInvariant.preserves
    {wrapper : SwapWrapper Handle Request Future} {start : Handle}
    {P : Handle → Prop} (kept : KeptFresh wrapper P) :
    Preserves (SharedStep wrapper) (SharedInvariant wrapper start P) := by
  intro before after invariant step
  have account := invariant.accounts
  cases step with
  | @asks shared request found =>
      refine ⟨invariant.host.cloned kept found, ?_, ?_⟩
      · intro task member
        rcases List.mem_cons.mp member with rfl | earlier
        · exact invariant.host.handles_pos
        · exact invariant.tasks task earlier
      · simp only [List.filterMap_cons, OwnedCall.held]
        rw [← Multiset.cons_coe, ← Multiset.cons_coe, account,
          ← Multiset.singleton_add, ← Multiset.singleton_add]
        abel
  | @polls earlier later task left Response Error answers answer host split
      lawful polled =>
      have tasks := invariant.tasks
      rw [split] at tasks
      obtain ⟨hostInvariant, leftOwns, moved⟩ :=
        invariant.host.of_poll kept lawful
          (tasks task List.mem_append_cons_self)
          (OwnedCall.polled_of_poll polled)
      refine ⟨hostInvariant, ?_, ?_⟩
      · refine forall_mem_replaced [left] tasks ?_
        intro other isLeft
        rw [List.mem_singleton.mp isLeft]
        exact leftOwns
      · have were := Deferring.held_cons OwnedCall.held earlier later task
        have are := Deferring.held_cons OwnedCall.held earlier later left
        have movedAll := congrArg (Multiset.ofList) moved
        rw [← Multiset.coe_add, ← Multiset.coe_add] at movedAll
        rw [account, split, were, are, ← add_assoc, ← add_assoc,
          add_comm (Multiset.ofList (List.map _ _)) _,
          add_comm (Multiset.ofList (List.map _ _)) _, movedAll]
  | @drops earlier later task split =>
      have tasks := invariant.tasks
      rw [split] at tasks
      refine
        ⟨invariant.host.dropped (tasks task List.mem_append_cons_self),
          forall_mem_replaced [] tasks nofun, ?_⟩
      · have sameCalls : (before.host.drop task).calls = before.host.calls := by
          cases task with
          | notReady index request => rfl
          | called index => rfl
          | done => rfl
        rw [account, split,
          Deferring.held_cons OwnedCall.held earlier later task,
          sameCalls, ← Multiset.coe_add]
        abel

/-- In every run, a request that was given to the server has been called once,
on a fresh clone that answered that it is ready, or is still to be called, or
was dropped. -/
theorem SharedRun.invariant {start : Handle} {P : Handle → Prop}
    (kept : KeptFresh wrapper P) (holds : P start)
    {world : SharedWorld Handle Request Future}
    (run : SharedRun wrapper start world) :
    SharedInvariant wrapper start P world :=
  (SharedInvariant.preserves kept).run (.initial wrapper holds) run

/-- Calls on instances are justified, and the instance of the shared handle is
neither polled nor called. -/
theorem SharedInvariant.sound {start : Handle} {P : Handle → Prop}
    {world : SharedWorld Handle Request Future}
    (invariant : SharedInvariant wrapper start P world) :
    CallsJustified world.host.swap.trace ∧
      Untouched world.host.swap.trace (wrapper.held start) := by
  have sound :=
    wrapper.keepsReadiness start _ invariant.host.run invariant.host.respects
  have mirror := sound.mirrors 0 start invariant.host.shared
  exact ⟨sound.calls, mirror.fresh invariant.host.unused⟩

end Servers

end Foundation
