import Hyperdriver.Foundation.Handles
import Hyperdriver.Foundation.Poll
import Hyperdriver.Http.Message

/-!
# Connection info in the extensions of requests

`MakeServiceConnectionInfoService` wraps the service that is made for a
connection so that it puts the info of the connection into the extensions of
the requests it forwards.  The wrapper keeps the info in an option and takes it
out at its first call, while clones of the wrapper have an option of their own.
-/

namespace Hyperdriver

open Foundation

universe u v w x

namespace Server

class HasConnectionInfo (Stream : Type*) (ConnectionInfo : outParam Type*)
    where
  info : Stream → ConnectionInfo

structure InfoStream (ConnectionInfo : Type u) where
  info : ConnectionInfo

instance {ConnectionInfo : Type u} :
    HasConnectionInfo (InfoStream ConnectionInfo) ConnectionInfo where
  info := InfoStream.info

/-! ## The service of one connection -/

/-- A service with the info of its connection, until that is taken. -/
structure ConnectionWithInfo (Inner : Type u) (ConnectionInfo : Type v) where
  inner : Inner
  info : Option ConnectionInfo
  deriving DecidableEq, Repr

namespace ConnectionWithInfo

variable {Inner : Type u} {ConnectionInfo : Type v}

def clone (cloneInner : Inner → Inner)
    (service : ConnectionWithInfo Inner ConnectionInfo) :
    ConnectionWithInfo Inner ConnectionInfo where
  inner := cloneInner service.inner
  info := service.info

def pollReady {Answer : Type*} (pollInner : Inner → Answer × Inner)
    (service : ConnectionWithInfo Inner ConnectionInfo) :
    Answer × ConnectionWithInfo Inner ConnectionInfo :=
  let (answer, inner) := pollInner service.inner
  (answer, { service with inner })

variable {Authority Extensions Body Erased Future : Type*}
  [ExtensionSlot Extensions Erased]

/-- Swap a clone of the inner service in, move the info into the request if it
is still there, and call the inner service. -/
def call (cloneInner : Inner → Inner) (erase : ConnectionInfo → Erased)
    (callInner : Inner → Request Authority Extensions Body → Future)
    (service : ConnectionWithInfo Inner ConnectionInfo)
    (request : Request Authority Extensions Body) :
    Future × ConnectionWithInfo Inner ConnectionInfo :=
  let next := cloneInner service.inner
  let inner := service.inner
  let request :=
    match service.info with
    | some info =>
        { request with
          extensions :=
            ExtensionSlot.insert request.extensions (erase info) }
    | none => request
  (callInner inner request, { inner := next, info := none })

end ConnectionWithInfo

/-! ## Making the service -/

structure MakeServiceConnectionInfoService (Make : Type u) where
  inner : Make

def MakeServiceConnectionInfoService.clone {Make : Type*}
    (cloneMake : Make → Make)
    (service : MakeServiceConnectionInfoService Make) :
    MakeServiceConnectionInfoService Make where
  inner := cloneMake service.inner

def MakeServiceConnectionInfoService.pollReady {Make Answer : Type*}
    (pollMake : Make → Answer × Make)
    (service : MakeServiceConnectionInfoService Make) :
    Answer × MakeServiceConnectionInfoService Make :=
  let (answer, inner) := pollMake service.inner
  (answer, { inner })

structure MakeServiceConnectionInfoFuture (Future : Type u)
    (ConnectionInfo : Type v) where
  inner : Future
  info : Option ConnectionInfo

/-- Swap a clone of the inner service in and call it, with the info of the
stream kept for later. -/
def MakeServiceConnectionInfoService.call {Make Stream Future : Type*}
    {ConnectionInfo : Type*} [HasConnectionInfo Stream ConnectionInfo]
    (cloneMake : Make → Make) (callMake : Make → Stream → Future)
    (service : MakeServiceConnectionInfoService Make) (stream : Stream) :
    MakeServiceConnectionInfoFuture Future ConnectionInfo ×
      MakeServiceConnectionInfoService Make :=
  ({ inner := callMake service.inner stream
     info := some (HasConnectionInfo.info stream) },
    { inner := cloneMake service.inner })

namespace MakeServiceConnectionInfoFuture

variable {Future Inner Error ConnectionInfo : Type u}

def poll (pollInner : Future → Poll (Except Error Inner) × Future)
    (future : MakeServiceConnectionInfoFuture Future ConnectionInfo) :
    Poll (Except Error (ConnectionWithInfo Inner ConnectionInfo)) ×
      MakeServiceConnectionInfoFuture Future ConnectionInfo :=
  match pollInner future.inner with
  | (.ready (.ok inner), polled) =>
      (.ready (.ok { inner, info := future.info }),
        { inner := polled, info := none })
  | (.ready (.error error), polled) =>
      (.ready (.error error), { future with inner := polled })
  | (.pending, polled) => (.pending, { future with inner := polled })

def answers (pollInner : Future → Poll (Except Error Inner) × Future)
    (before : MakeServiceConnectionInfoFuture Future ConnectionInfo)
    (answer : Poll (Except Error (ConnectionWithInfo Inner ConnectionInfo)))
    (after : MakeServiceConnectionInfoFuture Future ConnectionInfo) : Prop :=
  before.poll pollInner = (answer, after)

variable {pollInner : Future → Poll (Except Error Inner) × Future}

private theorem info_of_pending
    {before after : MakeServiceConnectionInfoFuture Future ConnectionInfo}
    (waiting : answers pollInner before .pending after) :
    after.info = before.info := by
  unfold answers poll at waiting
  split at waiting
  · cases waiting
  · cases waiting
  · cases waiting
    rfl

private theorem info_of_ready
    {before after : MakeServiceConnectionInfoFuture Future ConnectionInfo}
    {service : ConnectionWithInfo Inner ConnectionInfo}
    (answered : answers pollInner before (.ready (.ok service)) after) :
    service.info = before.info := by
  unfold answers poll at answered
  split at answered
  · cases answered
    rfl
  · cases answered
  · cases answered

theorem info_of_completes
    {start final : MakeServiceConnectionInfoFuture Future ConnectionInfo}
    {service : ConnectionWithInfo Inner ConnectionInfo}
    (completes :
      Completes (answers pollInner) start (.ok service) final) :
    service.info = start.info := by
  obtain ⟨last, suspends, answered⟩ := completes
  have kept : last.info = start.info :=
    suspends.invariant (fun state => state.info = start.info)
      (fun before after same waiting => (info_of_pending waiting).trans same)
      rfl
  exact (info_of_ready answered).trans kept

end MakeServiceConnectionInfoFuture

/-! ## Runs of one connection -/

section Runs

variable {Inner Stream Make Future Error : Type u} {ConnectionInfo : Type u}
  [HasConnectionInfo Stream ConnectionInfo]
  {Authority Extensions Body Erased : Type*}
  [ExtensionSlot Extensions Erased]

def Carries (info : Erased)
    (request : Request Authority Extensions Body) : Prop :=
  ExtensionSlot.get request.extensions = some info

/-- The runs of clones and calls from one service, with the requests that are
forwarded to inner services. -/
def InfoRun (cloneInner : Inner → Inner) (erase : ConnectionInfo → Erased)
    (service : ConnectionWithInfo Inner ConnectionInfo) :
    List (HandleOp (Request Authority Extensions Body)) →
      List (ConnectionWithInfo Inner ConnectionInfo) →
        List (Request Authority Extensions Body) → Prop :=
  HandleRun (ConnectionWithInfo.clone cloneInner)
    (ConnectionWithInfo.call cloneInner erase fun _ request => request)
    service

/-- In a run on the service of a connection, all forwarded requests carry its
info exactly when no handle is called that was called before, or cloned from
one that had been, except with requests that carry the info already. -/
theorem forwarded_carry_info_iff
    (pollInner : Future → Poll (Except Error Inner) × Future)
    (cloneMake : Make → Make) (callMake : Make → Stream → Future)
    (make : MakeServiceConnectionInfoService Make) (stream : Stream)
    (service : ConnectionWithInfo Inner ConnectionInfo)
    (final : MakeServiceConnectionInfoFuture Future ConnectionInfo)
    (made :
      Completes (MakeServiceConnectionInfoFuture.answers pollInner)
        (make.call cloneMake callMake stream).1 (.ok service) final)
    (cloneInner : Inner → Inner) (erase : ConnectionInfo → Erased)
    (history : List (HandleOp (Request Authority Extensions Body)))
    (services : List (ConnectionWithInfo Inner ConnectionInfo))
    (forwarded : List (Request Authority Extensions Body))
    (run : InfoRun cloneInner erase service history services forwarded) :
    (∀ request, request ∈ forwarded →
        Carries (erase (HasConnectionInfo.info stream)) request) ↔
      UsesUnspent (Carries (erase (HasConnectionInfo.info stream)))
        history := by
  have hasInfo : service.info = some (HasConnectionInfo.info stream) :=
    MakeServiceConnectionInfoFuture.info_of_completes made
  let Taken (state : ConnectionWithInfo Inner ConnectionInfo) : Prop :=
    state.info = none
  let Holds (state : ConnectionWithInfo Inner ConnectionInfo) : Prop :=
    state.info = none ∨ state.info = some (HasConnectionInfo.info stream)
  have good_iff :
      ∀ (state : ConnectionWithInfo Inner ConnectionInfo)
        (request : Request Authority Extensions Body), Holds state →
          (Carries (erase (HasConnectionInfo.info stream))
              (state.call cloneInner erase (fun _ sent => sent) request).1 ↔
            ¬ Taken state ∨
              Carries (erase (HasConnectionInfo.info stream)) request) := by
    intro state request holds
    rcases holds with taken | kept
    · simp [ConnectionWithInfo.call, Taken, taken]
    · simp [ConnectionWithInfo.call, Taken, kept, Carries,
        ExtensionSlot.get_insert]
  have notTaken : ¬ Taken service := by
    simp [Taken, hasInfo]
  unfold InfoRun at run
  apply run.forall_good_iff
    (Carries (erase (HasConnectionInfo.info stream)))
    (Carries (erase (HasConnectionInfo.info stream))) Taken Holds
    (Or.inr hasInfo) notTaken
  · intro state holds
    exact holds
  · intro state
    exact Iff.rfl
  · intro state request _
    exact Or.inl rfl
  · intro state request
    exact rfl
  · exact good_iff

end Runs

/-! ## Two requests on one connection -/

def peerService : ConnectionWithInfo Unit String :=
  ⟨(), some "peer"⟩

def pollReady (future : Unit) : Poll (Except Empty Unit) × Unit :=
  (.ready (.ok ()), future)

private theorem peerService_made :
    Completes (MakeServiceConnectionInfoFuture.answers pollReady)
      ((⟨()⟩ : MakeServiceConnectionInfoService Unit).call id
        (fun _ _ => ()) (⟨"peer"⟩ : InfoStream String)).1
      (.ok peerService) ⟨(), none⟩ :=
  .of_ready rfl

def plainRequest : Request TextAuthority (Option String) Unit :=
  Request.get .default none ()

def cloneThenCalls :
    List (HandleOp (Request TextAuthority (Option String) Unit)) :=
  [.use 1 plainRequest, .use 0 plainRequest, .clone 0]

theorem forwarded_carry_info_iff_cloneThenCalls :
    ∃ services forwarded,
      InfoRun id id peerService cloneThenCalls services forwarded ∧
        ∀ request, request ∈ forwarded → Carries "peer" request := by
  have run : InfoRun id id peerService cloneThenCalls _ _ :=
    HandleRun.use (HandleRun.use (HandleRun.clone .start rfl) rfl) rfl
  have unspent : UsesUnspent (Carries "peer") cloneThenCalls := by
    refine ⟨Or.inl ?_, Or.inl ?_, trivial⟩
    · intro spent
      cases spent with
      | earlier spent =>
          cases spent with
          | cloned spent => cases spent
          | earlier spent => cases spent
    · intro spent
      cases spent with
      | earlier spent => cases spent
  exact ⟨_, _, run,
    (forwarded_carry_info_iff pollReady id (fun _ _ => ()) _ _ _ _
      peerService_made id id _ _ _ run).mpr unspent⟩

/-- The second of two calls forwards its request without the info. -/
theorem second_request_without_info :
    Completes (MakeServiceConnectionInfoFuture.answers pollReady)
        ((⟨()⟩ : MakeServiceConnectionInfoService Unit).call id
          (fun _ _ => ()) (⟨"peer"⟩ : InfoStream String)).1
        (.ok peerService) ⟨(), none⟩ ∧
      ∃ services,
        InfoRun id id peerService
            [.use 0 plainRequest, .use 0 plainRequest] services
            [plainRequest, { plainRequest with extensions := some "peer" }] ∧
          ¬ Carries "peer" plainRequest := by
  have run :
      InfoRun id id peerService
        [.use 0 plainRequest, .use 0 plainRequest] _ _ :=
    HandleRun.use (HandleRun.use .start rfl) rfl
  exact ⟨peerService_made, _, run, nofun⟩

end Server

end Hyperdriver
