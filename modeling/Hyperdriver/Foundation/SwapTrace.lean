import Mathlib.Logic.Function.Basic

/-!
# Traces of wrappers that swap clones in

A wrapper holds an instance of a service.  When a handle of the wrapper is
called, it puts a clone into the place of its instance; the instance that was
there is called at once, or later by the future of the call, or not at all.

A trace records what happens to handles and to instances, from the last event
back.  Handles, futures and instances are numbered.
-/

namespace Foundation

inductive SwapEvent where
  | handleCloned (source copy : Nat)
  | serviceCloned (copy : Nat)
  | polled (handle service : Nat) (ready : Bool)
  | called (handle future : Nat)
  | serviceCalled (future service : Nat)
  deriving DecidableEq, Repr

/-! ## Readiness -/

/-- The handle has answered that it is ready when it polled the instance, and
has not been called since. -/
def ReadyFor : List SwapEvent → Nat → Nat → Prop
  | [], _, _ => False
  | .handleCloned _ _ :: trace, handle, service => ReadyFor trace handle service
  | .serviceCloned _ :: trace, handle, service => ReadyFor trace handle service
  | .polled other polled ready :: trace, handle, service =>
      (other = handle ∧ polled = service ∧ ready = true) ∨
        ReadyFor trace handle service
  | .called other _ :: trace, handle, service =>
      other ≠ handle ∧ ReadyFor trace handle service
  | .serviceCalled _ _ :: trace, handle, service =>
      ReadyFor trace handle service

def HandleReady (trace : List SwapEvent) (handle : Nat) : Prop :=
  ∃ service, ReadyFor trace handle service

/-- The instance has answered that it is ready, and has not been called
since. -/
def ServiceReady : List SwapEvent → Nat → Prop
  | [], _ => False
  | .handleCloned _ _ :: trace, service => ServiceReady trace service
  | .serviceCloned _ :: trace, service => ServiceReady trace service
  | .polled _ polled ready :: trace, service =>
      (polled = service ∧ ready = true) ∨ ServiceReady trace service
  | .called _ _ :: trace, service => ServiceReady trace service
  | .serviceCalled _ called :: trace, service =>
      called ≠ service ∧ ServiceReady trace service

/-- The handle has been polled since it was made or last called. -/
def PolledSince : List SwapEvent → Nat → Prop
  | [], _ => False
  | .handleCloned _ _ :: trace, handle => PolledSince trace handle
  | .serviceCloned _ :: trace, handle => PolledSince trace handle
  | .polled other _ _ :: trace, handle =>
      other = handle ∨ PolledSince trace handle
  | .called other _ :: trace, handle =>
      other ≠ handle ∧ PolledSince trace handle
  | .serviceCalled _ _ :: trace, handle => PolledSince trace handle

def SwapEvent.Touches (service : Nat) : SwapEvent → Prop
  | .polled _ other _ => other = service
  | .serviceCalled _ other => other = service
  | .handleCloned _ _ => False
  | .serviceCloned _ => False
  | .called _ _ => False

/-- The instance has been neither polled nor called. -/
def Untouched (trace : List SwapEvent) (service : Nat) : Prop :=
  ∀ event, event ∈ trace → ¬ event.Touches service

/-- Each call of a handle follows an answer of that handle that it is ready,
with no other call in between. -/
def RespectsHandles : List SwapEvent → Prop
  | [] => True
  | .called handle _ :: trace =>
      HandleReady trace handle ∧ RespectsHandles trace
  | .handleCloned _ _ :: trace => RespectsHandles trace
  | .serviceCloned _ :: trace => RespectsHandles trace
  | .polled _ _ _ :: trace => RespectsHandles trace
  | .serviceCalled _ _ :: trace => RespectsHandles trace

/-! ## What is shown of the calls on instances -/

/-- A call that a future makes on an instance after the trace is justified: the
instance is ready, the future has made no call yet, and the call of the handle
that made the future followed an answer of that handle from this instance. -/
structure CallJustified (trace : List SwapEvent) (future service : Nat) :
    Prop where
  ready : ServiceReady trace service
  first : ∀ other, .serviceCalled future other ∉ trace
  exact :
    ∃ handle before after,
      trace = after ++ .called handle future :: before ∧
        ReadyFor before handle service

def CallsJustified : List SwapEvent → Prop
  | [] => True
  | .serviceCalled future service :: trace =>
      CallJustified trace future service ∧ CallsJustified trace
  | .handleCloned _ _ :: trace => CallsJustified trace
  | .serviceCloned _ :: trace => CallsJustified trace
  | .polled _ _ _ :: trace => CallsJustified trace
  | .called _ _ :: trace => CallsJustified trace

/-- The handle is ready just when its instance is, and an instance that it was
not polled with is fresh. -/
structure HandleMirrors (trace : List SwapEvent) (handle service : Nat) :
    Prop where
  only : ∀ other, ReadyFor trace handle other → other = service
  mirrors : HandleReady trace handle ↔ ServiceReady trace service
  fresh : ¬ PolledSince trace handle → Untouched trace service

/-! ## Numbers that occur -/

def SwapEvent.Below (handles futures services : Nat) : SwapEvent → Prop
  | .handleCloned source copy => source < handles ∧ copy < handles
  | .serviceCloned copy => copy < services
  | .polled handle service _ => handle < handles ∧ service < services
  | .called handle future => handle < handles ∧ future < futures
  | .serviceCalled future service => future < futures ∧ service < services

def AllBelow (handles futures services : Nat) (trace : List SwapEvent) :
    Prop :=
  ∀ event, event ∈ trace → event.Below handles futures services

section Below

variable {handles futures services : Nat} {trace : List SwapEvent}

theorem AllBelow.cons {event : SwapEvent}
    (first : event.Below handles futures services)
    (rest : AllBelow handles futures services trace) :
    AllBelow handles futures services (event :: trace) := by
  intro other member
  rcases List.mem_cons.mp member with rfl | later
  · exact first
  · exact rest other later

theorem AllBelow.mono {moreHandles moreFutures moreServices : Nat}
    (below : AllBelow handles futures services trace)
    (handlesLe : handles ≤ moreHandles) (futuresLe : futures ≤ moreFutures)
    (servicesLe : services ≤ moreServices) :
    AllBelow moreHandles moreFutures moreServices trace := by
  intro event member
  have bounds := below event member
  cases event
  all_goals
    simp only [SwapEvent.Below] at bounds ⊢
    omega

/-- A handle was polled if it is ready for an instance. -/
theorem ReadyFor.exists_polled {handle service : Nat}
    (ready : ReadyFor trace handle service) :
    ∃ answer, .polled handle service answer ∈ trace := by
  induction trace with
  | nil =>
      exact ready.elim
  | cons event trace inductionHypothesis =>
      have later :
          ReadyFor trace handle service →
            ∃ answer, .polled handle service answer ∈ event :: trace := by
        intro earlier
        obtain ⟨answer, member⟩ := inductionHypothesis earlier
        exact ⟨answer, List.mem_cons_of_mem _ member⟩
      cases event with
      | handleCloned _ _ => exact later ready
      | serviceCloned _ => exact later ready
      | polled other polled answer =>
          rcases ready with ⟨rfl, rfl, _⟩ | earlier
          · exact ⟨answer, List.mem_cons_self⟩
          · exact later earlier
      | called _ _ => exact later ready.2
      | serviceCalled _ _ => exact later ready

theorem ServiceReady.not_untouched {service : Nat}
    (ready : ServiceReady trace service) : ¬ Untouched trace service := by
  induction trace with
  | nil =>
      exact ready.elim
  | cons event trace inductionHypothesis =>
      intro untouched
      have earlier : Untouched trace service :=
        fun other member => untouched other (List.mem_cons_of_mem _ member)
      have notEarlier : ¬ ServiceReady trace service :=
        fun ready => inductionHypothesis ready earlier
      cases event with
      | handleCloned _ _ => exact notEarlier ready
      | serviceCloned _ => exact notEarlier ready
      | polled _ polled _ =>
          rcases ready with ⟨same, _⟩ | ready
          · exact untouched _ List.mem_cons_self same
          · exact notEarlier ready
      | called _ _ => exact notEarlier ready
      | serviceCalled _ _ => exact notEarlier ready.2

theorem AllBelow.not_readyFor (below : AllBelow handles futures services trace)
    {handle : Nat} (new : handles ≤ handle) (service : Nat) :
    ¬ ReadyFor trace handle service := by
  intro ready
  obtain ⟨answer, member⟩ := ready.exists_polled
  have bounds := below _ member
  exact Nat.not_lt.mpr new bounds.1

theorem AllBelow.untouched (below : AllBelow handles futures services trace)
    {service : Nat} (new : services ≤ service) : Untouched trace service := by
  intro event member touches
  have bounds := below event member
  cases event with
  | handleCloned _ _ => exact touches
  | serviceCloned _ => exact touches
  | polled _ polled _ =>
      cases touches
      exact Nat.not_lt.mpr new bounds.2
  | called _ _ => exact touches
  | serviceCalled _ called =>
      cases touches
      exact Nat.not_lt.mpr new bounds.2

theorem AllBelow.not_serviceCalled
    (below : AllBelow handles futures services trace) {future : Nat}
    (new : futures ≤ future) (service : Nat) :
    .serviceCalled future service ∉ trace := by
  intro member
  have bounds := below _ member
  exact Nat.not_lt.mpr new bounds.1

end Below

/-! ## How the predicates change -/

section Events

variable {trace : List SwapEvent} {handle future service : Nat}

theorem Untouched.cons {event : SwapEvent}
    (untouched : Untouched trace service)
    (notTouched : ¬ event.Touches service) :
    Untouched (event :: trace) service := by
  intro other member
  rcases List.mem_cons.mp member with rfl | earlier
  · exact notTouched
  · exact untouched other earlier

/-- A handle that is not ready mirrors a fresh instance. -/
theorem HandleMirrors.of_untouched
    (notReady : ∀ other, ¬ ReadyFor trace handle other)
    (untouched : Untouched trace service) :
    HandleMirrors trace handle service where
  only other ready := (notReady other ready).elim
  mirrors := by
    constructor
    · rintro ⟨other, ready⟩
      exact (notReady other ready).elim
    · intro ready
      exact (ready.not_untouched untouched).elim
  fresh _ := untouched

theorem HandleMirrors.handleCloned
    (mirror : HandleMirrors trace handle service) (source copy : Nat) :
    HandleMirrors (.handleCloned source copy :: trace) handle service where
  only := mirror.only
  mirrors := mirror.mirrors
  fresh unpolled := (mirror.fresh unpolled).cons fun touches => touches

theorem HandleMirrors.serviceCloned
    (mirror : HandleMirrors trace handle service) (copy : Nat) :
    HandleMirrors (.serviceCloned copy :: trace) handle service where
  only := mirror.only
  mirrors := mirror.mirrors
  fresh unpolled := (mirror.fresh unpolled).cons fun touches => touches

theorem HandleMirrors.polled (mirror : HandleMirrors trace handle service)
    (ready : Bool) :
    HandleMirrors (.polled handle service ready :: trace) handle service where
  only other isReady := by
    rcases isReady with ⟨_, same, _⟩ | earlier
    · exact same.symm
    · exact mirror.only other earlier
  mirrors := by
    constructor
    · rintro ⟨other, ⟨_, _, answered⟩ | earlier⟩
      · exact Or.inl ⟨rfl, answered⟩
      · exact Or.inr (mirror.mirrors.mp ⟨other, earlier⟩)
    · rintro (⟨_, answered⟩ | earlier)
      · exact ⟨service, Or.inl ⟨rfl, rfl, answered⟩⟩
      · obtain ⟨other, isReady⟩ := mirror.mirrors.mpr earlier
        exact ⟨other, Or.inr isReady⟩
  fresh unpolled := (unpolled (Or.inl rfl)).elim

theorem HandleMirrors.polled_of_ne
    (mirror : HandleMirrors trace handle service) {other polled : Nat}
    (otherHandle : other ≠ handle) (otherService : polled ≠ service)
    (ready : Bool) :
    HandleMirrors (.polled other polled ready :: trace) handle service where
  only found isReady := by
    rcases isReady with ⟨same, _⟩ | earlier
    · exact (otherHandle same).elim
    · exact mirror.only found earlier
  mirrors := by
    constructor
    · rintro ⟨found, ⟨same, _⟩ | earlier⟩
      · exact (otherHandle same).elim
      · exact Or.inr (mirror.mirrors.mp ⟨found, earlier⟩)
    · rintro (⟨same, _⟩ | earlier)
      · exact (otherService same).elim
      · obtain ⟨found, isReady⟩ := mirror.mirrors.mpr earlier
        exact ⟨found, Or.inr isReady⟩
  fresh unpolled :=
    (mirror.fresh fun polled => unpolled (Or.inr polled)).cons otherService

theorem HandleMirrors.called_of_ne
    (mirror : HandleMirrors trace handle service) {other : Nat}
    (otherHandle : other ≠ handle) (future : Nat) :
    HandleMirrors (.called other future :: trace) handle service where
  only found isReady := mirror.only found isReady.2
  mirrors := by
    refine Iff.trans ?_ mirror.mirrors
    constructor
    · rintro ⟨found, _, earlier⟩
      exact ⟨found, earlier⟩
    · rintro ⟨found, earlier⟩
      exact ⟨found, otherHandle, earlier⟩
  fresh unpolled :=
    (mirror.fresh fun polled => unpolled ⟨otherHandle, polled⟩).cons
      fun touches => touches

theorem HandleMirrors.serviceCalled_of_ne
    (mirror : HandleMirrors trace handle service) {called : Nat}
    (otherService : called ≠ service) (future : Nat) :
    HandleMirrors (.serviceCalled future called :: trace) handle service where
  only := mirror.only
  mirrors := by
    refine Iff.trans mirror.mirrors ?_
    exact ⟨fun ready => ⟨otherService, ready⟩, And.right⟩
  fresh unpolled := (mirror.fresh unpolled).cons otherService

/-- A call of the handle leaves it with a fresh instance. -/
theorem HandleMirrors.called (untouched : Untouched trace service)
    (handle future copy : Nat) :
    HandleMirrors (.called handle future :: .serviceCloned copy :: trace)
      handle service := by
  apply HandleMirrors.of_untouched
  · exact fun _ ready => ready.1 rfl
  · apply Untouched.cons
    · exact untouched.cons id
    · exact id

/-- A call of a handle that is ready justifies one call on its instance. -/
theorem HandleMirrors.callJustified
    (mirror : HandleMirrors trace handle service)
    (ready : HandleReady trace handle)
    (first : ∀ other, .serviceCalled future other ∉ trace) (copy : Nat) :
    CallJustified (.called handle future :: .serviceCloned copy :: trace)
      future service := by
  obtain ⟨found, isReady⟩ := ready
  have exact : ReadyFor trace handle service :=
    mirror.only found isReady ▸ isReady
  exact
    { ready := mirror.mirrors.mp ⟨service, exact⟩
      first := by
        intro other member
        have earlier : .serviceCalled future other ∈ trace := by
          simpa using member
        exact first other earlier
      exact := ⟨handle, .serviceCloned copy :: trace, [], rfl, exact⟩ }

/-- Events other than calls on instances leave a call justified. -/
theorem CallJustified.cons (justified : CallJustified trace future service)
    {event : SwapEvent}
    (ready :
      ServiceReady trace service → ServiceReady (event :: trace) service)
    (notFirst : ∀ other, event ≠ .serviceCalled future other) :
    CallJustified (event :: trace) future service where
  ready := ready justified.ready
  first other member := by
    rcases List.mem_cons.mp member with same | earlier
    · exact notFirst other same.symm
    · exact justified.first other earlier
  exact := by
    obtain ⟨handle, before, after, isTrace, isReady⟩ := justified.exact
    exact ⟨handle, before, event :: after, by rw [isTrace]; rfl, isReady⟩

end Events

end Foundation
