import Hyperdriver.Foundation.Poll

/-!
# Instances of services

A service has to be polled until it is ready before each call, and its clones
have to be polled on their own.  An instance is a number, and the history of
all instances says which of them are ready.

`Oneshot` is the future that owns an instance together with one request, polls
the instance until it is ready, and calls it.
-/

namespace Foundation

universe u v w

inductive InstanceEvent where
  | cloned (source copy : Nat)
  | polled (service : Nat) (ready : Bool)
  | called (service : Nat)
  deriving DecidableEq, Repr

def InstanceEvent.instances : InstanceEvent → List Nat
  | .cloned source copy => [source, copy]
  | .polled service _ => [service]
  | .called service => [service]

/-- The last poll of the instance said that it is ready, and it has not been
called since.  The history is listed from its last event back. -/
def ReadyIn : List InstanceEvent → Nat → Prop
  | [], _ => False
  | .cloned _ copy :: history, service =>
      service ≠ copy ∧ ReadyIn history service
  | .polled polled ready :: history, service =>
      if service = polled then ready = true else ReadyIn history service
  | .called called :: history, service =>
      service ≠ called ∧ ReadyIn history service

/-- Every call was made on an instance that was ready. -/
def RespectsReadiness : List InstanceEvent → Prop
  | [] => True
  | .called service :: history =>
      ReadyIn history service ∧ RespectsReadiness history
  | .cloned _ _ :: history => RespectsReadiness history
  | .polled _ _ :: history => RespectsReadiness history

theorem ReadyIn.of_polled (history : List InstanceEvent) (service : Nat) :
    ReadyIn (.polled service true :: history) service := by
  rw [ReadyIn, if_pos rfl]

/-- The later history adds events about the given instances, and about ones
that are numbered from the bound on. -/
def Concerns (before after : List InstanceEvent) (instances : List Nat)
    (bound : Nat) : Prop :=
  ∃ events, after = events ++ before ∧
    ∀ event, event ∈ events → ∀ service, service ∈ event.instances →
      service ∈ instances ∨ bound ≤ service

namespace Concerns

variable {before middle after : List InstanceEvent} {instances : List Nat}
  {bound : Nat}

theorem refl (history : List InstanceEvent) (instances : List Nat)
    (bound : Nat) : Concerns history history instances bound :=
  ⟨[], rfl, fun _ member => nomatch member⟩

theorem cons {event : InstanceEvent}
    (about :
      ∀ service, service ∈ event.instances →
        service ∈ instances ∨ bound ≤ service)
    (earlier : Concerns before middle instances bound) :
    Concerns before (event :: middle) instances bound := by
  obtain ⟨events, rfl, concerned⟩ := earlier
  refine ⟨event :: events, rfl, ?_⟩
  intro other member
  rcases List.mem_cons.mp member with rfl | later
  · exact about
  · exact concerned other later

theorem trans {last : List InstanceEvent} {later : List Nat}
    {laterBound : Nat}
    (first : Concerns before middle instances bound)
    (second : Concerns middle last later laterBound)
    (given : ∀ service, service ∈ later → service ∈ instances ∨ bound ≤ service)
    (increases : bound ≤ laterBound) :
    Concerns before last instances bound := by
  obtain ⟨events, rfl, concerned⟩ := first
  obtain ⟨laterEvents, rfl, laterConcerned⟩ := second
  refine ⟨laterEvents ++ events, (List.append_assoc _ _ _).symm, ?_⟩
  intro event member service about
  rcases List.mem_append.mp member with new | old
  · rcases laterConcerned event new service about with inLater | numbered
    · exact given service inLater
    · exact Or.inr (Nat.le_trans increases numbered)
  · exact concerned event old service about

/-- An instance that is neither given nor new is left alone. -/
theorem untouched (concerns : Concerns before after instances bound)
    {service : Nat} (notGiven : service ∉ instances)
    (old : service < bound) :
    ∃ events, after = events ++ before ∧
      ∀ event, event ∈ events → service ∉ event.instances := by
  obtain ⟨events, appended, concerned⟩ := concerns
  refine ⟨events, appended, ?_⟩
  intro event member about
  rcases concerned event member service about with given | new
  · exact notGiven given
  · omega

end Concerns

/-! ## One request on one instance -/

/-- `Oneshot`: an instance with the request for it, the future of the call, or
nothing after completion.  The instance that was called stays recorded. -/
inductive Oneshot (Request : Type u) where
  | notReady (service : Nat) (request : Request)
  | called (service : Nat)
  | done
  deriving DecidableEq, Repr

namespace Oneshot

variable {Request : Type u} {Response : Type v} {Error : Type w}

def service : Oneshot Request → Option Nat
  | .notReady service _ => some service
  | .called service => some service
  | .done => none

def pollCalled (service : Nat) (response : Poll (Except Error Response)) :
    Poll (Except Error Response) × Oneshot Request :=
  match response with
  | .pending => (.pending, .called service)
  | .ready (.ok value) => (.ready (.ok value), .done)
  | .ready (.error error) => (.ready (.error error), .called service)

/-- Poll the future in a history of instances.  `ready` and `response` are the
answers of the instance and of the future of its call, if these are polled. -/
def poll (ready : Poll (Except Error Unit))
    (response : Poll (Except Error Response))
    (history : List InstanceEvent) :
    Oneshot Request →
      Checked
        (Poll (Except Error Response) × Oneshot Request ×
          List InstanceEvent)
  | .notReady service request =>
      match ready with
      | .pending =>
          .ok (.pending, .notReady service request,
            .polled service false :: history)
      | .ready (.error error) =>
          .ok (.ready (.error error), .notReady service request,
            .polled service false :: history)
      | .ready (.ok ()) =>
          let (answer, next) := pollCalled service response
          .ok (answer, next,
            .called service :: .polled service true :: history)
  | .called service =>
      let (answer, next) := pollCalled service response
      .ok (answer, next, history)
  | .done => .error (.expect "polled after complete")

theorem pollCalled_service (service : Nat)
    (response : Poll (Except Error Response)) :
    (pollCalled service response : _ × Oneshot Request).2.service =
        some service ∨
      (pollCalled service response : _ × Oneshot Request).2.service =
        none := by
  rcases response with _ | error | value
  · exact Or.inl rfl
  · exact Or.inl rfl
  · exact Or.inr rfl

/-- What a poll leaves: its own instance or none, and a history that respects
readiness and has nothing new about other instances. -/
theorem poll_spec {ready : Poll (Except Error Unit)}
    {response answer : Poll (Except Error Response)}
    {before after : List InstanceEvent} {oneshot next : Oneshot Request}
    (polled : oneshot.poll ready response before = .ok (answer, next, after))
    (bound : Nat) :
    ∃ service, oneshot.service = some service ∧
      (next.service = some service ∨ next.service = none) ∧
        (RespectsReadiness before → RespectsReadiness after) ∧
          Concerns before after [service] bound := by
  cases oneshot with
  | notReady service request =>
      have pollConcerns : ∀ answer : Bool,
          Concerns before (.polled service answer :: before) [service]
            bound :=
        fun _ => (Concerns.refl _ _ _).cons fun _ about => Or.inl about
      refine ⟨service, rfl, ?_⟩
      rcases ready with _ | error | ⟨⟩
      · cases polled
        exact ⟨Or.inl rfl, fun respects => respects, pollConcerns false⟩
      · cases polled
        exact ⟨Or.inl rfl, fun respects => respects, pollConcerns false⟩
      · cases polled
        exact ⟨pollCalled_service service response,
          fun respects => ⟨.of_polled before service, respects⟩,
          (pollConcerns true).cons fun _ about => Or.inl about⟩
  | called service =>
      cases polled
      exact ⟨service, rfl, pollCalled_service service response,
        fun respects => respects, Concerns.refl _ _ _⟩
  | done =>
      cases polled

end Oneshot

end Foundation
