import Hyperdriver.Server.ReadVersion

/-!
# The auto-detecting server connection

An `UpgradableConnection` first detects the protocol of its peer and then hands
the rewound transport and the service to a connection of that protocol.  Both
are held in options until then and moved out by `take().unwrap()`.

The connections that `hyper` provides are parameters: how each is started,
polled, and asked to shut down.  The invariant of a run ties the state to the
options: while the protocol is being detected, the detection owns the transport
and the connection owns the service.
-/

namespace Hyperdriver

open Foundation

universe u

namespace Server

inductive ConnectionError (Error : Type u) where
  | hyper (error : Error)
  | service (message : String)
  | protocol (error : IoError)
  deriving DecidableEq, Repr

/-- A connection served by `hyper`. -/
class HyperConnection (Conn : Type u) (Error : outParam (Type u)) where
  poll : Conn → Poll (Except Error Unit) × Conn
  gracefulShutdown : Conn → Conn

/-- The configured protocols: how each one starts to serve a connection. -/
structure Builder (Io Service Http1 Http2 : Type u) where
  http1 : Rewind Io → Service → Http1
  http2 : Rewind Io → Service → Http2

inductive UpgradableConnection (Io Service Http1 Http2 : Type u) where
  | readVersion (detection : ReadVersion Io)
      (builder : Builder Io Service Http1 Http2) (service : Option Service)
  | http1 (conn : Http1)
  | http2 (conn : Http2)

/-- Start to serve a connection of the detected protocol. -/
def Builder.serve {Io Service Http1 Http2 : Type u}
    (builder : Builder Io Service Http1 Http2) (version : HttpProtocol)
    (rewind : Rewind Io) (service : Service) :
    UpgradableConnection Io Service Http1 Http2 :=
  match version with
  | .http1 => .http1 (builder.http1 rewind service)
  | .http2 => .http2 (builder.http2 rewind service)

namespace UpgradableConnection

variable {Io Service Http1 Http2 Error : Type u}

def started : UpgradableConnection Io Service Http1 Http2 →
    Option HttpProtocol
  | .readVersion _ _ _ => none
  | .http1 _ => some .http1
  | .http2 _ => some .http2

def service : UpgradableConnection Io Service Http1 Http2 → Option Service
  | .readVersion _ _ service => service
  | .http1 _ => none
  | .http2 _ => none

def io : UpgradableConnection Io Service Http1 Http2 → Option Io
  | .readVersion detection _ _ => detection.io
  | .http1 _ => none
  | .http2 _ => none

@[simp]
theorem started_serve (builder : Builder Io Service Http1 Http2)
    (version : HttpProtocol) (rewind : Rewind Io) (service : Service) :
    (builder.serve version rewind service).started = some version := by
  cases version <;> rfl

def serveConnectionWithUpgrades (builder : Builder Io Service Http1 Http2)
    (io : Io) (service : Service) :
    UpgradableConnection Io Service Http1 Http2 :=
  .readVersion (ReadVersion.new io) builder (some service)

def gracefulShutdown [HyperConnection Http1 Error]
    [HyperConnection Http2 Error] :
    UpgradableConnection Io Service Http1 Http2 →
      UpgradableConnection Io Service Http1 Http2
  | .readVersion detection builder service =>
      .readVersion detection.cancel builder service
  | .http1 conn => .http1 (HyperConnection.gracefulShutdown conn)
  | .http2 conn => .http2 (HyperConnection.gracefulShutdown conn)

abbrev Answer (Io Service Http1 Http2 Error : Type u) :=
  Poll (Except (ConnectionError Error) Unit) ×
    UpgradableConnection Io Service Http1 Http2

def poll [Read Io] [HyperConnection Http1 Error]
    [HyperConnection Http2 Error]
    (self : UpgradableConnection Io Service Http1 Http2) :
    Checked (Answer Io Service Http1 Http2 Error) :=
  match self with
  | .readVersion detection builder service => do
      let (answer, detection) ← detection.poll
      match answer with
      | .pending => return (.pending, .readVersion detection builder service)
      | .ready (.error error) =>
          return (.ready (.error (.protocol error)),
            .readVersion detection builder service)
      | .ready (.ok (version, rewind)) =>
          let service ← unwrap service
          poll (builder.serve version rewind service)
  | .http1 conn =>
      let (answer, conn) := HyperConnection.poll conn
      return (answer.map (Except.mapError .hyper), .http1 conn)
  | .http2 conn =>
      let (answer, conn) := HyperConnection.poll conn
      return (answer.map (Except.mapError .hyper), .http2 conn)
termination_by if self.started = none then 1 else 0
decreasing_by
  rw [started_serve]
  simp [started]

section Runs

variable [Read Io] [HyperConnection Http1 Error]
  [HyperConnection Http2 Error]

def answers (before : UpgradableConnection Io Service Http1 Http2)
    (answer : Poll (Except (ConnectionError Error) Unit))
    (after : UpgradableConnection Io Service Http1 Http2) : Prop :=
  before.poll = .ok (answer, after)

/-- One operation on the connection: a poll with any answer, or a graceful
shutdown. -/
inductive Operates : UpgradableConnection Io Service Http1 Http2 →
    UpgradableConnection Io Service Http1 Http2 → Prop
  | poll {before after : UpgradableConnection Io Service Http1 Http2}
      (answer : Poll (Except (ConnectionError Error) Unit)) :
      answers before answer after → Operates before after
  | gracefulShutdown (before : UpgradableConnection Io Service Http1 Http2) :
      Operates before before.gracefulShutdown

/-- The operations that may be followed by another one: a poll is not repeated
once it has been ready. -/
inductive Continues : UpgradableConnection Io Service Http1 Http2 →
    UpgradableConnection Io Service Http1 Http2 → Prop
  | poll {before after : UpgradableConnection Io Service Http1 Http2} :
      answers before .pending after → Continues before after
  | gracefulShutdown (before : UpgradableConnection Io Service Http1 Http2) :
      Continues before before.gracefulShutdown

/-- `Run start state`: some interleaving of pending polls and graceful shutdowns
leads from `start` to `state`. -/
def Run : UpgradableConnection Io Service Http1 Http2 →
    UpgradableConnection Io Service Http1 Http2 → Prop :=
  Relation.ReflTransGen Continues

private theorem Continues.operates
    {before after : UpgradableConnection Io Service Http1 Http2}
    (continues : Continues before after) : Operates before after := by
  cases continues with
  | poll answered =>
      exact .poll .pending answered
  | gracefulShutdown =>
      exact .gracefulShutdown before

/-! ## One operation -/

theorem poll_http1 (conn : Http1) :
    (http1 conn : UpgradableConnection Io Service Http1 Http2).poll =
      .ok ((HyperConnection.poll conn).1.map (Except.mapError .hyper),
        http1 (HyperConnection.poll conn).2) := by
  rw [poll]
  rfl

theorem poll_http2 (conn : Http2) :
    (http2 conn : UpgradableConnection Io Service Http1 Http2).poll =
      .ok ((HyperConnection.poll conn).1.map (Except.mapError .hyper),
        http2 (HyperConnection.poll conn).2) := by
  rw [poll]
  rfl

private theorem poll_of_started
    {self : UpgradableConnection Io Service Http1 Http2}
    {version : HttpProtocol} (running : self.started = some version) :
    ∃ answer after, answers self answer after ∧
      after.started = some version := by
  cases self with
  | readVersion detection builder service =>
      cases running
  | http1 conn =>
      exact ⟨_, _, poll_http1 conn, running⟩
  | http2 conn =>
      exact ⟨_, _, poll_http2 conn, running⟩

/-- Everything a poll can do while the protocol is being detected: the answer
of the detection decides it. -/
inductive DetectionSpec (detection : ReadVersion Io)
    (builder : Builder Io Service Http1 Http2) (service : Service) :
    Poll (Except (ConnectionError Error) Unit) →
      UpgradableConnection Io Service Http1 Http2 → Prop
  | pending {next : ReadVersion Io} :
      ReadVersion.answers detection .pending next →
        DetectionSpec detection builder service .pending
          (.readVersion next builder (some service))
  | failed {next : ReadVersion Io} {error : IoError} :
      ReadVersion.answers detection (.ready (.error error)) next →
        DetectionSpec detection builder service
          (.ready (.error (.protocol error)))
          (.readVersion next builder (some service))
  | detected {next : ReadVersion Io} {version : HttpProtocol}
      {rewind : Rewind Io}
      {answer : Poll (Except (ConnectionError Error) Unit)}
      {after : UpgradableConnection Io Service Http1 Http2} :
      ReadVersion.answers detection (.ready (.ok (version, rewind))) next →
        answers (builder.serve version rewind service) answer after →
          DetectionSpec detection builder service answer after

private theorem poll_detection {detection next : ReadVersion Io}
    (builder : Builder Io Service Http1 Http2) (service : Service)
    {found : Poll (Except IoError (HttpProtocol × Rewind Io))}
    (detected : ReadVersion.answers detection found next) :
    ∃ answer after,
      answers (.readVersion detection builder (some service)) answer after ∧
        DetectionSpec detection builder service answer after := by
  have polled : detection.poll = .ok (found, next) := detected
  simp only [answers, poll, polled]
  rcases found with _ | error | ⟨version, rewind⟩
  · exact ⟨_, _, rfl, .pending detected⟩
  · exact ⟨_, _, rfl, .failed detected⟩
  · obtain ⟨answer, after, served, _⟩ :=
      poll_of_started (started_serve builder version rewind service)
    exact ⟨answer, after, served, .detected detected served⟩

private theorem answers_of_pending {detection next : ReadVersion Io}
    (builder : Builder Io Service Http1 Http2) (held : Option Service)
    (waits : ReadVersion.answers detection .pending next) :
    answers (.readVersion detection builder held) .pending
      (.readVersion next builder held) := by
  have polled : detection.poll = .ok (.pending, next) := waits
  simp only [answers, poll, polled]
  rfl

theorem answers_deterministic
    {state left right : UpgradableConnection Io Service Http1 Http2}
    {first second : Poll (Except (ConnectionError Error) Unit)}
    (answered : answers state first left)
    (other : answers state second right) :
    first = second ∧ left = right := by
  simpa using Except.ok.inj (answered.symm.trans other)

/-! ## The invariant of a run -/

/-- While the protocol is being detected, the connection holds its builder and
service, and the detection is waiting on the transport it owns. -/
def Invariant (builder : Builder Io Service Http1 Http2) (service : Service) :
    UpgradableConnection Io Service Http1 Http2 → Prop
  | .readVersion detection configured held =>
      configured = builder ∧ held = some service ∧
        ∃ io, ReadVersion.Waiting io detection
  | .http1 _ => True
  | .http2 _ => True

variable {builder : Builder Io Service Http1 Http2} {service : Service}

omit [Read Io] [HyperConnection Http1 Error]
  [HyperConnection Http2 Error] in
private theorem invariant_of_started
    {self : UpgradableConnection Io Service Http1 Http2}
    {version : HttpProtocol} (running : self.started = some version) :
    Invariant builder service self := by
  cases self with
  | readVersion detection configured held =>
      cases running
  | http1 conn =>
      trivial
  | http2 conn =>
      trivial

omit [Read Io] [HyperConnection Http1 Error]
  [HyperConnection Http2 Error] in
/-- Under the invariant the service and the transport are held exactly until a
protocol is started. -/
theorem Invariant.held {self : UpgradableConnection Io Service Http1 Http2}
    (holds : Invariant builder service self) :
    if self.started = none then self.service = some service ∧ self.io.isSome
    else self.service = none ∧ self.io = none := by
  cases self with
  | readVersion detection configured held =>
      obtain ⟨_, rfl, io, waiting⟩ := holds
      exact ⟨rfl, by rw [UpgradableConnection.io, waiting.owned]; rfl⟩
  | http1 conn =>
      exact ⟨rfl, rfl⟩
  | http2 conn =>
      exact ⟨rfl, rfl⟩

omit [Read Io] [HyperConnection Http1 Error]
  [HyperConnection Http2 Error] in
private theorem Invariant.service_isSome_iff
    {self : UpgradableConnection Io Service Http1 Http2}
    (holds : Invariant builder service self) :
    self.service.isSome ↔ self.started = none := by
  have held := holds.held
  by_cases detecting : self.started = none
  · rw [if_pos detecting] at held
    simp [held.1, detecting]
  · rw [if_neg detecting] at held
    simp [held.1, detecting]

omit [Read Io] [HyperConnection Http1 Error]
  [HyperConnection Http2 Error] in
private theorem Invariant.io_isSome_iff
    {self : UpgradableConnection Io Service Http1 Http2}
    (holds : Invariant builder service self) :
    self.io.isSome ↔ self.started = none := by
  have held := holds.held
  by_cases detecting : self.started = none
  · rw [if_pos detecting] at held
    simp [held.2, detecting]
  · rw [if_neg detecting] at held
    simp [held.2, detecting]

private theorem Invariant.poll_total
    {self : UpgradableConnection Io Service Http1 Http2}
    (holds : Invariant builder service self) :
    ∃ answer after, answers self answer after := by
  cases self with
  | readVersion detection configured held =>
      obtain ⟨rfl, rfl, io, waiting⟩ := holds
      obtain ⟨found, next, detected⟩ := ReadVersion.poll_total waiting
      obtain ⟨answer, after, answered, _⟩ :=
        poll_detection configured service detected
      exact ⟨answer, after, answered⟩
  | http1 conn =>
      exact ⟨_, _, poll_http1 conn⟩
  | http2 conn =>
      exact ⟨_, _, poll_http2 conn⟩

theorem Invariant.detectionSpec {detection : ReadVersion Io}
    {configured : Builder Io Service Http1 Http2} {held : Option Service}
    {after : UpgradableConnection Io Service Http1 Http2}
    {answer : Poll (Except (ConnectionError Error) Unit)}
    (holds :
      Invariant builder service (.readVersion detection configured held))
    (answered :
      answers (.readVersion detection configured held) answer after) :
    DetectionSpec detection builder service answer after := by
  obtain ⟨rfl, rfl, io, waiting⟩ := holds
  obtain ⟨found, next, detected⟩ := ReadVersion.poll_total waiting
  obtain ⟨other, state, polled, spec⟩ :=
    poll_detection configured service detected
  obtain ⟨rfl, rfl⟩ := answers_deterministic polled answered
  exact spec

theorem started_of_operates
    {before after : UpgradableConnection Io Service Http1 Http2}
    {version : HttpProtocol} (operates : Operates before after)
    (running : before.started = some version) :
    after.started = some version := by
  cases operates with
  | poll answer answered =>
      obtain ⟨_, state, polled, stays⟩ := poll_of_started running
      obtain ⟨_, rfl⟩ := answers_deterministic polled answered
      exact stays
  | gracefulShutdown =>
      cases before with
      | readVersion detection configured held =>
          cases running
      | http1 conn =>
          exact running
      | http2 conn =>
          exact running

private theorem Invariant.operates
    {before after : UpgradableConnection Io Service Http1 Http2}
    (holds : Invariant builder service before)
    (operates : Operates before after) :
    Invariant builder service after := by
  rcases running : before.started with _ | version
  · cases before with
    | http1 conn =>
        cases running
    | http2 conn =>
        cases running
    | readVersion detection configured held =>
        obtain ⟨same, owned, io, waiting⟩ := id holds
        cases operates with
        | poll answer answered =>
            cases holds.detectionSpec answered with
            | pending detected =>
                exact ⟨rfl, rfl,
                  waiting.of_answers detected (by simp)⟩
            | failed detected =>
                exact ⟨rfl, rfl,
                  waiting.of_answers detected (by simp)⟩
            | detected _ served =>
                exact invariant_of_started
                  (started_of_operates (.poll _ served)
                    (started_serve builder _ _ service))
        | gracefulShutdown =>
            exact ⟨same, owned, io, waiting.cancel⟩
  · exact invariant_of_started (started_of_operates operates running)

private theorem Invariant.run
    {before after : UpgradableConnection Io Service Http1 Http2}
    (holds : Invariant builder service before) (run : Run before after) :
    Invariant builder service after := by
  have preserves : Preserves Continues (Invariant builder service) :=
    fun _ _ holds continues => holds.operates continues.operates
  exact preserves.run holds run

private theorem started_of_run
    {before after : UpgradableConnection Io Service Http1 Http2}
    {version : HttpProtocol} (run : Run before after)
    (running : before.started = some version) :
    after.started = some version := by
  have preserves :
      Preserves Continues
        fun state : UpgradableConnection Io Service Http1 Http2 =>
          state.started = some version :=
    fun _ _ running continues =>
      started_of_operates continues.operates running
  exact preserves.run running run

omit [Read Io] [HyperConnection Http1 Error]
  [HyperConnection Http2 Error] in
private theorem invariant_serveConnectionWithUpgrades
    (builder : Builder Io Service Http1 Http2) (io : Io)
    (service : Service) :
    Invariant builder service
      (serveConnectionWithUpgrades builder io service) :=
  ⟨rfl, rfl, io, ReadVersion.waiting_new io⟩

private theorem invariant_of_run {io : Io}
    {state : UpgradableConnection Io Service Http1 Http2}
    (run : Run (serveConnectionWithUpgrades builder io service) state) :
    Invariant builder service state :=
  (invariant_serveConnectionWithUpgrades builder io service).run run

/-! ## Graceful shutdown during detection -/

/-- The connection was asked to shut down before it started a protocol. -/
def Cancelled : UpgradableConnection Io Service Http1 Http2 → Prop
  | .readVersion detection _ _ => detection.cancelled = true
  | .http1 _ => False
  | .http2 _ => False

omit [Read Io] in
private theorem cancelled_gracefulShutdown
    {self : UpgradableConnection Io Service Http1 Http2}
    (detecting : self.started = none) :
    Cancelled self.gracefulShutdown := by
  cases self with
  | readVersion detection configured held =>
      rfl
  | http1 conn =>
      cases detecting
  | http2 conn =>
      cases detecting

private theorem Cancelled.answers_iff
    {self after : UpgradableConnection Io Service Http1 Http2}
    {answer : Poll (Except (ConnectionError Error) Unit)}
    (cancelled : Cancelled self) :
    answers self answer after ↔
      answer = .ready (.error (.protocol (IoError.ofKind .interrupted))) ∧
        after = self := by
  cases self with
  | http1 conn =>
      cases cancelled
  | http2 conn =>
      cases cancelled
  | readVersion detection configured held =>
      have polled :
          answers (.readVersion detection configured held)
            (.ready (.error (.protocol (IoError.ofKind .interrupted))))
            (.readVersion detection configured held) := by
        simp only [answers, poll, ReadVersion.poll_of_cancelled cancelled]
        rfl
      constructor
      · intro answered
        obtain ⟨rfl, rfl⟩ := answers_deterministic polled answered
        exact ⟨rfl, rfl⟩
      · rintro ⟨rfl, rfl⟩
        exact polled

private theorem Cancelled.continues
    {self later : UpgradableConnection Io Service Http1 Http2}
    (cancelled : Cancelled self) (continues : Continues self later) :
    later = self := by
  cases continues with
  | poll answered =>
      cases (cancelled.answers_iff.mp answered).1
  | gracefulShutdown =>
      cases self with
      | http1 conn =>
          cases cancelled
      | http2 conn =>
          cases cancelled
      | readVersion detection configured held =>
          rw [gracefulShutdown, ReadVersion.cancel_of_cancelled cancelled]

private theorem Cancelled.run
    {self later : UpgradableConnection Io Service Http1 Http2}
    (cancelled : Cancelled self) (run : Run self later) :
    later = self := by
  have preserves :
      Preserves Continues
        fun state : UpgradableConnection Io Service Http1 Http2 =>
          state = self := by
    intro before after same continues
    subst same
    exact cancelled.continues continues
  exact preserves.run rfl run

/-! ## Run safety -/

/-- The operation moves the content of `field` out. -/
def MovesOut {Content : Type u}
    (field : UpgradableConnection Io Service Http1 Http2 → Option Content)
    (before after : UpgradableConnection Io Service Http1 Http2) : Prop :=
  (field before).isSome ∧ field after = none

/-- What a run guarantees in one of its states. -/
structure Safe (builder : Builder Io Service Http1 Http2) (service : Service)
    (state : UpgradableConnection Io Service Http1 Http2) : Prop where
  /-- The next poll does not panic. -/
  total : ∃ answer after, answers state answer after
  /-- A protocol that has been started is never left. -/
  forward :
    ∀ after version, Operates state after →
      state.started = some version → after.started = some version
  /-- The operation that starts a protocol is a poll in which the detection
  reports that protocol. -/
  reported :
    ∀ after version, state.started = none → Operates state after →
      after.started = some version →
        ∃ detection next rewind answer,
          state = .readVersion detection builder (some service) ∧
            ReadVersion.answers detection
              (.ready (.ok (version, rewind))) next ∧
            answers state answer after ∧
              answers (builder.serve version rewind service) answer after
  /-- The poll in which the detection reports a protocol starts it. -/
  starts :
    ∀ detection configured held next version rewind,
      state = .readVersion detection configured held →
        ReadVersion.answers detection (.ready (.ok (version, rewind))) next →
          ∃ answer after, answers state answer after ∧
            answers (builder.serve version rewind service) answer after ∧
              after.started = some version
  /-- The service is moved out at most once. -/
  service_once :
    ∀ after later final, MovesOut UpgradableConnection.service state after →
      Operates state after → Run after later → Operates later final →
        ¬ MovesOut UpgradableConnection.service later final
  /-- The transport is moved out at most once. -/
  io_once :
    ∀ after later final, MovesOut io state after →
      Operates state after → Run after later → Operates later final →
        ¬ MovesOut io later final
  /-- A graceful shutdown during detection freezes the connection: no protocol
  is started, the service and the transport stay where they are, and the next
  poll reports the interruption. -/
  shutdown :
    state.started = none → ∀ later, Run state.gracefulShutdown later →
      later.started = none ∧ later.service = some service ∧
        later.io = state.io ∧
          ∀ answer after, answers later answer after ↔
            answer =
                .ready (.error (.protocol (IoError.ofKind .interrupted))) ∧
              after = later

/-- Once a field has been moved out, a protocol has been started, and it is
never filled again. -/
private theorem not_movesOut {Content : Type u}
    {field : UpgradableConnection Io Service Http1 Http2 → Option Content}
    (heldUntilStarted :
      ∀ state, Invariant builder service state →
        ((field state).isSome ↔ state.started = none))
    {state after later final : UpgradableConnection Io Service Http1 Http2}
    (holds : Invariant builder service state)
    (moved : MovesOut field state after) (operates : Operates state after)
    (run : Run after later) :
    ¬ MovesOut field later final := by
  intro again
  have afterHolds := holds.operates operates
  have notDetecting : after.started ≠ none := by
    intro detecting
    have present := (heldUntilStarted after afterHolds).mpr detecting
    rw [moved.2] at present
    cases present
  obtain ⟨version, running⟩ := Option.ne_none_iff_exists'.mp notDetecting
  have stays := started_of_run run running
  have detecting :=
    (heldUntilStarted later (afterHolds.run run)).mp again.1
  cases detecting.symm.trans stays

/-- An operation that starts a protocol polls a detection that reports it. -/
theorem Invariant.reported
    {state after : UpgradableConnection Io Service Http1 Http2}
    {version : HttpProtocol} (holds : Invariant builder service state)
    (detecting : state.started = none) (operates : Operates state after)
    (running : after.started = some version) :
    ∃ detection next rewind answer,
      state = .readVersion detection builder (some service) ∧
        ReadVersion.answers detection (.ready (.ok (version, rewind))) next ∧
          answers state answer after ∧
            answers (builder.serve version rewind service) answer after := by
  cases state with
  | http1 conn =>
      cases detecting
  | http2 conn =>
      cases detecting
  | readVersion detection configured held =>
      obtain ⟨rfl, rfl, _⟩ := id holds
      cases operates with
      | gracefulShutdown =>
          cases running
      | poll answer answered =>
          cases holds.detectionSpec answered with
          | pending _ =>
              cases running
          | failed _ =>
              cases running
          | @detected next reportedVersion rewind _ _ reported served =>
              have same := started_of_operates (.poll answer served)
                (started_serve configured reportedVersion rewind service)
              obtain rfl := Option.some.inj (running.symm.trans same)
              exact ⟨detection, next, rewind, answer, rfl, reported,
                answered, served⟩

/-- The poll in which the detection reports a protocol serves the connection
with it. -/
theorem Invariant.starts {detection next : ReadVersion Io}
    {configured : Builder Io Service Http1 Http2} {held : Option Service}
    {version : HttpProtocol} {rewind : Rewind Io}
    (holds :
      Invariant builder service (.readVersion detection configured held))
    (detected :
      ReadVersion.answers detection (.ready (.ok (version, rewind))) next) :
    ∃ answer after,
      answers (.readVersion detection configured held) answer after ∧
        answers (builder.serve version rewind service) answer after ∧
          after.started = some version := by
  obtain ⟨answer, after, answered⟩ := holds.poll_total
  refine ⟨answer, after, answered, ?_⟩
  cases holds.detectionSpec answered with
  | pending other =>
      cases (ReadVersion.answers_deterministic detected other).1
  | failed other =>
      cases (ReadVersion.answers_deterministic detected other).1
  | detected other served =>
      cases (ReadVersion.answers_deterministic detected other).1
      exact ⟨served,
        started_of_operates (.poll answer served)
          (started_serve builder version rewind service)⟩

/-- Every state that an interleaving of polls and graceful shutdowns reaches is
safe. -/
theorem run_safe {io : Io}
    {state : UpgradableConnection Io Service Http1 Http2}
    (run : Run (serveConnectionWithUpgrades builder io service) state) :
    Safe builder service state := by
  have holds := invariant_of_run run
  refine
    { total := holds.poll_total
      forward := fun after version operates running =>
        started_of_operates operates running
      reported := ?_
      starts := ?_
      service_once := ?_
      io_once := ?_
      shutdown := ?_ }
  · intro after version detecting operates running
    exact holds.reported detecting operates running
  · rintro detection configured held next version rewind rfl detected
    exact holds.starts detected
  · intro after later final moved operates reached _
    exact not_movesOut (fun _ holds => holds.service_isSome_iff) holds moved
      operates reached
  · intro after later final moved operates reached _
    exact not_movesOut (fun _ holds => holds.io_isSome_iff) holds moved
      operates reached
  · intro detecting later reached
    have cancelled := cancelled_gracefulShutdown detecting
    obtain rfl := cancelled.run reached
    cases state with
    | http1 conn =>
        cases detecting
    | http2 conn =>
        cases detecting
    | readVersion detection configured held =>
        exact ⟨rfl, holds.2.1, rfl, fun _ _ => cancelled.answers_iff⟩

end Runs

structure ScriptedConnection where
  answers : List (Poll (Except Nat Unit))
  shutdown : Bool
  deriving DecidableEq, Repr

instance : HyperConnection ScriptedConnection Nat where
  poll conn :=
    match conn.answers with
    | [] => (.ready (.ok ()), conn)
    | answer :: answers => (answer, { conn with answers })
  gracefulShutdown conn := { conn with shutdown := true }

def unpolled :
    UpgradableConnection ScriptedSource Unit ScriptedConnection
      ScriptedConnection :=
  serveConnectionWithUpgrades
    ⟨fun _ _ => ⟨[], false⟩, fun _ _ => ⟨[.pending], false⟩⟩
    ⟨http2Prefix, [.pending]⟩ ()

/-- The connection after a poll in which its transport had nothing to read. -/
def polledOnce :
    UpgradableConnection ScriptedSource Unit ScriptedConnection
      ScriptedConnection :=
  serveConnectionWithUpgrades
    ⟨fun _ _ => ⟨[], false⟩, fun _ _ => ⟨[.pending], false⟩⟩
    ⟨http2Prefix, []⟩ ()

private theorem run_polledOnce : Run unpolled polledOnce := by
  have detection :
      ReadVersion.answers
        (ReadVersion.new (⟨http2Prefix, [.pending]⟩ : ScriptedSource))
        .pending (ReadVersion.new ⟨http2Prefix, []⟩) :=
    (ReadVersion.waiting_new _).answers_pending rfl rfl
  exact .single (.poll (answers_of_pending _ _ detection))

private theorem detects_polledOnce :
    ∃ next,
      ReadVersion.answers
        (ReadVersion.new (⟨http2Prefix, []⟩ : ScriptedSource))
        (.ready (.ok (.http2, Rewind.new ⟨[], []⟩ http2Prefix))) next := by
  have read :
      Read.pollRead (⟨http2Prefix, []⟩ : ScriptedSource) 24 =
        (.ready (.ok ⟨http2Prefix, by decide⟩), ⟨[], []⟩) := by
    decide
  exact (ReadVersion.waiting_new _).answers_verdict rfl read

/-- The preface of HTTP/2 arrives after a pending poll.  The next poll starts
HTTP/2, which no operation leaves and which is the only one to take the service
and the transport.  Shut down instead, the connection reports the interruption
and keeps its transport as it was. -/
theorem run_safe_http2 :
    ∃ serving : UpgradableConnection ScriptedSource Unit ScriptedConnection
        ScriptedConnection,
      answers polledOnce .pending serving ∧
        Run unpolled serving ∧ serving.started = some .http2 ∧
          (∀ after, Operates serving after → after.started = some .http2) ∧
            (∀ later final, Run serving later → Operates later final →
              ¬ MovesOut UpgradableConnection.service later final ∧
                ¬ MovesOut io later final) ∧
              answers polledOnce.gracefulShutdown
                (.ready (.error (.protocol (IoError.ofKind .interrupted))))
                polledOnce.gracefulShutdown := by
  have safe := run_safe run_polledOnce
  obtain ⟨next, detected⟩ := detects_polledOnce
  obtain ⟨answer, serving, answered, served, running⟩ :=
    safe.starts _ _ _ _ _ _ rfl detected
  obtain ⟨rfl, rfl⟩ := answers_deterministic served (poll_http2 _)
  have run : Run unpolled (http2 _) :=
    run_polledOnce.tail (.poll answered)
  have operates : Operates polledOnce (http2 _) := .poll _ answered
  refine ⟨_, answered, run, running, ?_, ?_, ?_⟩
  · intro after continues
    exact (run_safe run).forward after _ continues running
  · intro later final reached continues
    exact ⟨safe.service_once _ later final ⟨rfl, rfl⟩ operates reached
        continues,
      safe.io_once _ later final ⟨rfl, rfl⟩ operates reached continues⟩
  · have frozen := safe.shutdown rfl _ Relation.ReflTransGen.refl
    exact (frozen.2.2.2 _ _).mpr ⟨rfl, rfl⟩

end UpgradableConnection

end Server

end Hyperdriver
