import Hyperdriver.Bridge.TokioIo
import Hyperdriver.Foundation.Behaviour
import Hyperdriver.Server.ServedRequests
import Hyperdriver.Server.Sniffing
import Hyperdriver.Server.Upgradable
import Mathlib.Logic.Function.Iterate

/-!
# Connections with protocol detection

The automatic protocol serves a transport of tokio that it bridges to hyper, and
detects the version of HTTP before it hands the transport to hyper.

A server polls a connection, and asks it to shut down any number of times before
each poll.  To a server, a connection of the automatic protocol is hyper's
connection of the detected version, delayed by the first read, and interrupted
if it is asked to shut down before that read is ready.
-/

namespace Hyperdriver

open Foundation Service
open Stream' (Seq)

/-! ## Bridged transports -/

namespace Bridge

namespace TokioIo

variable {T : Type}

instance [Read T] : Read (TokioIo T) where
  pollRead self capacity :=
    let (answer, inner) := Read.pollRead self.inner capacity
    (answer, { inner })

/-- `TokioIo` as a reader of hyper reads so. -/
theorem hyper_pollRead_eq [Read T] (self : TokioIo T) (buf : BorrowedBuf) :
    (instHyperReadTokioIoOfAsyncRead : HyperRead (TokioIo T)).pollRead self
        buf =
      .ok (readInto self buf) := by
  obtain ⟨answer, next, lent, polled, delivers, same⟩ :=
    readInto_lent self.inner buf
  have bridged :=
    @hyper_pollRead T buf lent answer next _ self (congrArg Except.ok polled)
      delivers
  rw [bridged]
  have settled :
      readInto self buf =
        ((readInto self.inner buf).1, TokioIo.mk (readInto self.inner buf).2.1,
          (readInto self.inner buf).2.2) := by
    unfold readInto
    change
      settle buf
          ((Read.pollRead self.inner buf.remaining).1,
            TokioIo.mk (Read.pollRead self.inner buf.remaining).2) = _
    rcases Read.pollRead self.inner buf.remaining with
      ⟨_ | error | chunk, next⟩
    · rfl
    · rfl
    · rfl
  rw [settled, same]

theorem pollRead_inner [Read T] {self next : TokioIo T} {capacity : Nat}
    {answer : Poll (Except IoError (Chunk capacity))}
    (polled : Read.pollRead self capacity = (answer, next)) :
    Read.pollRead self.inner capacity = (answer, next.inner) := by
  have answered := congrArg Prod.fst polled
  have left := congrArg (fun result => result.2.inner) polled
  exact Prod.ext answered left

instance [ByteSource T] : ByteSource (TokioIo T) where
  rest self := ByteSource.rest self.inner
  rest_of_read polled := ByteSource.rest_of_read (pollRead_inner polled)
  rest_of_empty polled := ByteSource.rest_of_empty (pollRead_inner polled)
  rest_of_error polled := ByteSource.rest_of_error (pollRead_inner polled)
  rest_of_pending polled := ByteSource.rest_of_pending (pollRead_inner polled)

private theorem firstRead_iff [Read T] {source : T} {capacity : Nat}
    {chunk : Chunk capacity} :
    FirstRead (TokioIo.mk source) capacity chunk ↔
      FirstRead source capacity chunk := by
  constructor
  · rintro ⟨next, last, suspends, answered⟩
    refine ⟨next.inner, last.inner, ?_, pollRead_inner answered⟩
    exact suspends.lift TokioIo.inner fun _ _ polled => pollRead_inner polled
  · rintro ⟨next, last, suspends, answered⟩
    refine ⟨⟨next⟩, ⟨last⟩, ?_, ?_⟩
    · refine suspends.lift TokioIo.mk fun before after polled => ?_
      exact congrArg (fun result => (result.1, TokioIo.mk result.2)) polled
    · exact congrArg (fun result => (result.1, TokioIo.mk result.2)) answered

end TokioIo

end Bridge

namespace Server

open Bridge

/-! ## Connections -/

/-- `chateau::server::Connection`. -/
class Connection (Conn : Type) (Error : outParam Type) where
  poll : Conn → Checked (Poll (Except Error Unit) × Conn)
  gracefulShutdown : Conn → Conn

section Connections

variable {Conn Error : Type} [Connection Conn Error]

/-- A poll of a connection that has been asked to shut down a number of times
since the last poll. -/
def pollAsked (asked : Nat) (conn : Conn) :
    Checked (Poll (Except Error Unit) × Conn) :=
  Connection.poll (Connection.gracefulShutdown^[asked] conn)

/-- What a server sees of a connection. -/
def serves (conn : Conn) : Behaviour Nat (Except Error Unit) :=
  behaviour pollAsked conn

end Connections

section Hyper

variable {Conn Error : Type} [HyperConnection Conn Error]

instance : Connection Conn Error where
  poll conn := .ok (HyperConnection.poll conn)
  gracefulShutdown := HyperConnection.gracefulShutdown

end Hyper

/-- The service of a connection, as hyper calls it. -/
abbrev Adapted (S : Type) : Type :=
  TowerHyperService (IncomingRequestService S)

section Upgradable

variable {Io Service Http1 Http2 Error : Type} [Read Io]
  [HyperConnection Http1 Error] [HyperConnection Http2 Error]

instance :
    Connection (UpgradableConnection Io Service Http1 Http2)
      (ConnectionError Error) where
  poll := UpgradableConnection.poll
  gracefulShutdown := UpgradableConnection.gracefulShutdown

end Upgradable

/-- `Connecting`: the connection with the protocol that it borrows. -/
structure Connecting (Io S Http1 Http2 : Type) where
  protocol : Builder (TokioIo Io) (Adapted S) Http1 Http2
  conn : UpgradableConnection (TokioIo Io) (Adapted S) Http1 Http2

namespace Connecting

variable {Io S Http1 Http2 Error : Type}

def build (protocol : Builder (TokioIo Io) (Adapted S) Http1 Http2)
    (service : S) (stream : Io) : Connecting Io S Http1 Http2 where
  protocol := protocol
  conn :=
    .serveConnectionWithUpgrades protocol (TokioIo.mk stream) ⟨⟨service⟩⟩

variable [Read Io] [HyperConnection Http1 Error]
  [HyperConnection Http2 Error]

def gracefulShutdown (self : Connecting Io S Http1 Http2) :
    Connecting Io S Http1 Http2 :=
  { self with conn := self.conn.gracefulShutdown }

def poll (self : Connecting Io S Http1 Http2) :
    Checked
      (Poll (Except (ConnectionError Error) Unit) ×
        Connecting Io S Http1 Http2) := do
  let (answer, conn) ← self.conn.poll
  let self := { self with conn }
  match answer with
  | .pending => return (.pending, self)
  | .ready (.ok ()) => return (.ready (.ok ()), self)
  | .ready (.error error) => return (.ready (.error error), self)

instance :
    Connection (Connecting Io S Http1 Http2) (ConnectionError Error) where
  poll := poll
  gracefulShutdown := gracefulShutdown

end Connecting

/-- `Protocol::serve_connection` of the automatic protocol. -/
def Builder.serveConnection {Io S Http1 Http2 : Type}
    (self : Builder (TokioIo Io) (Adapted S) Http1 Http2) (stream : Io)
    (service : S) : Connecting Io S Http1 Http2 :=
  .build self service stream

/-! ## The first read -/

namespace ReadVersion

variable {Io : Type} [Read Io]

/-- The detection reports what the first read delivers. -/
def sniff (_ : Nat) (io : Io) :
    Checked (Poll (Except IoError (HttpProtocol × Rewind Io)) × Io) :=
  match Read.pollRead io 24 with
  | (.pending, next) => .ok (.pending, next)
  | (.ready (.error error), next) => .ok (.ready (.error error), next)
  | (.ready (.ok chunk), next) =>
      .ok (.ready (.ok (verdict chunk.val, Rewind.new next chunk.val)), next)

/-- The detection of the protocol, unless the connection is asked to shut
down. -/
def detection (io : Io) :
    Behaviour Nat (Except IoError (HttpProtocol × Rewind Io)) :=
  (behaviour sniff io).stoppedBy (0 < ·)
    (.error (IoError.ofKind .interrupted))

/-- A poll of a detection that was cancelled a number of times before. -/
def pollCancelled (asked : Nat) (self : ReadVersion Io) :
    Checked
      (Poll (Except IoError (HttpProtocol × Rewind Io)) × ReadVersion Io) :=
  (cancel^[asked] self).poll

omit [Read Io] in
private theorem cancelled_iterate {asked : Nat} (isAsked : 0 < asked)
    (self : ReadVersion Io) : (cancel^[asked] self).cancelled = true := by
  obtain ⟨earlier, rfl⟩ := Nat.exists_eq_succ_of_ne_zero isAsked.ne'
  rw [Function.iterate_succ_apply']
  rfl

private theorem pollCancelled_of_asked {asked : Nat} (isAsked : 0 < asked)
    (self : ReadVersion Io) :
    ∃ next,
      pollCancelled asked self =
        .ok (.ready (.error (IoError.ofKind .interrupted)), next) :=
  ⟨_, poll_of_cancelled (cancelled_iterate isAsked self)⟩

private theorem behaviour_pollCancelled (io : Io) :
    behaviour pollCancelled (new io) = detection io := by
  refine behaviour_stoppedBy (fun asked => decide (0 < asked)) _ new ?_ io
  intro asked io
  by_cases isAsked : 0 < asked
  · rw [if_pos (by simpa using isAsked)]
    exact pollCancelled_of_asked isAsked _
  · rw [if_neg (by simpa using isAsked)]
    obtain rfl := Nat.eq_zero_of_not_pos isAsked
    obtain ⟨answer, after, answered, spec⟩ :=
      readLoop_spec (waiting_new io) (filled_readBuf (new io))
    have polled : pollCancelled 0 (new io) = .ok (answer, after) := answered
    rw [polled, sniff]
    cases spec with
    | pending read =>
        rw [read]
        exact .pending rfl
    | failed read =>
        rw [read]
        exact .ready _ _ _
    | decided read _ =>
        rw [read]
        exact .ready _ _ _

private theorem pollRead_of_sniff_pending {input : Nat} {io next : Io}
    (sniffed : sniff input io = .ok (.pending, next)) :
    Read.pollRead io 24 = (.pending, next) := by
  rw [sniff] at sniffed
  rcases read : Read.pollRead io 24 with ⟨_ | error | chunk, after⟩
  · rw [read] at sniffed
    cases sniffed
    rfl
  · rw [read] at sniffed
    cases sniffed
  · rw [read] at sniffed
    cases sniffed

private theorem pollRead_of_sniff_ready {input : Nat} {io next : Io}
    {version : HttpProtocol} {rewind : Rewind Io}
    (sniffed :
      sniff input io = .ok (.ready (.ok (version, rewind)), next)) :
    ∃ chunk : Chunk 24,
      Read.pollRead io 24 = (.ready (.ok chunk), rewind.inner) ∧
        version = verdict chunk.val ∧
          rewind.prefixBytes = some chunk.val := by
  rw [sniff] at sniffed
  rcases read : Read.pollRead io 24 with ⟨_ | error | chunk, after⟩
  · rw [read] at sniffed
    cases sniffed
  · rw [read] at sniffed
    cases sniffed
  · rw [read] at sniffed
    cases sniffed
    exact ⟨chunk, rfl, rfl, rfl⟩

/-- The version is the verdict on the first read, which is put back. -/
theorem firstRead_of_detection {io : Io} {polls : List Nat}
    {version : HttpProtocol} {rewind : Rewind Io}
    (detected :
      detection io polls = .ok (.ready (.ok (version, rewind)))) :
    ∃ chunk : Chunk 24,
      Completes (readAnswers 24) io (.ok chunk) rewind.inner ∧
        version = verdict chunk.val ∧
          rewind.prefixBytes = some chunk.val := by
  have sniffed := Behaviour.ready_of_stoppedBy detected nofun
  obtain ⟨final, last, suspends, _, ready⟩ := completes_of_behaviour sniffed
  obtain ⟨chunk, read, decided, putBack⟩ := pollRead_of_sniff_ready ready
  refine ⟨chunk, ⟨last, ?_, read⟩, decided, putBack⟩
  refine Relation.ReflTransGen.mono ?_ _ _ suspends
  rintro before after ⟨_, pending⟩
  exact pollRead_of_sniff_pending pending

end ReadVersion

/-! ## Serving -/

/-- A wrapper that converts the error of its connection. -/
theorem serves_of_wraps {Conn Outer Error Failure : Type}
    [Connection Conn Error] [Connection Outer Failure] (wrap : Conn → Outer)
    (convert : Error → Failure)
    (shutsDown :
      ∀ conn,
        wrap (Connection.gracefulShutdown conn) =
          Connection.gracefulShutdown (wrap conn))
    (polls :
      ∀ conn,
        Connection.poll (wrap conn) =
          (Connection.poll conn).map fun (answer, next) =>
            (answer.map (Except.mapError convert), wrap next))
    (conn : Conn) :
    serves (wrap conn) = (serves conn).map (Except.mapError convert) := by
  refine behaviour_map ?_ conn
  intro asked conn
  have asks := Function.Semiconj.iterate_right shutsDown asked conn
  rw [pollAsked, ← asks, polls]
  rfl

section Serving

variable {Io Service Http1 Http2 Error : Type} [Read Io]
  [HyperConnection Http1 Error] [HyperConnection Http2 Error]
  (builder : Builder Io Service Http1 Http2) (service : Service)

/-- What follows the detection: hyper's connection of the version. -/
def served :
    Except IoError (HttpProtocol × Rewind Io) →
      Behaviour Nat (Except (ConnectionError Error) Unit)
  | .error error => .immediate (.error (.protocol error))
  | .ok (.http1, rewind) =>
      (serves (builder.http1 rewind service)).map (Except.mapError .hyper)
  | .ok (.http2, rewind) =>
      (serves (builder.http2 rewind service)).map (Except.mapError .hyper)

private theorem serves_serve (version : HttpProtocol) (rewind : Rewind Io) :
    serves (builder.serve version rewind service) =
      served builder service (.ok (version, rewind)) := by
  cases version with
  | http1 =>
      refine
        serves_of_wraps
          (.http1 : Http1 → UpgradableConnection Io Service Http1 Http2)
          .hyper (fun _ => rfl) ?_ _
      exact UpgradableConnection.poll_http1
  | http2 =>
      refine
        serves_of_wraps
          (.http2 : Http2 → UpgradableConnection Io Service Http1 Http2)
          .hyper (fun _ => rfl) ?_ _
      exact UpgradableConnection.poll_http2

def detecting (detection : ReadVersion Io) :
    UpgradableConnection Io Service Http1 Http2 :=
  .readVersion detection builder (some service)

private theorem pollAsked_detecting (asked : Nat) (detection : ReadVersion Io) :
    pollAsked asked (detecting builder service detection) =
      UpgradableConnection.poll
        (detecting builder service (ReadVersion.cancel^[asked] detection)) := by
  have shutsDown :
      Function.Semiconj (detecting builder service) ReadVersion.cancel
        Connection.gracefulShutdown :=
    fun _ => rfl
  have asks := shutsDown.iterate_right asked detection
  exact congrArg UpgradableConnection.poll asks.symm

/-- The connection is hyper's, once the protocol has been detected. -/
theorem serves_serveConnectionWithUpgrades (io : Io) :
    serves
        (UpgradableConnection.serveConnectionWithUpgrades builder io
          service) =
      (ReadVersion.detection io).andThen (served builder service) := by
  rw [← ReadVersion.behaviour_pollCancelled]
  refine behaviour_andThen (detecting builder service) _ ?_ _
  intro asked detection
  have polled := pollAsked_detecting builder service asked detection
  rw [detecting, detecting, UpgradableConnection.poll] at polled
  rw [ReadVersion.pollCancelled]
  rcases answered : (ReadVersion.cancel^[asked] detection).poll with
    panic | ⟨_ | error | ⟨version, rewind⟩, next⟩
  · rw [answered] at polled
    exact polled
  · rw [answered] at polled
    exact polled
  · rw [answered] at polled
    intro rest
    rw [behaviour, detecting, polled]
    rfl
  · -- A connection that was asked to shut down does not get here.
    have notAsked : asked = 0 := by
      by_contra isAsked
      obtain ⟨_, interrupts⟩ :=
        ReadVersion.pollCancelled_of_asked (Nat.pos_of_ne_zero isAsked)
          detection
      cases interrupts.symm.trans answered
    subst notAsked
    rw [answered] at polled
    intro rest
    rw [← serves_serve, serves, behaviour, behaviour, detecting, polled]
    rfl

end Serving

/-! ## Main result -/

section Served

variable {Io S Http1 Http2 Error : Type} [HyperConnection Http1 Error]
  [HyperConnection Http2 Error]

private theorem serves_serveConnection [Read Io]
    (builder : Builder (TokioIo Io) (Adapted S) Http1 Http2) (stream : Io)
    (service : S) :
    serves (builder.serveConnection stream service) =
      serves (builder.serveConnection stream service).conn := by
  have polls :
      ∀ asked conn,
        pollAsked asked (Connecting.mk builder conn) =
          (pollAsked asked conn).map fun (answer, next) =>
            (answer.map id, Connecting.mk builder next) := by
    intro asked conn
    have shutsDown :
        Function.Semiconj (Connecting.mk builder) Connection.gracefulShutdown
          Connection.gracefulShutdown :=
      fun _ => rfl
    have asks := shutsDown.iterate_right asked conn
    rw [pollAsked, ← asks, pollAsked]
    change Connecting.poll (Connecting.mk builder _) = _
    rw [Connecting.poll]
    change _ = (UpgradableConnection.poll _).map _
    rcases UpgradableConnection.poll (Connection.gracefulShutdown^[asked] conn)
      with panic | ⟨_ | error | done, next⟩
    · rfl
    · rfl
    · rfl
    · rfl
  have same := behaviour_map polls (builder.serveConnection stream service).conn
  rw [Behaviour.map_id] at same
  exact same

/-- To a server, a connection of the automatic protocol is hyper's connection of
the detected version, delayed by the first read of the stream and interrupted if
it is asked to shut down before.  The transport that hyper gets delivers the
whole stream, and the version is HTTP/2 exactly if the stream starts with the
preface and the first read delivers all of it. -/
theorem connecting_serves_stream [ByteSource Io]
    (builder : Builder (TokioIo Io) (Adapted S) Http1 Http2) (stream : Io)
    (service : S) :
    serves (builder.serveConnection stream service) =
        (ReadVersion.detection (TokioIo.mk stream)).andThen
          (served builder ⟨⟨service⟩⟩) ∧
      ∀ polls version rewind,
        ReadVersion.detection (TokioIo.mk stream) polls =
            .ok (.ready (.ok (version, rewind))) →
          ByteSource.rest rewind = ByteSource.rest stream ∧
            (version = .http2 ↔
              StartsWith http2Prefix (ByteSource.rest stream) ∧
                ReadVersion.WholeFirstRead stream) := by
  constructor
  · rw [serves_serveConnection]
    exact serves_serveConnectionWithUpgrades builder _ _
  · intro polls version rewind detected
    obtain ⟨chunk, read, rfl, putBack⟩ :=
      ReadVersion.firstRead_of_detection detected
    have split := rest_of_completes read
    constructor
    · rw [Rewind.rest_of_prefixBytes putBack]
      exact split.symm
    · obtain ⟨final, completes⟩ := ReadVersion.completes_of_first_read read
      rw [ReadVersion.version_eq_http2_iff completes]
      simp only [ReadVersion.WholeFirstRead, TokioIo.firstRead_iff]
      rfl

end Served

/-- A connection that still waits for the preface is asked to shut down. -/
example :
    ReadVersion.detection (TokioIo.mk ReadVersion.wholePreface) [0, 1] =
      .ok (.ready (.error (IoError.ofKind .interrupted))) :=
  rfl

end Server

end Hyperdriver
