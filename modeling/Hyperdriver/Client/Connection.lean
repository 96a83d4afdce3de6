import Hyperdriver.Foundation.Leases
import Hyperdriver.Foundation.Poll
import Hyperdriver.Service.Host

/-!
# Connections of the client

A connection of the client wraps the sender of hyper for its protocol.  The
sender of an HTTP/2 connection can be cloned, so that several requests are sent
on it at a time.  The sender of an HTTP/1 connection cannot, and such a
connection never has two handles, whatever the pool does with it.
-/

namespace Hyperdriver

open Foundation

universe u v w x y z

namespace Client

/-! ## What is used of hyper -/

/-- The sender of one connection, as `SendRequest` of either protocol. -/
class SendRequest (Sender : Type u) (Sent : outParam (Type v))
    (Future : outParam (Type w)) (Error : outParam (Type x)) where
  sendRequest : Sender → Sent → Future × Sender
  pollReady : Sender → Poll (Except Error Unit) × Sender
  isReady : Sender → Bool

/-- A sender that can be cloned. -/
class SharedSender (Sender : Type u) where
  clone : Sender → Sender

/-- What the future of a request dispatches, and on which connection. -/
class Dispatch (Future : Type u) (ConnectionId : outParam (Type v))
    (Sent : outParam (Type w)) where
  dispatched : Future → ConnectionId × Sent

/-- A sender stays on its connection, and the future of a request is for that
request on that connection. -/
class LawfulSender (Sender : Type u) {Sent : outParam (Type v)}
    {Future : outParam (Type w)} {Error : outParam (Type x)}
    (ConnectionId : outParam (Type y)) [SendRequest Sender Sent Future Error]
    [Dispatch Future ConnectionId Sent] where
  connection : Sender → ConnectionId
  connection_sendRequest :
    ∀ (sender : Sender) (sent : Sent),
      connection (SendRequest.sendRequest sender sent).2 = connection sender
  connection_pollReady :
    ∀ sender : Sender,
      connection (SendRequest.pollReady sender).2 = connection sender
  dispatched_sendRequest :
    ∀ (sender : Sender) (sent : Sent),
      Dispatch.dispatched (SendRequest.sendRequest sender sent).1 =
        (connection sender, sent)

/-- A clone of a sender is on the same connection. -/
class LawfulSharedSender (Sender : Type u) {Sent : outParam (Type v)}
    {Future : outParam (Type w)} {Error : outParam (Type x)}
    (ConnectionId : outParam (Type y)) [SendRequest Sender Sent Future Error]
    [Dispatch Future ConnectionId Sent] [SharedSender Sender] extends
    LawfulSender Sender ConnectionId where
  connection_clone :
    ∀ sender : Sender,
      connection (SharedSender.clone sender) = connection sender

/-! ## Connections -/

class Connection (Conn : Type u) (Sent : outParam (Type v))
    (Future : outParam (Type w)) (Error : outParam (Type x)) where
  sendRequest : Conn → Sent → Future × Conn
  pollReady : Conn → Poll (Except Error Unit) × Conn

class PoolableConnection (Conn : Type u) where
  isOpen : Conn → Bool
  canShare : Conn → Bool
  reuse : Conn → Option Conn × Conn

/-- `SendRequestFuture`: a boxed future of hyper. -/
structure SendRequestFuture (Future : Type u) where
  inner : Future

structure Http1Connection (Sender : Type u) where
  sender : Sender

structure Http2Connection (Sender : Type u) where
  sender : Sender

inductive InnerConnection (Http2Sender : Type u) (Http1Sender : Type v) where
  | h2 (conn : Http2Sender)
  | h1 (conn : Http1Sender)

/-- A connection of either protocol. -/
structure HttpConnection (Http2Sender : Type u) (Http1Sender : Type v) where
  inner : InnerConnection Http2Sender Http1Sender

section Connections

variable {Sender : Type u} {Http2Sender : Type u} {Http1Sender : Type v}
  {Authority Extensions Body : Type*} {Future : Type w} {Error : Type x}

section Http1

variable
  [SendRequest Sender (Request Authority Extensions Body) Future Error]

instance :
    Connection (Http1Connection Sender) (Request Authority Extensions Body)
      (SendRequestFuture Future) Error where
  sendRequest conn request :=
    let (future, sender) :=
      SendRequest.sendRequest conn.sender { request with version := .http11 }
    (⟨future⟩, ⟨sender⟩)
  pollReady conn :=
    let (answer, sender) := SendRequest.pollReady conn.sender
    (answer, ⟨sender⟩)

instance : HttpConnectionInfo (Http1Connection Sender) where
  version _ := .http1

instance : PoolableConnection (Http1Connection Sender) where
  isOpen conn := SendRequest.isReady conn.sender
  canShare _ := false
  reuse conn := (none, conn)

end Http1

section Http2

variable
  [SendRequest Sender (Request Authority Extensions Body) Future Error]

instance :
    Connection (Http2Connection Sender) (Request Authority Extensions Body)
      (SendRequestFuture Future) Error where
  sendRequest conn request :=
    let (future, sender) := SendRequest.sendRequest conn.sender request
    (⟨future⟩, ⟨sender⟩)
  pollReady conn :=
    let (answer, sender) := SendRequest.pollReady conn.sender
    (answer, ⟨sender⟩)

instance : HttpConnectionInfo (Http2Connection Sender) where
  version _ := .http2

instance [SharedSender Sender] :
    PoolableConnection (Http2Connection Sender) where
  isOpen conn := SendRequest.isReady conn.sender
  canShare _ := true
  reuse conn := (some ⟨SharedSender.clone conn.sender⟩, conn)

end Http2

section Http

variable
  [SendRequest Http2Sender (Request Authority Extensions Body) Future Error]
  [SendRequest Http1Sender (Request Authority Extensions Body) Future Error]

def HttpConnection.h1 (conn : Http1Sender) :
    HttpConnection Http2Sender Http1Sender :=
  ⟨.h1 conn⟩

def HttpConnection.h2 (conn : Http2Sender) :
    HttpConnection Http2Sender Http1Sender :=
  ⟨.h2 conn⟩

/-- The request is sent with the version of the connection. -/
instance :
    Connection (HttpConnection Http2Sender Http1Sender)
      (Request Authority Extensions Body) (SendRequestFuture Future)
      Error where
  sendRequest self request :=
    match self.inner with
    | .h2 conn =>
        let (future, conn) :=
          SendRequest.sendRequest conn { request with version := .http2 }
        (⟨future⟩, .h2 conn)
    | .h1 conn =>
        let (future, conn) :=
          SendRequest.sendRequest conn { request with version := .http11 }
        (⟨future⟩, .h1 conn)
  pollReady self :=
    match self.inner with
    | .h2 conn =>
        let (answer, conn) := SendRequest.pollReady conn
        (answer, .h2 conn)
    | .h1 conn =>
        let (answer, conn) := SendRequest.pollReady conn
        (answer, .h1 conn)

instance : HttpConnectionInfo (HttpConnection Http2Sender Http1Sender) where
  version self :=
    match self.inner with
    | .h1 _ => .http1
    | .h2 _ => .http2

instance [SharedSender Http2Sender] :
    PoolableConnection (HttpConnection Http2Sender Http1Sender) where
  isOpen self :=
    match self.inner with
    | .h2 conn => SendRequest.isReady conn
    | .h1 conn => SendRequest.isReady conn
  canShare self :=
    match self.inner with
    | .h2 _ => true
    | .h1 _ => false
  reuse self :=
    match self.inner with
    | .h2 conn => (some (.h2 (SharedSender.clone conn)), self)
    | .h1 _ => (none, self)

theorem HttpConnection.canShare_iff [SharedSender Http2Sender]
    (conn : HttpConnection Http2Sender Http1Sender) :
    PoolableConnection.canShare conn = true ↔
      HttpConnectionInfo.version conn = .http2 := by
  obtain ⟨_ | _⟩ := conn
  · exact ⟨fun _ => rfl, fun _ => rfl⟩
  · exact ⟨nofun, nofun⟩

end Http

end Connections

/-! ## Handles of a connection -/

/-- The underlying connection of a handle.  No operation of a handle leads to
another connection or another protocol, and only HTTP/2 is shared. -/
class LawfulConnection (Conn : Type u) {Sent : outParam (Type v)}
    {Future : outParam (Type w)} {Error : outParam (Type x)}
    (ConnectionId : outParam (Type y)) [Connection Conn Sent Future Error]
    [HttpConnectionInfo Conn] [PoolableConnection Conn] where
  connection : Conn → ConnectionId
  canShare_iff :
    ∀ conn : Conn,
      PoolableConnection.canShare conn = true ↔
        HttpConnectionInfo.version conn = .http2
  sendRequest_same :
    ∀ (conn : Conn) (sent : Sent),
      connection (Connection.sendRequest conn sent).2 = connection conn ∧
        HttpConnectionInfo.version (Connection.sendRequest conn sent).2 =
          HttpConnectionInfo.version conn
  pollReady_same :
    ∀ conn : Conn,
      connection (Connection.pollReady conn).2 = connection conn ∧
        HttpConnectionInfo.version (Connection.pollReady conn).2 =
          HttpConnectionInfo.version conn
  reuse_left :
    ∀ conn : Conn, (PoolableConnection.reuse conn).2 = conn
  reuse_same :
    ∀ conn copy : Conn, (PoolableConnection.reuse conn).1 = some copy →
      connection copy = connection conn ∧
        HttpConnectionInfo.version copy = HttpConnectionInfo.version conn
  reuse_isSome :
    ∀ conn : Conn,
      (PoolableConnection.reuse conn).1.isSome =
        PoolableConnection.canShare conn

section Lawful

variable {Sender : Type*} {Http2Sender : Type u} {Http1Sender : Type v}
  {Authority Extensions Body : Type*} {Future : Type w} {Error : Type x}
  {ConnectionId : Type y}
  [Dispatch Future ConnectionId (Request Authority Extensions Body)]

instance : Dispatch (SendRequestFuture Future) ConnectionId
    (Request Authority Extensions Body) where
  dispatched future := Dispatch.dispatched future.inner

instance [SendRequest Sender (Request Authority Extensions Body) Future Error]
    [lawful : LawfulSender Sender ConnectionId] :
    LawfulConnection (Http1Connection Sender) ConnectionId where
  connection conn := lawful.connection conn.sender
  canShare_iff _ := ⟨nofun, nofun⟩
  sendRequest_same _ _ := ⟨lawful.connection_sendRequest _ _, rfl⟩
  pollReady_same _ := ⟨lawful.connection_pollReady _, rfl⟩
  reuse_left _ := rfl
  reuse_same _ _ copied := nomatch copied
  reuse_isSome _ := rfl

instance [SendRequest Sender (Request Authority Extensions Body) Future Error]
    [SharedSender Sender] [lawful : LawfulSharedSender Sender ConnectionId] :
    LawfulConnection (Http2Connection Sender) ConnectionId where
  connection conn := lawful.connection conn.sender
  canShare_iff _ := ⟨fun _ => rfl, fun _ => rfl⟩
  sendRequest_same _ _ := ⟨lawful.connection_sendRequest _ _, rfl⟩
  pollReady_same _ := ⟨lawful.connection_pollReady _, rfl⟩
  reuse_left _ := rfl
  reuse_same conn copy copied := by
    cases copied
    exact ⟨lawful.connection_clone conn.sender, rfl⟩
  reuse_isSome _ := rfl

variable
  [SendRequest Http2Sender (Request Authority Extensions Body) Future Error]
  [SendRequest Http1Sender (Request Authority Extensions Body) Future Error]
  [SharedSender Http2Sender]

/-- Both protocols number their connections together. -/
instance [http2 : LawfulSharedSender Http2Sender ConnectionId]
    [http1 : LawfulSender Http1Sender ConnectionId] :
    LawfulConnection (HttpConnection Http2Sender Http1Sender)
      ConnectionId where
  connection conn :=
    match conn.inner with
    | .h2 sender => http2.connection sender
    | .h1 sender => http1.connection sender
  canShare_iff := HttpConnection.canShare_iff
  sendRequest_same conn sent := by
    obtain ⟨sender | sender⟩ := conn
    · exact ⟨http2.connection_sendRequest _ _, rfl⟩
    · exact ⟨http1.connection_sendRequest _ _, rfl⟩
  pollReady_same conn := by
    obtain ⟨sender | sender⟩ := conn
    · exact ⟨http2.connection_pollReady _, rfl⟩
    · exact ⟨http1.connection_pollReady _, rfl⟩
  reuse_left conn := by
    obtain ⟨_ | _⟩ := conn
    · rfl
    · rfl
  reuse_same conn copy copied := by
    obtain ⟨sender | sender⟩ := conn
    · cases copied
      exact ⟨http2.connection_clone sender, rfl⟩
    · cases copied
  reuse_isSome conn := by
    obtain ⟨_ | _⟩ := conn
    · rfl
    · rfl

theorem HttpConnection.dispatched_http2
    [LawfulSharedSender Http2Sender ConnectionId]
    [LawfulSender Http1Sender ConnectionId]
    {conn : HttpConnection Http2Sender Http1Sender}
    (isHttp2 : HttpConnectionInfo.version conn = .http2)
    (request : Request Authority Extensions Body) :
    Dispatch.dispatched (Connection.sendRequest conn request).1 =
      (LawfulConnection.connection conn,
        { request with version := .http2 }) := by
  obtain ⟨sender | sender⟩ := conn
  · exact LawfulSender.dispatched_sendRequest sender _
  · cases isHttp2

theorem HttpConnection.dispatched_http1
    [LawfulSharedSender Http2Sender ConnectionId]
    [LawfulSender Http1Sender ConnectionId]
    {conn : HttpConnection Http2Sender Http1Sender}
    (isHttp1 : HttpConnectionInfo.version conn = .http1)
    (request : Request Authority Extensions Body) :
    Dispatch.dispatched (Connection.sendRequest conn request).1 =
      (LawfulConnection.connection conn,
        { request with version := .http11 }) := by
  obtain ⟨sender | sender⟩ := conn
  · cases isHttp1
  · exact LawfulSender.dispatched_sendRequest sender _

end Lawful

/-! ## What a pool can do with handles -/

section Pooled

variable {Conn : Type u} {Sent : Type v} {Future : Type w} {Error : Type x}
  {ConnectionId : Type y} {Stream : Type z}
  [Connection Conn Sent Future Error] [HttpConnectionInfo Conn]
  [PoolableConnection Conn] [LawfulConnection Conn ConnectionId]

/-- One use of a handle, with the future if a request is sent. -/
inductive ConnectionUse : Conn → Option Future → Conn → Prop
  | polls {conn : Conn} :
      ConnectionUse conn none (Connection.pollReady conn).2
  | sends {conn : Conn} {sent : Sent} :
      ConnectionUse conn (some (Connection.sendRequest conn sent).1)
        (Connection.sendRequest conn sent).2

/-- The handles of connections: a pool gets the first one of each from a
handshake, makes others with `reuse`, and uses or drops them in any order. -/
def pooledConnections {Output : Type*} (Opens : Stream → Conn → Prop)
    (Uses : Conn → Output → Conn → Prop) :
    Leasing Conn ConnectionId Stream Output where
  resource := LawfulConnection.connection
  shareable conn := HttpConnectionInfo.version conn = .http2
  Opens := Opens
  Copies conn copy left := PoolableConnection.reuse conn = (some copy, left)
  Uses := Uses

theorem ConnectionUse.same {conn left : Conn} {future : Option Future}
    (used : ConnectionUse conn future left) :
    LawfulConnection.connection left =
        (LawfulConnection.connection conn : ConnectionId) ∧
      HttpConnectionInfo.version left = HttpConnectionInfo.version conn := by
  cases used with
  | polls => exact LawfulConnection.pollReady_same conn
  | sends => exact LawfulConnection.sendRequest_same conn _

theorem pooledConnections_lawful {Output : Type*}
    (Opens : Stream → Conn → Prop) {Uses : Conn → Output → Conn → Prop}
    (uses :
      ∀ conn output left, Uses conn output left →
        ∃ future, ConnectionUse conn future left) :
    (pooledConnections Opens Uses :
      Leasing Conn ConnectionId Stream Output).Lawful where
  copied conn copy left copied := by
    have isCopy := congrArg Prod.fst copied
    have isSome := LawfulConnection.reuse_isSome conn
    rw [isCopy] at isSome
    exact (LawfulConnection.canShare_iff conn).mp isSome.symm
  copy conn copy left copied := by
    have isCopy := congrArg Prod.fst copied
    obtain ⟨same, version⟩ := LawfulConnection.reuse_same conn copy isCopy
    exact ⟨same, Iff.of_eq (congrArg (· = HttpProtocol.http2) version)⟩
  left conn copy left copied := by
    have isLeft := congrArg Prod.snd copied
    rw [LawfulConnection.reuse_left] at isLeft
    subst isLeft
    exact ⟨rfl, Iff.rfl⟩
  used conn output left used := by
    obtain ⟨future, isUse⟩ := uses conn output left used
    obtain ⟨same, version⟩ := isUse.same
    exact ⟨same, Iff.of_eq (congrArg (· = HttpProtocol.http2) version)⟩

/-- Whatever a pool does with handles, an HTTP/1 connection has one handle at
most, and all handles of a connection speak one protocol. -/
theorem pooledConnections_exclusive {Opens : Stream → Conn → Prop}
    {handles : List Conn} {opened : List (ConnectionId × Stream)}
    {futures : List (Option Future)}
    (run :
      (pooledConnections Opens ConnectionUse).Run handles opened futures)
    (first second : Nat) (left right : Conn)
    (isLeft : handles[first]? = some left)
    (isRight : handles[second]? = some right)
    (same :
      LawfulConnection.connection left =
        (LawfulConnection.connection right : ConnectionId)) :
    first = second ∨
      HttpConnectionInfo.version left = .http2 ∧
        HttpConnectionInfo.version right = .http2 :=
  run.exclusive
    (pooledConnections_lawful Opens fun _ future _ used => ⟨future, used⟩)
    isLeft isRight same

end Pooled

/-! ## A sender that records -/

/-- A sender of the connection with a number. -/
structure RecordingSender (Sent : Type) where
  number : Nat

structure RecordedFuture (Sent : Type) where
  dispatched : Nat × Sent

instance {Sent : Type} :
    SendRequest (RecordingSender Sent) Sent (RecordedFuture Sent) Empty where
  sendRequest sender sent := (⟨sender.number, sent⟩, sender)
  pollReady sender := (.ready (.ok ()), sender)
  isReady _ := true

instance {Sent : Type} : SharedSender (RecordingSender Sent) where
  clone sender := sender

instance {Sent : Type} : Dispatch (RecordedFuture Sent) Nat Sent where
  dispatched := RecordedFuture.dispatched

instance {Sent : Type} : LawfulSharedSender (RecordingSender Sent) Nat where
  connection := RecordingSender.number
  connection_sendRequest _ _ := rfl
  connection_pollReady _ := rfl
  dispatched_sendRequest _ _ := rfl
  connection_clone _ := rfl

/-- Connections of either protocol with recording senders. -/
abbrev RecordingConnection (Sent : Type) :=
  HttpConnection (RecordingSender Sent) (RecordingSender Sent)

/-- The two handles there are once a connection has been shared. -/
theorem pooledConnections_exclusive_twoHandles :
    0 = 1 ∨
      HttpConnectionInfo.version
          (.h2 ⟨7⟩ :
            RecordingConnection (Request TextAuthority Unit Unit)) =
          .http2 ∧
        HttpConnectionInfo.version
          (.h2 ⟨7⟩ :
            RecordingConnection (Request TextAuthority Unit Unit)) =
          .http2 := by
  let Opens (number : Nat)
      (conn : RecordingConnection (Request TextAuthority Unit Unit)) :
      Prop :=
    conn = .h2 ⟨number⟩
  have opened :
      (pooledConnections Opens ConnectionUse).Run ([] ++ .h2 ⟨7⟩ :: [])
        [((7 : Nat), 7)] [] :=
    .opens .start rfl List.not_mem_nil
  have shared :
      (pooledConnections Opens ConnectionUse).Run [.h2 ⟨7⟩, .h2 ⟨7⟩]
        [((7 : Nat), 7)] [] :=
    .copies opened rfl
  exact pooledConnections_exclusive shared 0 1 _ _ rfl rfl rfl

end Client

end Hyperdriver
