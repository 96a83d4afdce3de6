import Hyperdriver.Client.Executor
import Hyperdriver.Client.Protocol

/-!
# Requests on the wire

The connections of the client come from handshakes, are shared by the pool when
they can be, and are given to the stack of services that sends a request.  In a
run of all of this, a request goes out on a connection in the form that the
protocol negotiated for its stream asks for.
-/

namespace Hyperdriver

open Foundation Service

universe u v w x

namespace Client

section Stack

variable {Authority : Type u} {Extensions : Type v} {Body : Type w}
  [HttpAuthority Authority] {Conn Future Error : Type x}
  [HttpConnectionInfo Conn]
  [Connection Conn (Request Authority Extensions Body) Future Error]

/-- The executor at the end of the stack: it sends the request over its
connection, and the handle goes back to the pool. -/
def sendOver :
    Conn × Request Authority Extensions Body → Checked (Future × Conn)
  | (conn, request) => .ok (Connection.sendRequest conn request)

/-! ## What the stack accepts -/

omit [HttpAuthority Authority] in
/-- A URI that is brought into the form of HTTP/1 has an authority, and becomes
its authority for `CONNECT` and else its path with its query. -/
theorem form_of_http1Uri {method : Method} {uri formed : Uri Authority}
    (isFormed : http1Uri method uri = .ok formed) :
    ∃ authority, uri.authority = some authority ∧
      (method = .connect →
        formed.toParts = { authority := some authority }) ∧
      (method ≠ .connect →
        ∃ path kept : PathAndQuery,
          uri.pathAndQuery = some path ∧
            formed.toParts = { pathAndQuery := some kept } ∧
              kept.asStr = path.asStr) := by
  rcases hasAuthority : uri.authority with _ | authority
  · by_cases isConnect : method = .connect
    · simp [http1Uri, isConnect, authorityForm, hasAuthority] at isFormed
    · by_cases noScheme : uri.scheme = none
      · simp [http1Uri, isConnect, absoluteForm, noScheme] at isFormed
      · simp [http1Uri, isConnect, absoluteForm, noScheme, hasAuthority]
          at isFormed
  · refine ⟨authority, rfl, ?_⟩
    by_cases isConnect : method = .connect
    · subst isConnect
      obtain ⟨expected, isExpected, parts⟩ := http1Uri_of_connect hasAuthority
      have same : formed = expected :=
        Except.ok.inj (isFormed.symm.trans isExpected)
      exact ⟨fun _ => same ▸ parts, fun other => (other rfl).elim⟩
    · rcases hasScheme : uri.scheme with _ | scheme
      · simp [http1Uri, isConnect, absoluteForm, hasScheme] at isFormed
      · obtain ⟨expected, isExpected, parts⟩ :=
          http1Uri_spec method hasScheme hasAuthority
        have same : formed = expected :=
          Except.ok.inj (isFormed.symm.trans isExpected)
        exact same ▸ parts

/-- Setting the Host header changes headers only. -/
theorem setHostHeader_frame
    {request withHost : Request Authority Extensions Body}
    (hostSet : setHostHeader request = .ok withHost) :
    withHost = { request with headers := withHost.headers } := by
  unfold setHostHeader at hostSet
  split at hostSet
  · cases hostSet
    rfl
  · split at hostSet
    · cases hostSet
      rfl
    · rcases built : hostValue request.uri with panic | value
      · rw [built] at hostSet
        cases hostSet
      · rw [built] at hostSet
        cases hostSet
        rfl

section Sent

variable [LawfulAuthority Authority] {conn left : Conn}
  {request : Request Authority Extensions Body} {future : Future}

/-- What the stack sends on an HTTP/1 connection, for any request it does not
panic on. -/
theorem sent_of_http1 (isHttp1 : HttpConnectionInfo.version conn = .http1)
    (sends :
      (executorStack sendOver (conn, request) :
          Checked (Http2ChecksFuture (Future × Conn) Error)) =
        .ok (.service (future, left))) :
    ∃ (authority : Authority) (sent : Request Authority Extensions Body),
      request.uri.authority = some authority ∧
        SentOnHttp1 authority request sent ∧
          Connection.sendRequest conn sent = (future, left) := by
  rcases hostSet : setHostHeader request with panic | withHost
  · simp only [executorStack, SetHostHeader.callConnected, if_pos isHttp1,
      hostSet] at sends
    cases sends
  have frame := setHostHeader_frame hostSet
  have sameMethod : withHost.method = request.method := by rw [frame]
  have sameUri : withHost.uri = request.uri := by rw [frame]
  rcases isFormed : http1Uri request.method request.uri with panic | formed
  · have checked : checkHttp1Request (conn, withHost) = .error panic := by
      rw [checkHttp1Request, if_neg (not_not.mpr isHttp1), sameMethod,
        sameUri, isFormed]
      rfl
    have notHttp2 : HttpConnectionInfo.version conn ≠ .http2 := by
      simp [isHttp1]
    simp only [executorStack, SetHostHeader.callConnected, if_pos isHttp1,
      hostSet, Http2Checks.call, checkHttp2Request_of_ne withHost notHttp2,
      Http1Checks.call, checked] at sends
    cases sends
  · have formedToo : http1Uri withHost.method withHost.uri = .ok formed := by
      rw [sameMethod, sameUri, isFormed]
    have stack :
        (executorStack sendOver (conn, request) :
            Checked (Http2ChecksFuture (Future × Conn) Error)) =
          (sendOver (conn, { withHost with uri := formed })).map .service :=
      sends_of_http1 isHttp1 hostSet formedToo sendOver
    rw [stack] at sends
    obtain ⟨authority, hasAuthority, connect, origin⟩ :=
      form_of_http1Uri isFormed
    obtain ⟨headers, alsoSet, given, computed, others⟩ :=
      setHostHeader_spec hasAuthority
    have sameHeaders : withHost = { request with headers } :=
      Except.ok.inj (hostSet.symm.trans alsoSet)
    subst sameHeaders
    refine ⟨authority, { request with headers, uri := formed }, hasAuthority,
      ?_, Http2ChecksFuture.service.inj (Except.ok.inj sends)⟩
    exact
      { connect := connect
        origin := origin
        hostGiven := fun present => by rw [given present]
        hostComputed := computed
        headers := others
        method := rfl
        version := rfl
        extensions := rfl
        body := rfl }

omit [LawfulAuthority Authority] in
/-- What the stack sends on an HTTP/2 connection: never a `CONNECT`. -/
theorem sent_of_http2 (isHttp2 : HttpConnectionInfo.version conn = .http2)
    (sends :
      (executorStack sendOver (conn, request) :
          Checked (Http2ChecksFuture (Future × Conn) Error)) =
        .ok (.service (future, left))) :
    ∃ sent : Request Authority Extensions Body,
      request.method ≠ .connect ∧ SentOnHttp2 request sent ∧
        Connection.sendRequest conn sent = (future, left) := by
  by_cases isConnect : request.method = .connect
  · have notHttp1 : HttpConnectionInfo.version conn ≠ .http1 := by
      simp [isHttp2]
    simp only [executorStack, SetHostHeader.callConnected, if_neg notHttp1,
      Http2Checks.call, checkHttp2Request, if_pos isHttp2, if_pos isConnect]
      at sends
    cases sends
  · have stack :
        (executorStack sendOver (conn, request) :
            Checked (Http2ChecksFuture (Future × Conn) Error)) =
          (sendOver (conn, _)).map .service :=
      sends_of_http2 isHttp2 isConnect sendOver
    rw [stack] at sends
    refine ⟨_, isConnect, ?_,
      Http2ChecksFuture.service.inj (Except.ok.inj sends)⟩
    exact
      { version := rfl
        removed := fun name illegal => by
          rw [getAll_checkedHeaders, if_pos illegal]
        headers := fun name notHost notIllegal => by
          rw [getAll_checkedHeaders, if_neg (by simp [notHost, notIllegal])]
        uri := rfl
        method := rfl
        extensions := rfl
        body := rfl }

end Sent

end Stack

/-! ## Runs of the client -/

section Runs

variable {Authority : Type u} {Extensions : Type v} {Body : Type w}
  [HttpAuthority Authority]

/-- The form that a protocol asks for on the wire. -/
inductive OnWire (original : Request Authority Extensions Body) :
    HttpProtocol → Request Authority Extensions Body → Prop
  | http1 {authority : Authority}
      {formed : Request Authority Extensions Body} :
      original.uri.authority = some authority →
      SentOnHttp1 authority original formed →
      OnWire original .http1 { formed with version := .http11 }
  | http2 {sent : Request Authority Extensions Body} :
      original.method ≠ .connect →
      SentOnHttp2 original sent →
      OnWire original .http2 sent

variable {Http1Sender Http2Sender Future SendError : Type x}
  [SendRequest Http2Sender (Request Authority Extensions Body) Future
    SendError]
  [SendRequest Http1Sender (Request Authority Extensions Body) Future
    SendError]

/-- One use of a handle by the client, with the request and its future if one is
sent through the stack. -/
inductive StackUse :
    HttpConnection Http2Sender Http1Sender →
      Option
        (Request Authority Extensions Body × SendRequestFuture Future) →
        HttpConnection Http2Sender Http1Sender → Prop
  | polls {conn : HttpConnection Http2Sender Http1Sender} :
      StackUse conn none (Connection.pollReady conn).2
  | sends {conn left : HttpConnection Http2Sender Http1Sender}
      {request : Request Authority Extensions Body}
      {future : SendRequestFuture Future} :
      executorStack sendOver (conn, request) =
        .ok (.service (future, left) :
          Http2ChecksFuture
            (SendRequestFuture Future ×
              HttpConnection Http2Sender Http1Sender) SendError) →
      StackUse conn (some (request, future)) left

section Uses

variable [LawfulAuthority Authority]
  {conn left : HttpConnection Http2Sender Http1Sender}
  {request : Request Authority Extensions Body}
  {future : SendRequestFuture Future}

/-- The stack hands the connection a request in the form of its protocol. -/
theorem StackUse.exists_sent
    (used : StackUse conn (some (request, future)) left) :
    ∃ sent, Connection.sendRequest conn sent = (future, left) ∧
      (HttpConnectionInfo.version conn = .http1 ∧
          (∃ authority : Authority,
            request.uri.authority = some authority ∧
              SentOnHttp1 authority request sent) ∨
        HttpConnectionInfo.version conn = .http2 ∧
          request.method ≠ .connect ∧ SentOnHttp2 request sent) := by
  cases used with
  | sends sends =>
      rcases isVersion : HttpConnectionInfo.version conn with _ | _ | _
      · obtain ⟨authority, sent, hasAuthority, formed, isSent⟩ :=
          sent_of_http1 isVersion sends
        exact ⟨sent, isSent, Or.inl ⟨rfl, authority, hasAuthority, formed⟩⟩
      · obtain ⟨sent, notConnect, formed, isSent⟩ :=
          sent_of_http2 isVersion sends
        exact ⟨sent, isSent, Or.inr ⟨rfl, notConnect, formed⟩⟩
      · obtain ⟨_ | _⟩ := conn
        · cases isVersion
        · cases isVersion

private theorem StackUse.connectionUse [SharedSender Http2Sender]
    {output :
      Option
        (Request Authority Extensions Body × SendRequestFuture Future)}
    (used : StackUse conn output left) :
    ∃ future, ConnectionUse conn future left := by
  rcases output with _ | ⟨request, future⟩
  · cases used
    exact ⟨none, .polls⟩
  · obtain ⟨sent, isSent, _⟩ := used.exists_sent
    have sends :
        ConnectionUse conn
          (some (Connection.sendRequest conn sent).1)
          (Connection.sendRequest conn sent).2 := .sends
    rw [isSent] at sends
    exact ⟨some future, sends⟩

/-- What a request sent through the stack is on the wire. -/
theorem StackUse.onWire [SharedSender Http2Sender] {ConnectionId : Type*}
    [Dispatch Future ConnectionId (Request Authority Extensions Body)]
    [LawfulSharedSender Http2Sender ConnectionId]
    [LawfulSender Http1Sender ConnectionId]
    (used : StackUse conn (some (request, future)) left) :
    ∃ wire, Dispatch.dispatched future =
        (LawfulConnection.connection conn, wire) ∧
      OnWire request (HttpConnectionInfo.version conn) wire := by
  obtain ⟨sent, isSent, onHttp1 | onHttp2⟩ := used.exists_sent
  · obtain ⟨isHttp1, authority, hasAuthority, formed⟩ := onHttp1
    have dispatched := HttpConnection.dispatched_http1 isHttp1 sent
    rw [isSent] at dispatched
    exact ⟨_, dispatched, isHttp1 ▸ .http1 hasAuthority formed⟩
  · obtain ⟨isHttp2, notConnect, formed⟩ := onHttp2
    have dispatched := HttpConnection.dispatched_http2 isHttp2 sent
    rw [isSent, ← formed.version] at dispatched
    exact ⟨_, dispatched, isHttp2 ▸ .http2 notConnect formed⟩

end Uses

variable {Http1Config Http2Config : Type*} {Stream : Type}
  {Http1Handshaking Http2Handshaking Driver Error : Type*}
  [HasTlsConnectionInfo Stream]
  [Handshake Http1Config Stream Http1Handshaking Http1Sender Driver Error]
  [Handshake Http2Config Stream Http2Handshaking Http2Sender Driver Error]

/-- A builder that can be has made the connection of the stream. -/
def AlpnOpens (features : Features) (Http1Config Http2Config : Type*)
    [Handshake Http1Config Stream Http1Handshaking Http1Sender Driver Error]
    [Handshake Http2Config Stream Http2Handshaking Http2Sender Driver Error]
    (stream : Stream) (conn : HttpConnection Http2Sender Http1Sender) :
    Prop :=
  ∃ (builder : AlpnHttpConnectionBuilder Http1Config Http2Config)
    (spawned after : List Driver)
    (final :
      HttpConnectFuture Http1Config Http2Config Stream Http1Handshaking
        Http2Handshaking),
    builder.Configured ∧
      Completes (HttpConnectFuture.answers features)
        ((builder.call stream).1, spawned) (.ok conn) (final, after)

private theorem AlpnOpens.version_eq {features : Features} {stream : Stream}
    {conn : HttpConnection Http2Sender Http1Sender}
    (opens : AlpnOpens features Http1Config Http2Config stream conn) :
    HttpConnectionInfo.version conn =
      HttpConnectFuture.negotiated features stream .http1 := by
  obtain ⟨builder, spawned, after, final, configured, completes⟩ := opens
  have waits :
      HttpConnectFuture.Waits features stream .http1
        ((builder.call stream).1 :
          HttpConnectFuture Http1Config Http2Config Stream Http1Handshaking
            Http2Handshaking) := configured.waits_call features stream
  exact (HttpConnectFuture.connects_of_completes waits completes).of_connected.1

variable [SharedSender Http2Sender] {ConnectionId : Type*}
  [Dispatch Future ConnectionId (Request Authority Extensions Body)]
  [LawfulSharedSender Http2Sender ConnectionId]
  [LawfulSender Http1Sender ConnectionId]

/-- The client: connections come from the builder, and requests are sent
through the stack. -/
def clientConnections (features : Features)
    (Http1Config Http2Config : Type*)
    [Handshake Http1Config Stream Http1Handshaking Http1Sender Driver Error]
    [Handshake Http2Config Stream Http2Handshaking Http2Sender Driver
      Error] :
    Leasing (HttpConnection Http2Sender Http1Sender) ConnectionId Stream
      (Option
        (Request Authority Extensions Body × SendRequestFuture Future)) :=
  pooledConnections (AlpnOpens features Http1Config Http2Config) StackUse

/-- In every run of the client, a request that is sent is dispatched on an open
connection, in the form of the protocol that was negotiated for the stream of
that connection.  What trips a debug assertion of the checks is not sent. -/
theorem clientConnections_onWire [LawfulAuthority Authority]
    {features : Features}
    {handles : List (HttpConnection Http2Sender Http1Sender)}
    {opened : List (ConnectionId × Stream)}
    {outputs :
      List (Option
        (Request Authority Extensions Body × SendRequestFuture Future))}
    (run :
      (clientConnections features Http1Config Http2Config).Run handles opened
        outputs)
    (request : Request Authority Extensions Body)
    (future : SendRequestFuture Future)
    (sent : some (request, future) ∈ outputs) :
    ∃ connection stream wire, (connection, stream) ∈ opened ∧
      Dispatch.dispatched future = (connection, wire) ∧
        OnWire request (HttpConnectFuture.negotiated features stream .http1)
          wire := by
  let Fits (stream : Stream)
      (conn : HttpConnection Http2Sender Http1Sender) : Prop :=
    HttpConnectionInfo.version conn =
      HttpConnectFuture.negotiated features stream .http1
  let Good (connection : ConnectionId) (stream : Stream)
      (output :
        Option
          (Request Authority Extensions Body × SendRequestFuture Future)) :
      Prop :=
    ∀ request future, output = some (request, future) →
      ∃ wire, Dispatch.dispatched future = (connection, wire) ∧
        OnWire request (HttpConnectFuture.negotiated features stream .http1)
          wire
  have lawful :
      (clientConnections features Http1Config Http2Config :
        Leasing (HttpConnection Http2Sender Http1Sender) ConnectionId Stream
          (Option (Request Authority Extensions Body ×
            SendRequestFuture Future))).Lawful :=
    pooledConnections_lawful (AlpnOpens features Http1Config Http2Config)
      fun _ _ _ used => StackUse.connectionUse used
  have good :=
    run.outputs_good Fits Good
      (fun _ _ opens => AlpnOpens.version_eq opens)
      (by
        intro stream conn copy left fits copied
        have isCopy := congrArg Prod.fst copied
        have isLeft : conn = left :=
          (LawfulConnection.reuse_left conn).symm.trans
            (congrArg Prod.snd copied)
        have same := (LawfulConnection.reuse_same conn copy isCopy).2
        exact ⟨same.trans fits, isLeft ▸ fits⟩)
      (by
        intro stream conn output left fits used
        obtain ⟨_, isUse⟩ := StackUse.connectionUse used
        have same := isUse.same.2
        refine ⟨same.trans fits, ?_⟩
        rintro request future rfl
        rw [← fits]
        exact StackUse.onWire used)
      lawful _ sent
  obtain ⟨connection, stream, wasOpened, dispatches⟩ := good
  obtain ⟨wire, dispatched, onWire⟩ := dispatches request future rfl
  exact ⟨connection, stream, wire, wasOpened, dispatched, onWire⟩

end Runs

/-! ## A request on a shared connection -/

def getExample : Request TextAuthority Unit Unit :=
  Request.get (.absolute .http ⟨"example.net", by decide⟩ ⟨"/"⟩) () ()

/-- A request on the connection of a stream that negotiated HTTP/2. -/
theorem clientConnections_onWire_getExample :
    ∃ connection stream wire,
      (connection, stream) ∈
          [((7 : Nat), (⟨7, some infoOfH2⟩ : RecordingStream))] ∧
        OnWire getExample
          (HttpConnectFuture.negotiated ⟨true⟩ stream .http1) wire := by
  let Sent := Request TextAuthority Unit Unit
  let client :
      Leasing (RecordingConnection Sent) Nat RecordingStream
        (Option (Sent × SendRequestFuture (RecordedFuture Sent))) :=
    clientConnections ⟨true⟩ (RecordingConfig Sent) (RecordingConfig Sent)
  have opened :
      client.Run ([] ++ .h2 ⟨7⟩ :: []) [(7, ⟨7, some infoOfH2⟩)] [] :=
    .opens .start
      ⟨_, _, _, _, .default, RecordingBuilder.completes_h2 Sent 7⟩
      List.not_mem_nil
  have sent :
      client.Run ([] ++ .h2 ⟨7⟩ :: []) [(7, ⟨7, some infoOfH2⟩)]
        [some (getExample, _)] :=
    .uses opened (.sends rfl)
  obtain ⟨connection, stream, wire, isOpen, _, onWire⟩ :=
    clientConnections_onWire sent getExample _ List.mem_cons_self
  exact ⟨connection, stream, wire, isOpen, onWire⟩

end Client

end Hyperdriver
