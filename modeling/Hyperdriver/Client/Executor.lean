import Hyperdriver.Service.Checks

/-!
# The services between the pool and the executor

The client builder puts three services over the executor of a connection: the
Host header is set, the request is checked for HTTP/2, and it is checked for
HTTP/1.  Each acts on one protocol only.  What the executor receives is
described here for the whole stack.
-/

namespace Hyperdriver

open Foundation Service

universe u v w x y

namespace Client

variable {Authority : Type u} {Extensions : Type v} {Body : Type w}
  {Conn : Type x} [HttpAuthority Authority] [HttpConnectionInfo Conn]
  {Error : Type y}

/-- The services that `Builder::build_service` puts over the executor. -/
def executorStack {Future : Type*}
    (executor : Conn × Request Authority Extensions Body → Checked Future) :
    Conn × Request Authority Extensions Body →
      Checked (Http2ChecksFuture Future Error) :=
  SetHostHeader.callConnected (Http2Checks.call (Http1Checks.call executor))

/-! ## What the executor receives -/

/-- Whatever the executor, the stack calls it with the request `sent` and wraps
its future. -/
def Sends (conn : Conn) (request sent : Request Authority Extensions Body) :
    Prop :=
  ∀ {Future : Type y} {Error : Type y}
    (executor :
      Conn × Request Authority Extensions Body → Checked Future),
    executorStack executor (conn, request) =
      (executor (conn, sent)).map
        (Http2ChecksFuture.service : Future → Http2ChecksFuture Future Error)

/-- Whatever the executor, the stack does not call it, and its future fails at
the first poll because of the method. -/
def Refuses (conn : Conn) (request : Request Authority Extensions Body)
    (method : Method) : Prop :=
  ∀ {Future Response : Type y} {Error : Type y}
    (executor :
      Conn × Request Authority Extensions Body → Checked Future)
    (pollInner : Future → Poll (Except Error Response) × Future),
    ∃ future final : Http2ChecksFuture Future Error,
      executorStack executor (conn, request) = .ok future ∧
        future.poll pollInner =
          .ok (.ready (.error (.invalidMethod method)), final)

structure SentOnHttp1 (authority : Authority)
    (request sent : Request Authority Extensions Body) : Prop where
  connect :
    request.method = .connect →
      sent.uri.toParts = { authority := some authority }
  origin :
    request.method ≠ .connect →
      ∃ path kept : PathAndQuery,
        request.uri.pathAndQuery = some path ∧
          sent.uri.toParts = { pathAndQuery := some kept } ∧
            kept.asStr = path.asStr
  hostGiven :
    request.headers.getAll .host ≠ [] →
      sent.headers.getAll .host = request.headers.getAll .host
  hostComputed :
    request.headers.getAll .host = [] →
      ∃ value : HeaderValue,
        value.toStr = some (hostText request.uri authority) ∧
          sent.headers.getAll .host = [value]
  headers :
    ∀ name : HeaderName,
      name ≠ .host → sent.headers.getAll name = request.headers.getAll name
  method : sent.method = request.method
  version : sent.version = request.version
  extensions : sent.extensions = request.extensions
  body : sent.body = request.body

structure SentOnHttp2 (request sent : Request Authority Extensions Body) :
    Prop where
  version : sent.version = .http2
  removed :
    ∀ name : HeaderName,
      name = .host ∨ name ∈ connectionHeaders → sent.headers.getAll name = []
  headers :
    ∀ name : HeaderName,
      name ≠ .host → name ∉ connectionHeaders →
        sent.headers.getAll name = request.headers.getAll name
  uri : sent.uri = request.uri
  method : sent.method = request.method
  extensions : sent.extensions = request.extensions
  body : sent.body = request.body

/-! ## The stack on each protocol -/

theorem sends_of_http1 {conn : Conn}
    {request withHost : Request Authority Extensions Body}
    {uri : Uri Authority}
    (isHttp1 : HttpConnectionInfo.version conn = .http1)
    (hostSet : setHostHeader request = .ok withHost)
    (formed : http1Uri withHost.method withHost.uri = .ok uri) :
    Sends conn request { withHost with uri } := by
  intro Future Error executor
  have notHttp2 : HttpConnectionInfo.version conn ≠ .http2 := by
    simp [isHttp1]
  have checked :
      checkHttp1Request (conn, withHost) =
        .ok (conn, { withHost with uri }) := by
    rw [checkHttp1Request, if_neg (not_not.mpr isHttp1), formed]
    rfl
  simp only [executorStack, SetHostHeader.callConnected, if_pos isHttp1,
    hostSet, Http2Checks.call, checkHttp2Request_of_ne withHost notHttp2,
    Http1Checks.call, checked]

theorem sends_of_http2 {conn : Conn}
    {request : Request Authority Extensions Body}
    (isHttp2 : HttpConnectionInfo.version conn = .http2)
    (notConnect : request.method ≠ .connect) :
    Sends conn request
      { request with
        version := .http2
        headers :=
          (request.headers.removeAll connectionHeaders).remove .host } := by
  intro Future Error executor
  have notHttp1 : HttpConnectionInfo.version conn ≠ .http1 := by
    simp [isHttp2]
  simp only [executorStack, SetHostHeader.callConnected, if_neg notHttp1,
    Http2Checks.call, checkHttp2Request, if_pos isHttp2, if_neg notConnect,
    Http1Checks.call, checkHttp1Request_of_ne _ notHttp1]

private theorem refuses_of_connect {conn : Conn}
    {request : Request Authority Extensions Body}
    (isHttp2 : HttpConnectionInfo.version conn = .http2)
    (isConnect : request.method = .connect) :
    Refuses conn request .connect := by
  intro Future Response Error executor pollInner
  have notHttp1 : HttpConnectionInfo.version conn ≠ .http1 := by
    simp [isHttp2]
  refine ⟨.error (some (.invalidMethod .connect)), .error none, ?_, rfl⟩
  simp only [executorStack, SetHostHeader.callConnected, if_neg notHttp1,
    Http2Checks.call, checkHttp2Request, if_pos isHttp2, if_pos isConnect]

/-- Setting the Host header leaves all of the request but that header. -/
theorem setHostHeader_spec [LawfulAuthority Authority]
    {request : Request Authority Extensions Body} {authority : Authority}
    (hasAuthority : request.uri.authority = some authority) :
    ∃ headers : HeaderMap,
      setHostHeader request = .ok { request with headers } ∧
        (request.headers.getAll .host ≠ [] → headers = request.headers) ∧
        (request.headers.getAll .host = [] →
          ∃ value : HeaderValue,
            value.toStr = some (hostText request.uri authority) ∧
              headers.getAll .host = [value]) ∧
        ∀ name : HeaderName,
          name ≠ .host →
            headers.getAll name = request.headers.getAll name := by
  by_cases absent : request.headers.getAll .host = []
  · obtain ⟨value, text, hostSet⟩ :=
      setHostHeader_of_absent absent hasAuthority
    refine ⟨_, hostSet, fun present => (present absent).elim, ?_, ?_⟩
    · intro _
      refine ⟨value, text, ?_⟩
      rw [HeaderMap.getAll_append_self, absent, List.nil_append]
    · intro name different
      exact HeaderMap.getAll_append_of_ne _ _ different
  · have unchanged := setHostHeader_of_present absent
    exact ⟨request.headers, unchanged, fun _ => rfl,
      fun none => (absent none).elim, fun _ _ => rfl⟩

/-! ## Main result -/

/-- What the stack sends is well formed for the protocol of the connection, and
nothing but what that asks for is changed. -/
theorem executorStack_sends_wellFormed [LawfulAuthority Authority]
    (conn : Conn) (request : Request Authority Extensions Body)
    (scheme : Scheme) (authority : Authority)
    (hasScheme : request.uri.scheme = some scheme)
    (hasAuthority : request.uri.authority = some authority) :
    (HttpConnectionInfo.version conn = .http1 →
      ∃ sent : Request Authority Extensions Body,
        Sends.{u, v, w, x, y} conn request sent ∧
          SentOnHttp1 authority request sent) ∧
    (HttpConnectionInfo.version conn = .http2 →
      if request.method = .connect then
        Refuses.{u, v, w, x, y} conn request .connect
      else
        ∃ sent : Request Authority Extensions Body,
          Sends.{u, v, w, x, y} conn request sent ∧
            SentOnHttp2 request sent) := by
  constructor
  · intro isHttp1
    obtain ⟨headers, hostSet, given, computed, others⟩ :=
      setHostHeader_spec hasAuthority
    obtain ⟨formed, isFormed, connect, origin⟩ :=
      http1Uri_spec request.method hasScheme hasAuthority
    refine ⟨_, sends_of_http1 isHttp1 hostSet isFormed, ?_⟩
    exact
      { connect := connect
        origin := origin
        hostGiven := fun present => by rw [given present]
        hostComputed := computed
        headers := others
        method := rfl
        version := rfl
        extensions := rfl
        body := rfl }
  · intro isHttp2
    split
    · rename_i isConnect
      exact refuses_of_connect isHttp2 isConnect
    · rename_i notConnect
      refine ⟨_, sends_of_http2 isHttp2 notConnect, ?_⟩
      exact
        { version := rfl
          removed := fun name illegal => by
            rw [getAll_checkedHeaders, if_pos illegal]
          headers := fun name notHost notIllegal => by
            rw [getAll_checkedHeaders, if_neg (by simp [notHost, notIllegal])]
          uri := rfl
          method := rfl
          extensions := rfl
          body := rfl }

def keepAliveRequest : Request TextAuthority (Option Unit) String :=
  { Request.get
      (.absolute .http ⟨"example.com:8080", by decide⟩ ⟨"/path?query"⟩)
      (some ()) "body" with
    headers := ⟨[(.connection, ⟨[]⟩)]⟩ }

theorem executorStack_sends_wellFormed_keepAlive :
    (∃ sent : Request TextAuthority (Option Unit) String,
      Sends.{0, 0, 0, 0, 0} HttpProtocol.http1 keepAliveRequest sent ∧
        SentOnHttp1 ⟨"example.com:8080", by decide⟩ keepAliveRequest sent) ∧
    ∃ sent : Request TextAuthority (Option Unit) String,
      Sends.{0, 0, 0, 0, 0} HttpProtocol.http2 keepAliveRequest sent ∧
        SentOnHttp2 keepAliveRequest sent :=
  ⟨(executorStack_sends_wellFormed HttpProtocol.http1 keepAliveRequest .http
      ⟨"example.com:8080", by decide⟩ rfl rfl).1 rfl,
    (executorStack_sends_wellFormed HttpProtocol.http2 keepAliveRequest .http
      ⟨"example.com:8080", by decide⟩ rfl rfl).2 rfl⟩

end Client

end Hyperdriver
