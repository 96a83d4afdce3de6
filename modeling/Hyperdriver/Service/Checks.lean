import Hyperdriver.Service.Host

/-!
# Checks of a request against the protocol of its connection

On an HTTP/1 connection the URI of a request is brought into the form that is
sent on the wire.  On an HTTP/2 connection the headers that only concern a
connection are removed and `CONNECT` is refused.
-/

namespace Hyperdriver

open Foundation

universe u v w

namespace Service

variable {Authority : Type u} {Extensions : Type v} {Body : Type w}

/-! ## Forms of a URI -/

/-- The URI becomes its authority. -/
def authorityForm (uri : Uri Authority) : Checked (Uri Authority) :=
  match uri.authority with
  | some authority =>
      expect "authority is valid"
        (Uri.fromParts { authority := some authority })
  | none => .error (.unreachable "authority_form with relative uri")

/-- The URI is asserted to have a scheme and an authority, as it is in a build
with debug assertions. -/
def absoluteForm (uri : Uri Authority) : Checked (Uri Authority) :=
  if uri.scheme.isNone then
    .error (.assertion "absolute_form needs a scheme")
  else if uri.authority.isNone then
    .error (.assertion "absolute_form needs an authority")
  else
    .ok uri

/-- The URI becomes its path with its query. -/
def originForm (uri : Uri Authority) : Checked (Uri Authority) :=
  match uri.pathAndQuery with
  | some path =>
      if path.asStr ≠ "/" then
        expect "path is valid uri"
          (Uri.fromParts { pathAndQuery := some path })
      else
        slash
  | none => slash
where
  /-- `Uri::default`, which is asserted to be a slash. -/
  slash : Checked (Uri Authority) :=
    if (Uri.default : Uri Authority).isSlash then .ok .default
    else .error (.assertion "Uri::default() == '/'")

private theorem authorityForm_of_some {uri : Uri Authority}
    {authority : Authority}
    (present : uri.authority = some authority) :
    ∃ formed : Uri Authority,
      authorityForm uri = .ok formed ∧
        formed.toParts = { authority := some authority } := by
  have wellFormed :
      ({ authority := some authority } : Parts Authority).WellFormed := by
    simp [Parts.WellFormed]
  refine ⟨⟨_, wellFormed⟩, ?_, rfl⟩
  simp only [authorityForm, present, Uri.fromParts]
  rw [dif_pos wellFormed, expect_some]

private theorem originForm_slash :
    (originForm.slash : Checked (Uri Authority)) = .ok .default :=
  rfl

private theorem originForm_of_some {uri : Uri Authority} {path : PathAndQuery}
    (present : uri.pathAndQuery = some path) :
    ∃ (formed : Uri Authority) (kept : PathAndQuery),
      originForm uri = .ok formed ∧
        formed.toParts = { pathAndQuery := some kept } ∧
          kept.asStr = path.asStr := by
  by_cases isSlash : path.asStr = "/"
  · refine ⟨.default, ⟨"/"⟩, ?_, rfl, isSlash.symm⟩
    simp only [originForm, present]
    rw [if_neg (not_not.mpr isSlash), originForm_slash]
  · have wellFormed :
        ({ pathAndQuery := some path } : Parts Authority).WellFormed := by
      simp [Parts.WellFormed]
    refine ⟨⟨_, wellFormed⟩, path, ?_, rfl, rfl⟩
    simp only [originForm, present, Uri.fromParts]
    rw [if_pos isSlash, dif_pos wellFormed, expect_some]

/-! ## HTTP/1 -/

section Http1

variable {Conn : Type*} [HttpConnectionInfo Conn]

/-- The URI of a request to be sent on an HTTP/1 connection. -/
def http1Uri (method : Method) (uri : Uri Authority) :
    Checked (Uri Authority) :=
  if method = .connect then
    match authorityForm uri with
    | .error panic => .error panic
    | .ok uri =>
        if uri.scheme = some .https then originForm uri else .ok uri
  else if uri.scheme.isNone ∨ uri.authority.isNone then
    absoluteForm uri
  else
    originForm uri

def checkHttp1Request :
    Conn × Request Authority Extensions Body →
      Checked (Conn × Request Authority Extensions Body)
  | (conn, request) =>
      if HttpConnectionInfo.version conn ≠ .http1 then
        .ok (conn, request)
      else
        (http1Uri request.method request.uri).map fun uri =>
          (conn, { request with uri })

def Http1Checks.call {Future : Type*}
    (inner : Conn × Request Authority Extensions Body → Checked Future)
    (request : Conn × Request Authority Extensions Body) : Checked Future :=
  match checkHttp1Request request with
  | .error panic => .error panic
  | .ok request => inner request

theorem checkHttp1Request_of_ne {conn : Conn}
    (request : Request Authority Extensions Body)
    (other : HttpConnectionInfo.version conn ≠ .http1) :
    checkHttp1Request (conn, request) = .ok (conn, request) :=
  if_pos other

theorem http1Uri_of_connect {uri : Uri Authority} {authority : Authority}
    (present : uri.authority = some authority) :
    ∃ formed : Uri Authority,
      http1Uri .connect uri = .ok formed ∧
        formed.toParts = { authority := some authority } := by
  obtain ⟨formed, isFormed, parts⟩ := authorityForm_of_some present
  refine ⟨formed, ?_, parts⟩
  have noScheme : formed.scheme ≠ some .https := by
    rw [congrArg Parts.scheme parts]
    simp
  rw [http1Uri, if_pos rfl, isFormed]
  exact if_neg noScheme

private theorem http1Uri_of_absolute {method : Method} {uri : Uri Authority}
    {scheme : Scheme} {authority : Authority} {path : PathAndQuery}
    (notConnect : method ≠ .connect)
    (hasScheme : uri.scheme = some scheme)
    (hasAuthority : uri.authority = some authority)
    (hasPath : uri.pathAndQuery = some path) :
    ∃ (formed : Uri Authority) (kept : PathAndQuery),
      http1Uri method uri = .ok formed ∧
        formed.toParts = { pathAndQuery := some kept } ∧
          kept.asStr = path.asStr := by
  rw [http1Uri, if_neg notConnect,
    if_neg (by simp [hasScheme, hasAuthority])]
  exact originForm_of_some hasPath

/-- An absolute URI becomes its authority for `CONNECT`, and else its path with
its query. -/
theorem http1Uri_spec (method : Method) {uri : Uri Authority}
    {scheme : Scheme} {authority : Authority}
    (hasScheme : uri.scheme = some scheme)
    (hasAuthority : uri.authority = some authority) :
    ∃ formed : Uri Authority,
      http1Uri method uri = .ok formed ∧
        (method = .connect →
          formed.toParts = { authority := some authority }) ∧
        (method ≠ .connect →
          ∃ path kept : PathAndQuery,
            uri.pathAndQuery = some path ∧
              formed.toParts = { pathAndQuery := some kept } ∧
                kept.asStr = path.asStr) := by
  obtain ⟨_, path, _, hasPath⟩ := Uri.absolute_parts hasScheme
  by_cases isConnect : method = .connect
  · subst isConnect
    obtain ⟨formed, isFormed, parts⟩ := http1Uri_of_connect hasAuthority
    exact ⟨formed, isFormed, fun _ => parts, fun other => (other rfl).elim⟩
  · obtain ⟨formed, kept, isFormed, parts, sameText⟩ :=
      http1Uri_of_absolute isConnect hasScheme hasAuthority hasPath
    exact ⟨formed, isFormed, fun connect => (isConnect connect).elim,
      fun _ => ⟨path, kept, hasPath, parts, sameText⟩⟩

end Http1

/-! ## HTTP/2 -/

section Http2

variable {Conn : Type*} [HttpConnectionInfo Conn] {Error : Type*}

/-- Headers that concern one connection only. -/
def connectionHeaders : List HeaderName :=
  [.connection, ⟨"proxy-connection"⟩, ⟨"keep-alive"⟩, .transferEncoding,
    .upgrade]

inductive HttpRequestError (Error : Type*) where
  | invalidMethod (method : Method)
  | connection (error : Error)
  deriving DecidableEq, Repr

def checkHttp2Request :
    Conn × Request Authority Extensions Body →
      Except (HttpRequestError Error)
        (Conn × Request Authority Extensions Body)
  | (conn, request) =>
      if HttpConnectionInfo.version conn = .http2 then
        if request.method = .connect then
          .error (.invalidMethod .connect)
        else
          .ok (conn,
            { request with
              version := .http2
              headers :=
                (request.headers.removeAll connectionHeaders).remove .host })
      else
        .ok (conn, request)

/-- The future of a checked call: the future of the inner service, or the error
of the check until it is taken. -/
inductive Http2ChecksFuture (Future : Type*) (Error : Type*) where
  | service (future : Future)
  | error (error : Option (HttpRequestError Error))

def Http2ChecksFuture.poll {Future Response : Type*}
    (pollInner : Future → Poll (Except Error Response) × Future) :
    Http2ChecksFuture Future Error →
      Checked
        (Poll (Except (HttpRequestError Error) Response) ×
          Http2ChecksFuture Future Error)
  | .service future =>
      match pollInner future with
      | (.pending, future) => .ok (.pending, .service future)
      | (.ready (.ok response), future) =>
          .ok (.ready (.ok response), .service future)
      | (.ready (.error reason), future) =>
          .ok (.ready (.error (.connection reason)), .service future)
  | .error (some reason) => .ok (.ready (.error reason), .error none)
  | .error none =>
      .error (.expect "Http2ChecksFuture Error polled after completion")

def Http2Checks.call {Future : Type*}
    (inner : Conn × Request Authority Extensions Body → Checked Future)
    (request : Conn × Request Authority Extensions Body) :
    Checked (Http2ChecksFuture Future Error) :=
  match (checkHttp2Request request : Except (HttpRequestError Error) _) with
  | .ok request => (inner request).map .service
  | .error error => .ok (.error (some error))

theorem checkHttp2Request_of_ne {conn : Conn}
    (request : Request Authority Extensions Body)
    (other : HttpConnectionInfo.version conn ≠ .http2) :
    (checkHttp2Request (conn, request) :
        Except (HttpRequestError Error) _) =
      .ok (conn, request) :=
  if_neg other

theorem getAll_checkedHeaders (headers : HeaderMap) (name : HeaderName) :
    ((headers.removeAll connectionHeaders).remove .host).getAll name =
      if name = .host ∨ name ∈ connectionHeaders then []
      else headers.getAll name := by
  by_cases isHost : name = .host
  · subst isHost
    simp
  · rw [HeaderMap.getAll_remove_of_ne _ isHost, HeaderMap.getAll_removeAll]
    simp [isHost]

end Http2

end Service

end Hyperdriver
