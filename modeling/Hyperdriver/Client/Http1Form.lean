import Hyperdriver.Client.Executor
import Hyperdriver.Client.Key

/-!
# Requests that have a form on HTTP/1

Nothing before the check for HTTP/1 asks for a scheme or an authority: the key
of the pool is built without them, the Host header is then not set, and the
check for HTTP/2 reads neither.  The check for HTTP/1 panics on a request from
which its form cannot be made.
-/

namespace Hyperdriver

open Foundation Service

universe u v w x y

namespace Service

variable {Authority : Type u} {Extensions : Type v} {Body : Type w}

/-- The URI has an authority, and a scheme too unless the method is
`CONNECT`. -/
structure HasHttp1Form (method : Method) (uri : Uri Authority) : Prop where
  authority : uri.authority.isSome
  scheme : method ≠ .connect → uri.scheme.isSome

/-- A URI without the parts it needs makes the check panic, whether it relies on
the authority or asserts that the scheme and the authority are there. -/
theorem http1Uri_panics {method : Method} {uri : Uri Authority}
    (formless : ¬ HasHttp1Form method uri) :
    ∃ panic, http1Uri method uri = .error panic := by
  by_cases isConnect : method = .connect
  · subst isConnect
    have relative : uri.authority = none := by
      rcases hasAuthority : uri.authority with _ | authority
      · rfl
      · have form : HasHttp1Form .connect uri :=
          ⟨by rw [hasAuthority]; rfl, fun other => (other rfl).elim⟩
        exact (formless form).elim
    refine ⟨.unreachable "authority_form with relative uri", ?_⟩
    rw [http1Uri, if_pos rfl, authorityForm, relative]
  · rw [http1Uri, if_neg isConnect]
    rcases hasScheme : uri.scheme with _ | scheme
    · refine ⟨.assertion "absolute_form needs a scheme", ?_⟩
      simp [absoluteForm, hasScheme]
    · -- A URI with a scheme has an authority.
      obtain ⟨authority, _, hasAuthority, _⟩ := Uri.absolute_parts hasScheme
      have form : HasHttp1Form method uri :=
        ⟨by rw [hasAuthority]; rfl, fun _ => by rw [hasScheme]; rfl⟩
      exact (formless form).elim

private theorem http1Uri_ok_iff {method : Method} {uri : Uri Authority} :
    (∃ formed, http1Uri method uri = .ok formed) ↔
      HasHttp1Form method uri := by
  constructor
  · rintro ⟨formed, isFormed⟩
    by_contra formless
    obtain ⟨panic, panics⟩ := http1Uri_panics formless
    cases isFormed.symm.trans panics
  · intro form
    obtain ⟨authority, hasAuthority⟩ :=
      Option.isSome_iff_exists.mp form.authority
    by_cases isConnect : method = .connect
    · subst isConnect
      obtain ⟨formed, isFormed, _⟩ := http1Uri_of_connect hasAuthority
      exact ⟨formed, isFormed⟩
    · obtain ⟨scheme, hasScheme⟩ :=
        Option.isSome_iff_exists.mp (form.scheme isConnect)
      obtain ⟨formed, isFormed, _⟩ :=
        http1Uri_spec method hasScheme hasAuthority
      exact ⟨formed, isFormed⟩

private theorem checkHttp1Request_ok_iff {Conn : Type x}
    [HttpConnectionInfo Conn]
    {conn : Conn} (isHttp1 : HttpConnectionInfo.version conn = .http1)
    (request : Request Authority Extensions Body) :
    (∃ prepared, checkHttp1Request (conn, request) = .ok prepared) ↔
      HasHttp1Form request.method request.uri := by
  rw [checkHttp1Request, if_neg (not_not.mpr isHttp1), ← http1Uri_ok_iff]
  constructor
  · rintro ⟨prepared, isPrepared⟩
    rcases isFormed : http1Uri request.method request.uri with panic | formed
    · rw [isFormed] at isPrepared
      cases isPrepared
    · exact ⟨formed, rfl⟩
  · rintro ⟨formed, isFormed⟩
    rw [isFormed]
    exact ⟨_, rfl⟩

/-- Setting the Host header changes the headers of a request at most. -/
theorem setHostHeader_total [HttpAuthority Authority]
    [LawfulAuthority Authority]
    (request : Request Authority Extensions Body) :
    ∃ headers, setHostHeader request = .ok { request with headers } := by
  rcases hasAuthority : request.uri.authority with _ | authority
  · have noHost : request.uri.host = none := by
      rw [Uri.host, hasAuthority, Option.map_none]
    refine ⟨request.headers, ?_⟩
    rw [setHostHeader, noHost]
  · obtain ⟨headers, hostSet, _⟩ := Client.setHostHeader_spec hasAuthority
    exact ⟨headers, hostSet⟩

end Service

namespace Client

variable {Authority : Type u} {Extensions : Type v} {Body : Type w}
  {Conn : Type x} [HttpAuthority Authority] [HttpConnectionInfo Conn]

/-- On an HTTP/1 connection the check of a request returns exactly if the
request has a form there, and so does the whole stack over any executor that
does not panic itself. -/
theorem prepared_iff_hasHttp1Form [LawfulAuthority Authority] (conn : Conn)
    (isHttp1 : HttpConnectionInfo.version conn = .http1)
    (request : Request Authority Extensions Body) :
    ((∃ prepared, checkHttp1Request (conn, request) = .ok prepared) ↔
      HasHttp1Form request.method request.uri) ∧
    ∀ {Future Error : Type y}
      (executor :
        Conn × Request Authority Extensions Body → Checked Future),
      (∀ sent, ∃ future, executor sent = .ok future) →
        ((∃ future : Http2ChecksFuture Future Error,
            executorStack executor (conn, request) = .ok future) ↔
          HasHttp1Form request.method request.uri) := by
  refine ⟨checkHttp1Request_ok_iff isHttp1 request, ?_⟩
  intro Future Error executor total
  obtain ⟨headers, hostSet⟩ := setHostHeader_total request
  have checked := checkHttp1Request_ok_iff isHttp1 { request with headers }
  have notHttp2 : HttpConnectionInfo.version conn ≠ .http2 := by
    simp [isHttp1]
  have stack :
      (executorStack executor (conn, request) :
          Checked (Http2ChecksFuture Future Error)) =
        (Http1Checks.call executor (conn, { request with headers })).map
          .service := by
    simp only [executorStack, SetHostHeader.callConnected, if_pos isHttp1,
      hostSet, Http2Checks.call, checkHttp2Request_of_ne _ notHttp2]
  rw [stack, Http1Checks.call]
  refine Iff.trans ?_ checked
  rcases checkHttp1Request (conn, { request with headers }) with
    panic | prepared
  · constructor
    · rintro ⟨future, isFuture⟩
      cases isFuture
    · rintro ⟨prepared, isPrepared⟩
      cases isPrepared
  · obtain ⟨future, called⟩ := total prepared
    refine iff_of_true ⟨.service future, ?_⟩ ⟨prepared, rfl⟩
    simp only [called]
    rfl

def connectRequest : Request TextAuthority Unit Unit :=
  { Request.get (.ofAuthority ⟨"example.com:443", by decide⟩) () () with
    method := .connect }

theorem prepared_connect :
    ∃ prepared,
      checkHttp1Request (HttpProtocol.http1, connectRequest) =
        .ok prepared := by
  have form : HasHttp1Form connectRequest.method connectRequest.uri :=
    ⟨rfl, fun other => (other rfl).elim⟩
  exact
    (prepared_iff_hasHttp1Form.{0, 0, 0, 0, 0} HttpProtocol.http1 rfl
      connectRequest).1.mpr form

def relativeRequest (method : Method) : Request TextAuthority Unit Unit :=
  { Request.get
      ⟨{ pathAndQuery := some ⟨"/path"⟩ }, by decide⟩
      () () with
    method }

/-- The pool builds a key for requests with a relative URI, and the check for
HTTP/1 panics on them. -/
theorem relativeRequest_panics :
    (∀ method, ∃ key, UriKey.buildKey (relativeRequest method) = .ok key) ∧
    checkHttp1Request (HttpProtocol.http1, relativeRequest .connect) =
      .error (.unreachable "authority_form with relative uri") ∧
    checkHttp1Request (HttpProtocol.http1, relativeRequest .get) =
      .error (.assertion "absolute_form needs a scheme") :=
  ⟨fun _ => ⟨_, rfl⟩, rfl, rfl⟩

end Client

end Hyperdriver
