import Hyperdriver.Foundation.Poll
import Hyperdriver.Http.Message

/-!
# The Host header of a request

`SetHostHeader` adds a Host header computed from the URI to a request that has
none.  Below the connection pool it does so when the connection speaks HTTP/1;
above the pool, where there is no connection yet, when the version of the
request is lower than HTTP/2.
-/

namespace Hyperdriver

open Foundation

universe u v w

inductive HttpProtocol where
  | http1
  | http2
  | http3
  deriving DecidableEq, Repr

/-- A connection that knows its protocol. -/
class HttpConnectionInfo (Conn : Type u) where
  version : Conn → HttpProtocol

instance : HttpConnectionInfo HttpProtocol where
  version := id

namespace Service

variable {Authority : Type u} {Extensions : Type v} {Body : Type w}
  [HttpAuthority Authority]

/-! ## The value of the header -/

/-- Whether the scheme is presumed secure. -/
def isSchemaSecure (uri : Uri Authority) : Bool :=
  match uri.schemeStr with
  | some scheme => scheme = "wss" ∨ scheme = "https"
  | none => false

/-- The port if it is not the default port for the scheme. -/
def getNonDefaultPort (uri : Uri Authority) : Option UInt16 :=
  match uri.port, isSchemaSecure uri with
  | some 443, true => none
  | some 80, false => none
  | _, _ => uri.port

/-- The value built from the URI for a request that has none. -/
def hostValue (uri : Uri Authority) : Checked HeaderValue := do
  let hostname ← expect "authority implies host" uri.host
  let text :=
    match getNonDefaultPort uri with
    | some port => hostname ++ ":" ++ displayU16 port
    | none => hostname
  expect "uri host is valid header value" (HeaderValue.fromStr text)

/-- Set the Host header from the URI if the request has none. -/
def setHostHeader (request : Request Authority Extensions Body) :
    Checked (Request Authority Extensions Body) :=
  match request.uri.host with
  | none => .ok request
  | some _ =>
      if (request.headers.get .host).isSome then
        .ok request
      else
        (hostValue request.uri).map fun value =>
          { request with headers := request.headers.append .host value }

/-- The port a scheme has by default: 443 when it is presumed secure, 80 when
it is not. -/
def defaultPort (uri : Uri Authority) : UInt16 :=
  if isSchemaSecure uri then 443 else 80

/-- The text `host[:port]` of an authority under a URI's scheme, with the
default port left out. -/
def hostText (uri : Uri Authority) (authority : Authority) : String :=
  match HttpAuthority.port authority with
  | none => HttpAuthority.host authority
  | some port =>
      if port = defaultPort uri then HttpAuthority.host authority
      else HttpAuthority.host authority ++ ":" ++ displayU16 port

private theorem getNonDefaultPort_eq (uri : Uri Authority) :
    getNonDefaultPort uri =
      uri.port.filter fun port => port ≠ defaultPort uri := by
  unfold getNonDefaultPort defaultPort
  rcases uri.port with _ | port
  · cases isSchemaSecure uri <;> rfl
  · rw [Option.filter_some]
    cases isSchemaSecure uri with
    | true =>
        by_cases same : port = 443
        · subst same
          rfl
        · simp [same]
    | false =>
        by_cases same : port = 80
        · subst same
          rfl
        · simp [same]

private theorem hostValue_eq {uri : Uri Authority} {authority : Authority}
    (present : uri.authority = some authority) :
    hostValue uri =
      expect "uri host is valid header value"
        (HeaderValue.fromStr (hostText uri authority)) := by
  have host : uri.host = some (HttpAuthority.host authority) := by
    rw [Uri.host, present, Option.map_some]
  have port : uri.port = HttpAuthority.port authority := by
    rw [Uri.port, present, Option.bind_some]
  rw [hostValue, host, expect_some, getNonDefaultPort_eq, port, hostText]
  change expect _ (HeaderValue.fromStr _) = _
  rcases HttpAuthority.port authority with _ | port
  · rfl
  · by_cases same : port = defaultPort uri
    · rw [Option.filter_some_neg (by simp [same])]
      simp only [same, if_true]
    · rw [Option.filter_some_pos (by simp [same])]
      simp only [same, if_false]

private theorem hostText_visible [LawfulAuthority Authority]
    (uri : Uri Authority)
    (authority : Authority) :
    AllVisible (hostText uri authority).toList := by
  intro letter member
  have inHost := LawfulAuthority.host_visible authority letter
  unfold hostText at member
  split at member
  · exact inHost member
  · split at member
    · exact inHost member
    · rw [String.toList_append, String.toList_append, List.mem_append,
        List.mem_append] at member
      rcases member with (host | colon) | digit
      · exact inHost host
      · have same : letter = ':' := by simpa using colon
        rw [same]
        decide
      · have isDigit := isDigit_of_mem_displayU16 digit
        simp only [Char.isDigit, Bool.and_eq_true, decide_eq_true_eq]
          at isDigit
        have lower : 48 ≤ letter.toNat := isDigit.1
        have upper : letter.toNat ≤ 57 := isDigit.2
        exact Or.inl ⟨by omega, by omega⟩

/-! ## One request -/

theorem setHostHeader_of_present
    {request : Request Authority Extensions Body}
    (present : request.headers.getAll .host ≠ []) :
    setHostHeader request = .ok request := by
  have found : (request.headers.get .host).isSome := by
    rw [HeaderMap.get]
    rcases values : request.headers.getAll .host with _ | ⟨value, rest⟩
    · exact (present values).elim
    · rfl
  unfold setHostHeader
  split
  · rfl
  · rw [if_pos found]

/-- A request without one gets the host of its URI, and the header can always be
built. -/
theorem setHostHeader_of_absent [LawfulAuthority Authority]
    {request : Request Authority Extensions Body} {authority : Authority}
    (absent : request.headers.getAll .host = [])
    (hasAuthority : request.uri.authority = some authority) :
    ∃ value : HeaderValue,
      value.toStr = some (hostText request.uri authority) ∧
        setHostHeader request =
          .ok { request with
            headers := request.headers.append .host value } := by
  have host :
      request.uri.host = some (HttpAuthority.host authority) := by
    rw [Uri.host, hasAuthority, Option.map_some]
  have notFound : ¬ (request.headers.get .host).isSome := by
    simp [HeaderMap.get, absent]
  have visible := hostText_visible request.uri authority
  have built := HeaderValue.fromStr_of_visible visible
  refine ⟨_, HeaderValue.toStr_fromStatic visible, ?_⟩
  simp only [setHostHeader, host]
  rw [if_neg notFound, hostValue_eq hasAuthority, built, expect_some]
  rfl

/-! ## The middleware -/

/-- `SetHostHeader` above the connection pool. -/
def SetHostHeader.call {Future : Type*}
    (inner : Request Authority Extensions Body → Checked Future)
    (request : Request Authority Extensions Body) : Checked Future :=
  if request.version < .http2 then
    match setHostHeader request with
    | .ok request => inner request
    | .error panic => .error panic
  else
    inner request

/-- `SetHostHeader` below the connection pool. -/
def SetHostHeader.callConnected {Conn : Type*} {Future : Type*}
    [HttpConnectionInfo Conn]
    (inner : Conn × Request Authority Extensions Body → Checked Future) :
    Conn × Request Authority Extensions Body → Checked Future
  | (conn, request) =>
      if HttpConnectionInfo.version conn = .http1 then
        match setHostHeader request with
        | .ok request => inner (conn, request)
        | .error panic => .error panic
      else
        inner (conn, request)

end Service

end Hyperdriver
