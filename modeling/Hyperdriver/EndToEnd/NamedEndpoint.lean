import Hyperdriver.Client.Dispatch
import Hyperdriver.Client.Resolver

/-!
# The endpoint that a request names

A server reads the endpoint that a request is for from its Host header, or from
its URI on HTTP/2, and takes the default port of its connection where none is
written.  The client leaves the port out of the Host header when it is the
default of the scheme of the request's own URI.

The two defaults are not the same when a connection is used by a request whose
scheme is written otherwise, or not at all.
-/

namespace Hyperdriver

open Foundation Service Client

universe u v w

namespace EndToEnd

variable {Authority : Type u} {Extensions : Type v} {Body : Type w}
  [HttpAuthority Authority]

/-! ## Reading the endpoint -/

/-- The default port of a connection. -/
def connectionPort (secure : Bool) : UInt16 :=
  if secure then 443 else 80

/-- What a server reads from the request. -/
def namedEndpoint (default : UInt16)
    (wire : Request Authority Extensions Body) : Option (String × UInt16) :=
  if wire.version = .http2 then
    wire.uri.authority.map fun authority =>
      (trimBrackets (HttpAuthority.host authority),
        (HttpAuthority.port authority).getD default)
  else
    ((wire.headers.get .host).bind HeaderValue.toStr).bind
      (readHostHeader default)

/-- The port that is read from the Host header of the URI. -/
def readPort (default : UInt16) (uri : Uri Authority)
    (authority : Authority) : UInt16 :=
  ((HttpAuthority.port authority).filter (· ≠ defaultPort uri)).getD default

private theorem splitHostPort_hostText [LawfulAuthority Authority]
    (uri : Uri Authority) (authority : Authority) :
    splitHostPort (hostText uri authority).toList =
      ((HttpAuthority.host authority).toList,
        ((HttpAuthority.port authority).filter (· ≠ defaultPort uri)).map
          fun port => (displayU16 port).toList) := by
  have shape := LawfulAuthority.host_shape authority
  have withoutPort := splitHostPort_append shape (Or.inl rfl)
  rw [List.append_nil] at withoutPort
  unfold hostText
  rcases HttpAuthority.port authority with _ | port
  · exact withoutPort
  · by_cases isDefault : port = defaultPort uri
    · simp only [isDefault, if_true, Option.filter_some, ne_eq, not_true,
        decide_false, Bool.false_eq_true, if_false, Option.map_none]
      exact withoutPort
    · simp only [isDefault, if_false, Option.filter_some, ne_eq,
        not_false_eq_true, decide_true, if_true, Option.map_some]
      rw [String.append_assoc, String.toList_append, String.toList_append]
      exact splitHostPort_append shape (Or.inr rfl)

/-- The Host header names the host of the URI, and its port if it is
written. -/
theorem readHostHeader_hostText_of_default [LawfulAuthority Authority]
    (default : UInt16) (uri : Uri Authority) (authority : Authority) :
    readHostHeader default (hostText uri authority) =
      some
        (trimBrackets (HttpAuthority.host authority),
          readPort default uri authority) := by
  rw [readHostHeader, splitHostPort_hostText, readPort]
  rcases (HttpAuthority.port authority).filter (· ≠ defaultPort uri) with
    _ | port
  · simp only [Option.map_none, Option.getD_none, String.ofList_toList]
  · simp only [Option.map_some, parseU16_displayU16, Option.getD_some,
      String.ofList_toList]

section OnTheWire

variable {served wire : Request Authority Extensions Body}
  {protocol : HttpProtocol} {authority : Authority}

/-- On HTTP/1 a port that is left out is the default of the connection. -/
theorem namedEndpoint_of_onWire [LawfulAuthority Authority]
    (default : UInt16) (onWire : OnWire served protocol wire)
    (noHost : served.headers.getAll .host = [])
    (hasAuthority : served.uri.authority = some authority) :
    namedEndpoint default wire =
      some
        (trimBrackets (HttpAuthority.host authority),
          if protocol = .http2 then
            (HttpAuthority.port authority).getD default
          else
            readPort default served.uri authority) := by
  cases onWire with
  | @http1 named formed alsoNamed sent =>
      cases hasAuthority.symm.trans alsoNamed
      obtain ⟨value, isText, isSet⟩ := sent.hostComputed noHost
      have first : formed.headers.get .host = some value := by
        rw [HeaderMap.get, isSet]
        rfl
      have notHttp2 : ¬ Version.http11 = .http2 := by decide
      have notProtocol : ¬ HttpProtocol.http1 = .http2 := by decide
      simp only [namedEndpoint, if_neg notHttp2, if_neg notProtocol, first,
        Option.bind_some, isText]
      exact readHostHeader_hostText_of_default default served.uri authority
  | http2 notConnect sent =>
      simp only [namedEndpoint, sent.version, sent.uri, hasAuthority, if_true,
        Option.map_some]

end OnTheWire

/-! ## Main result -/

/-- The port of a connection is read, unless it was left out as another
default. -/
theorem readPort_eq_iff {default : UInt16} {uri : Uri Authority}
    {authority : Authority} :
    (HttpAuthority.port authority).getD default =
        readPort default uri authority ↔
      HttpAuthority.port authority ≠ some (defaultPort uri) ∨
        defaultPort uri = default := by
  unfold readPort
  rcases HttpAuthority.port authority with _ | port
  · simp
  · by_cases isDefault : port = defaultPort uri
    · simp [Option.filter_some, isDefault]
    · simp [Option.filter_some, isDefault]

omit [HttpAuthority Authority] in
private theorem defaultPort_eq_iff {uri : Uri Authority} {secure : Bool} :
    defaultPort uri = connectionPort secure ↔
      isSchemaSecure uri = secure := by
  unfold defaultPort connectionPort
  cases isSchemaSecure uri
  · cases secure <;> decide
  · cases secure <;> decide

/-- A connection uses TLS exactly if the scheme of its request is secure. -/
theorem isSome_openedFor (request : Request Authority Extensions Body) :
    (openedFor request).isSome = isSchemaSecure request.uri := by
  rw [openedFor_eq, getTlsDomain_eq, Bool.eq_iff_iff, isSchemaSecure_iff]
  by_cases writes : WritesTlsScheme request.uri
  · obtain ⟨name, hasName⟩ := exists_getHost_of_writes writes
    simp [writes, hasName]
  · simp [writes]

/-- In every run of the pool of a client with a TLS configuration, a request
without a Host header that is sent on a connection of another one names the
endpoint of that connection, except on HTTP/1 when its port is the default of
its scheme and its scheme and the connection do not agree about TLS. -/
theorem pooled_requests_name_endpoint_iff [LawfulAuthority Authority]
    (samePort :
      ∀ left right : Authority, SameAuthority left right →
        HttpAuthority.port left = HttpAuthority.port right)
    (pool :
      List (Filed (Request Authority Extensions Body) (UriKey Authority)))
    (reused :
      List (Request Authority Extensions Body ×
        Request Authority Extensions Body))
    (run : UriPoolRun pool reused)
    (opener served : Request Authority Extensions Body)
    (member : (opener, served) ∈ reused) (endpoint : String × UInt16)
    (resolved : getHostAndPort opener.uri = .ok endpoint)
    (noHost : served.headers.getAll .host = []) (protocol : HttpProtocol)
    (wire : Request Authority Extensions Body)
    (onWire : OnWire served protocol wire) :
    (∃ named,
      namedEndpoint (connectionPort (openedFor opener).isSome) wire =
          some named ∧
        SameEndpoint endpoint named) ↔
      protocol = .http2 ∨
        served.uri.port ≠ some (defaultPort served.uri) ∨
          isSchemaSecure served.uri = (openedFor opener).isSome := by
  have same : SameUriKey opener served := run.sameKey_of_mem member
  obtain ⟨openAuthority, authority, hasOpen, hasServed, sameAuthority⟩ :=
    authorities_of_sameUriKey same resolved
  have sameHost :=
    trimBrackets_congr (LawfulAuthority.host_congr _ _ sameAuthority)
  have openDefault :
      defaultPort opener.uri = connectionPort (openedFor opener).isSome :=
    defaultPort_eq_iff.mpr (isSome_openedFor opener).symm
  have isEndpoint := getHostAndPort_eq_ok hasOpen resolved
  rw [openDefault, samePort _ _ sameAuthority] at isEndpoint
  subst isEndpoint
  have servedPort : served.uri.port = HttpAuthority.port authority := by
    rw [Uri.port, hasServed, Option.bind_some]
  rw [namedEndpoint_of_onWire _ onWire noHost hasServed, servedPort]
  simp only [Option.some.injEq, exists_eq_left', SameEndpoint, sameHost,
    true_and]
  cases protocol with
  | http2 =>
      simp
  | http1 =>
      rw [if_neg (by decide), readPort_eq_iff, defaultPort_eq_iff]
      simp
  | http3 =>
      cases onWire

/-! ## A request on the default port -/

def getSecure : Request TextAuthority Unit Unit :=
  .get (.absolute .https ⟨"example.net:443", by decide⟩ ⟨"/"⟩) () ()

/-- The connection is opened for another path, with the host in capitals. -/
def headOfForm : Request TextAuthority Unit Unit :=
  { Request.get
      (.absolute .https ⟨"EXAMPLE.net:443", by decide⟩ ⟨"/form"⟩) () () with
    method := .head }

def getSecureSent : Request TextAuthority Unit Unit :=
  { getSecure with
    uri := .default
    headers := getSecure.headers.append .host (.fromStatic "example.net") }

private theorem getSecure_sent :
    SentOnHttp1 ⟨"example.net:443", by decide⟩ getSecure getSecureSent where
  connect := nofun
  origin _ := ⟨⟨"/"⟩, ⟨"/"⟩, rfl, rfl, rfl⟩
  hostGiven given := (given rfl).elim
  hostComputed _ := ⟨.fromStatic "example.net", by decide, rfl⟩
  headers _ different := HeaderMap.getAll_append_of_ne _ _ different
  method := rfl
  version := rfl
  extensions := rfl
  body := rfl

/-- The port that the Host header leaves out is read as it was dialled. -/
theorem pooled_requests_name_endpoint_iff_getSecure :
    ∃ pool, UriPoolRun pool [(headOfForm, getSecure)] ∧
      ∃ named,
        namedEndpoint 443 { getSecureSent with version := .http11 } =
            some named ∧
          SameEndpoint ("EXAMPLE.net", 443) named := by
  have same : SameUriKey headOfForm getSecure :=
    sameUriKey_iff.mpr ⟨by decide, .some (by decide)⟩
  obtain ⟨pool, run⟩ := exists_run_of_sameKey same
  refine ⟨pool, run, ?_⟩
  exact
    (pooled_requests_name_endpoint_iff port_eq_of_sameAuthority pool _ run
      headOfForm getSecure List.mem_cons_self ("EXAMPLE.net", 443)
      (by decide) rfl .http1 _ (.http1 rfl getSecure_sent)).mpr
      (Or.inr (Or.inr (by decide)))

/-- A websocket whose scheme is in capitals loses its port. -/
example :
    readPort 443
        (.absolute (.other ⟨"WSS", by decide⟩)
          (⟨"example.net:80", by decide⟩ : TextAuthority) ⟨"/"⟩)
        ⟨"example.net:80", by decide⟩ =
      443 := by
  decide

end EndToEnd

end Hyperdriver
