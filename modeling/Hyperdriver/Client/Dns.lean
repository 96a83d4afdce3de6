import Hyperdriver.Client.Tls
import Hyperdriver.Foundation.ByteSource
import Hyperdriver.Service.Host

/-!
# The endpoint that is dialled

The resolver reads the host and the port to dial from the URI of a request.
The Host header and the decision about TLS read the same URI on their own.
Here the three readings are compared.
-/

namespace Hyperdriver

open Foundation Service

universe u v w

namespace Client

variable {Authority : Type u} {Extensions : Type v} {Body : Type w}
  [HttpAuthority Authority]

/-! ## Reading the endpoint -/

/-- A host without the brackets of an IP literal. -/
def trimBrackets (host : String) : String :=
  String.ofList
    ((host.toList.dropWhile (· = '[')).rdropWhile (· = ']'))

def getHostAndPort (uri : Uri Authority) : Except IoError (String × UInt16) :=
  match uri.host with
  | none => .error ⟨.invalidData, some "missing host in URI"⟩
  | some host =>
      let host := trimBrackets host
      match uri.port with
      | some port => .ok (host, port)
      | none =>
          if uri.schemeStr = some "http" then .ok (host, 80)
          else if uri.schemeStr = some "https" then .ok (host, 443)
          else
            .error
              ⟨.invalidData,
                some "missing port in URI for non-http(s) scheme"⟩

/-- Read the text of a Host header back: the host without brackets, and the port
it writes or else the default. -/
def readHostHeader (default : UInt16) (text : String) :
    Option (String × UInt16) :=
  match splitHostPort text.toList with
  | (host, none) => some (trimBrackets (String.ofList host), default)
  | (host, some digits) =>
      (parseU16 digits).map fun port =>
        (trimBrackets (String.ofList host), port)

/-! ## The three readings -/

section Readings

variable {uri : Uri Authority} {authority : Authority}

theorem getHostAndPort_of_port {port : UInt16}
    (hasAuthority : uri.authority = some authority)
    (hasPort : HttpAuthority.port authority = some port) :
    getHostAndPort uri =
      .ok (trimBrackets (HttpAuthority.host authority), port) := by
  simp [getHostAndPort, Uri.host, Uri.port, hasAuthority, hasPort]

theorem getHostAndPort_of_noPort
    (hasAuthority : uri.authority = some authority)
    (noPort : HttpAuthority.port authority = none)
    (standard : uri.scheme = some .http ∨ uri.scheme = some .https) :
    getHostAndPort uri =
      .ok (trimBrackets (HttpAuthority.host authority), defaultPort uri) := by
  rcases standard with isHttp | isHttps
  · simp [getHostAndPort, Uri.host, Uri.port, hasAuthority, noPort,
      Uri.schemeStr, isHttp, Scheme.asStr, defaultPort, isSchemaSecure]
  · simp [getHostAndPort, Uri.host, Uri.port, hasAuthority, noPort,
      Uri.schemeStr, isHttps, Scheme.asStr, defaultPort, isSchemaSecure]

theorem getHostAndPort_of_noPort_of_other
    {name : { name : String // name ≠ "http" ∧ name ≠ "https" }}
    (hasAuthority : uri.authority = some authority)
    (noPort : HttpAuthority.port authority = none)
    (other : uri.scheme = some (.other name)) :
    getHostAndPort uri =
      .error
        ⟨.invalidData,
          some "missing port in URI for non-http(s) scheme"⟩ := by
  simp [getHostAndPort, Uri.host, Uri.port, hasAuthority, noPort,
    Uri.schemeStr, other, Scheme.asStr, name.property.1, name.property.2]

theorem getHostAndPort_eq_ok {endpoint : String × UInt16}
    (hasAuthority : uri.authority = some authority)
    (success : getHostAndPort uri = .ok endpoint) :
    endpoint =
      (trimBrackets (HttpAuthority.host authority),
        (HttpAuthority.port authority).getD (defaultPort uri)) := by
  rcases hasPort : HttpAuthority.port authority with _ | port
  · by_cases standard : uri.scheme = some .http ∨ uri.scheme = some .https
    · rw [getHostAndPort_of_noPort hasAuthority hasPort standard] at success
      exact (Except.ok.inj success).symm
    · have notHttp : uri.schemeStr ≠ some "http" := by
        intro isHttp
        obtain ⟨scheme, hasScheme, text⟩ := Option.map_eq_some_iff.mp isHttp
        rw [Scheme.asStr_eq_http_iff] at text
        exact standard (Or.inl (text ▸ hasScheme))
      have notHttps : uri.schemeStr ≠ some "https" := by
        intro isHttps
        obtain ⟨scheme, hasScheme, text⟩ := Option.map_eq_some_iff.mp isHttps
        rw [Scheme.asStr_eq_https_iff] at text
        exact standard (Or.inr (text ▸ hasScheme))
      simp [getHostAndPort, Uri.host, Uri.port, hasAuthority, hasPort,
        notHttp, notHttps] at success
  · rw [getHostAndPort_of_port hasAuthority hasPort] at success
    exact (Except.ok.inj success).symm

/-- The Host header denotes the host of the URI, and its port or the default. -/
theorem readHostHeader_hostText [LawfulAuthority Authority] :
    readHostHeader (defaultPort uri) (hostText uri authority) =
      some
        (trimBrackets (HttpAuthority.host authority),
          (HttpAuthority.port authority).getD (defaultPort uri)) := by
  have shape := LawfulAuthority.host_shape authority
  have withoutPort :
      splitHostPort (HttpAuthority.host authority).toList =
        ((HttpAuthority.host authority).toList, none) := by
    have split := splitHostPort_append shape (Or.inl rfl)
    rwa [List.append_nil] at split
  have withPort : ∀ port : UInt16,
      splitHostPort
          (HttpAuthority.host authority ++ ":" ++ displayU16 port).toList =
        ((HttpAuthority.host authority).toList,
          some (displayU16 port).toList) := by
    intro port
    rw [String.append_assoc, String.toList_append, String.toList_append]
    exact splitHostPort_append shape (Or.inr rfl)
  unfold readHostHeader hostText
  rcases HttpAuthority.port authority with _ | port
  · simp [withoutPort]
  · by_cases same : port = defaultPort uri
    · simp [same, withoutPort]
    · simp only [same, if_false, withPort, parseU16_displayU16,
        Option.map_some, String.ofList_toList, Option.getD_some]

omit [HttpAuthority Authority] in
theorem isSchemaSecure_iff :
    isSchemaSecure uri = true ↔ WritesTlsScheme uri := by
  rcases hasScheme : uri.scheme with _ | scheme
  · simp [isSchemaSecure, WritesTlsScheme, Uri.schemeStr, hasScheme]
  · simp [isSchemaSecure, WritesTlsScheme, Uri.schemeStr, hasScheme,
      Scheme.asStr_eq_https_iff, or_comm]

end Readings

/-! ## Main result -/

def WritesPort (authority : Authority) (port : UInt16) : Prop :=
  ∃ text, HttpAuthority.portText authority = some text ∧
    parseU16 text.toList = some port

/-- The authority writes no port, or a colon and nothing after it. -/
def WritesNoPort (authority : Authority) : Prop :=
  HttpAuthority.portText authority = none ∨
    HttpAuthority.portText authority = some ""

private theorem WritesNoPort.port_eq_none [LawfulAuthority Authority]
    {authority : Authority} (none : WritesNoPort authority) :
    HttpAuthority.port authority = .none := by
  rw [LawfulAuthority.port_eq]
  rcases none with absent | empty
  · rw [absent, Option.bind_none]
  · rw [empty, Option.bind_some]
    rfl

private theorem writesPort_iff [LawfulAuthority Authority]
    {authority : Authority}
    {port : UInt16} :
    WritesPort authority port ↔ HttpAuthority.port authority = some port := by
  rw [LawfulAuthority.port_eq, Option.bind_eq_some_iff, WritesPort]

/-- How the three readings of a URI fit together. -/
structure ReadingsFit (uri : Uri Authority) (authority : Authority) :
    Prop where
  written :
    ∀ port, WritesPort authority port →
      getHostAndPort uri =
        .ok (trimBrackets (HttpAuthority.host authority), port)
  default :
    WritesNoPort authority →
      uri.scheme = some .http ∨ uri.scheme = some .https →
        getHostAndPort uri =
          .ok
            (trimBrackets (HttpAuthority.host authority), defaultPort uri)
  /-- Without a port there is no endpoint for another scheme. -/
  refused :
    WritesNoPort authority →
      uri.schemeStr = some "wss" →
        getHostAndPort uri =
          .error
            ⟨.invalidData,
              some "missing port in URI for non-http(s) scheme"⟩
  /-- A Host header that is set denotes the endpoint that is dialled. -/
  host :
    ∀ {Extensions : Type} {Body : Type}
      (request : Request Authority Extensions Body)
      (endpoint : String × UInt16),
      request.uri = uri →
        request.headers.getAll .host = [] →
          getHostAndPort uri = .ok endpoint →
            ∃ (headers : HeaderMap) (value : HeaderValue) (text : String),
              setHostHeader request = .ok { request with headers } ∧
                headers.getAll .host = [value] ∧
                  value.toStr = some text ∧
                    readHostHeader (defaultPort uri) text = some endpoint
  /-- The default port is 443 exactly when the connection uses TLS. -/
  tls :
    ∀ {Extensions : Type} {Body : Type}
      (request : Request Authority Extensions Body),
      request.uri = uri →
        (defaultPort uri = 443 ↔ (getTlsDomain request).isSome)

/-- The endpoint, the Host header and the decision about TLS read a URI the same
way, except that there is no default endpoint for a websocket.  Where the text
of the port is not a `u16`, only the Host header and the decision about TLS are
compared with what is dialled. -/
theorem readingsFit [LawfulAuthority Authority] (uri : Uri Authority)
    (authority : Authority) (hasAuthority : uri.authority = some authority) :
    ReadingsFit uri authority where
  written port writes :=
    getHostAndPort_of_port hasAuthority (writesPort_iff.mp writes)
  default none standard :=
    getHostAndPort_of_noPort hasAuthority none.port_eq_none standard
  refused none websocket := by
    obtain ⟨scheme, hasScheme, text⟩ := Option.map_eq_some_iff.mp websocket
    cases scheme with
    | http => exact absurd text (by decide)
    | https => exact absurd text (by decide)
    | other name =>
        exact getHostAndPort_of_noPort_of_other hasAuthority
          none.port_eq_none hasScheme
  host request endpoint sameUri absent success := by
    subst sameUri
    obtain ⟨value, text, hostSet⟩ :=
      setHostHeader_of_absent absent hasAuthority
    refine ⟨_, value, _, hostSet, ?_, text, ?_⟩
    · rw [HeaderMap.getAll_append_self, absent, List.nil_append]
    · rw [readHostHeader_hostText, getHostAndPort_eq_ok hasAuthority success]
  tls request sameUri := by
    subst sameUri
    rw [getTlsDomain_eq]
    by_cases secure : isSchemaSecure request.uri = true
    · have writes := isSchemaSecure_iff.mp secure
      obtain ⟨name, hasName⟩ := exists_getHost_of_writes writes
      simp [defaultPort, secure, writes, hasName]
    · have notWrites : ¬ WritesTlsScheme request.uri :=
        fun writes => secure (isSchemaSecure_iff.mpr writes)
      simp [defaultPort, secure, notWrites]

theorem readingsFit_websocket :
    ReadingsFit
      (.absolute (.other ⟨"wss", by decide⟩)
        (⟨"[::1]:8443", by decide⟩ : TextAuthority) ⟨"/"⟩)
      ⟨"[::1]:8443", by decide⟩ :=
  readingsFit _ _ rfl

/-- A websocket without a port is refused, and the text of a port that is too
large gives way to the default port. -/
theorem other_endpoint_dialled :
    getHostAndPort
        (.absolute (.other ⟨"wss", by decide⟩)
          (⟨"example.com", by decide⟩ : TextAuthority) ⟨"/"⟩) =
      .error
        ⟨.invalidData,
          some "missing port in URI for non-http(s) scheme"⟩ ∧
    HttpAuthority.portText
        (⟨"example.com:99999", by decide⟩ : TextAuthority) =
      some "99999" ∧
    getHostAndPort
        (.absolute .http
          (⟨"example.com:99999", by decide⟩ : TextAuthority) ⟨"/"⟩) =
      .ok ("example.com", 80) := by
  decide

end Client

end Hyperdriver
