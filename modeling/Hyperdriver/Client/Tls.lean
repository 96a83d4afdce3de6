import Hyperdriver.Client.Key
import Hyperdriver.Http.Uri

/-!
# TLS between the client and the server

A connection is opened with TLS when the URI of the request asks for it, and
the name expected of the server is then the Host header of the request or, if
there is none in text form, the host of its URI.

The pool reuses the connection for every request with the same key.  Whether
such a request would have opened its connection alike depends on parts of the
request that the key does not show.
-/

namespace Hyperdriver

open Foundation

universe u v w

namespace Client

variable {Authority : Type u} {Extensions : Type v} {Body : Type w}
  [HttpAuthority Authority]

/-! ## Reading a request -/

/-- The first Host header in text form, or else the host of the URI. -/
def getHost (request : Request Authority Extensions Body) : Option String :=
  ((request.headers.get .host).bind HeaderValue.toStr).or request.uri.host

/-- The name to expect of the server, if the connection is to use TLS. -/
def getTlsDomain (request : Request Authority Extensions Body) :
    Option String :=
  match request.uri.scheme with
  | some scheme =>
      if scheme.Same .https then getHost request
      else if scheme.asStr = "wss" then getHost request
      else none
  | none => none

/-! ## Opening a connection -/

structure TlsRequest (Request : Type*) where
  request : Request
  domain : Option String

/-- A transport without TLS, or one with a TLS configuration, which can still
connect without it. -/
inductive InnerBraid (Request Future TlsFuture : Type*) where
  | plain (connect : Request → Future)
  | tls (connect : Request → Future) (call : TlsRequest Request → TlsFuture)

structure AutoTlsTransport (Request Future TlsFuture : Type*) where
  braid : InnerBraid Request Future TlsFuture

inductive TransportBraidFuture (Future TlsFuture : Type*) where
  | plain (future : Future)
  | tls (future : TlsFuture)

def AutoTlsTransport.call {Future TlsFuture : Type*}
    (transport :
      AutoTlsTransport (Request Authority Extensions Body) Future TlsFuture)
    (request : Request Authority Extensions Body) :
    TransportBraidFuture Future TlsFuture :=
  match transport.braid, getTlsDomain request with
  | .plain connect, _ => .plain (connect request)
  | .tls _ call, some domain => .tls (call ⟨request, some domain⟩)
  | .tls connect _, none => .plain (connect request)

/-- A transport with a TLS configuration that records what it is called
with. -/
def recordingTransport (Request : Type*) :
    AutoTlsTransport Request Request (TlsRequest Request) :=
  ⟨.tls id id⟩

/-- The name that the server of an opened connection has proved to have, if the
connection uses TLS. -/
def TransportBraidFuture.serverName {Request : Type*} :
    TransportBraidFuture Request (TlsRequest Request) → Option String
  | .plain _ => none
  | .tls request => request.domain

/-- The server that a client with a TLS configuration opens a connection to, if
the connection uses TLS. -/
def openedFor (request : Request Authority Extensions Body) : Option String :=
  ((recordingTransport _).call request).serverName

@[simp]
theorem openedFor_eq (request : Request Authority Extensions Body) :
    openedFor request = getTlsDomain request := by
  unfold openedFor AutoTlsTransport.call recordingTransport
  cases getTlsDomain request with
  | none => rfl
  | some domain => rfl

/-! ## When requests with the same key agree -/

/-- Both without TLS, or both with it and for the same server name. -/
def TlsAgree (left right : Option String) : Prop :=
  Option.Rel EqIgnoreAsciiCase left right

/-- The URI writes one of the schemes that ask for TLS, `wss` in lower case. -/
def WritesTlsScheme (uri : Uri Authority) : Prop :=
  uri.scheme = some .https ∨ uri.schemeStr = some "wss"

instance (uri : Uri Authority) : Decidable (WritesTlsScheme uri) :=
  inferInstanceAs (Decidable (_ ∨ _))

/-- The first Host header, if it is in text form. -/
def writtenHost (request : Request Authority Extensions Body) :
    Option String :=
  (request.headers.get .host).bind HeaderValue.toStr

/-- Neither request leaves out a scheme `https` that the other writes, nor does
it spell `wss` in another case. -/
structure SchemesMatch (left right : Uri Authority) : Prop where
  https : left.scheme = some .https ↔ right.scheme = some .https
  wss : left.schemeStr = some "wss" ↔ right.schemeStr = some "wss"

/-- The Host headers are the same up to case, where the host of the URI stands
in for a header that is absent or not in text form. -/
def HostsMatch (left right : Request Authority Extensions Body) : Prop :=
  match writtenHost left, writtenHost right with
  | some leftHost, some rightHost => EqIgnoreAsciiCase leftHost rightHost
  | some leftHost, none =>
      Option.Rel EqIgnoreAsciiCase (some leftHost) right.uri.host
  | none, some rightHost =>
      Option.Rel EqIgnoreAsciiCase left.uri.host (some rightHost)
  | none, none => True

private theorem scheme_same_https_iff {scheme : Scheme} :
    scheme.Same .https ↔ scheme = .https := by
  cases scheme with
  | http => simp [Scheme.Same]
  | https => simp [Scheme.Same]
  | other name => simp [Scheme.Same]

theorem getTlsDomain_eq (request : Request Authority Extensions Body) :
    getTlsDomain request =
      if WritesTlsScheme request.uri then getHost request else none := by
  rcases hasScheme : request.uri.scheme with _ | scheme
  · simp [getTlsDomain, WritesTlsScheme, Uri.schemeStr, hasScheme]
  · by_cases isHttps : scheme = .https
    · simp [getTlsDomain, WritesTlsScheme, Uri.schemeStr, hasScheme,
        scheme_same_https_iff, isHttps]
    · simp [getTlsDomain, WritesTlsScheme, Uri.schemeStr, hasScheme,
        scheme_same_https_iff, isHttps]

omit [HttpAuthority Authority] in
theorem WritesTlsScheme.exists_scheme {uri : Uri Authority}
    (writes : WritesTlsScheme uri) : ∃ scheme, uri.scheme = some scheme := by
  rcases writes with https | wss
  · exact ⟨.https, https⟩
  · obtain ⟨scheme, hasScheme, _⟩ := Option.map_eq_some_iff.mp wss
    exact ⟨scheme, hasScheme⟩

private theorem exists_host_of_writes {uri : Uri Authority}
    (writes : WritesTlsScheme uri) : ∃ host, uri.host = some host := by
  obtain ⟨scheme, hasScheme⟩ := writes.exists_scheme
  obtain ⟨authority, _, hasAuthority, _⟩ := Uri.absolute_parts hasScheme
  exact ⟨HttpAuthority.host authority, by
    rw [Uri.host, hasAuthority, Option.map_some]⟩

/-! ### The schemes -/

section Schemes

variable {left right : Request Authority Extensions Body}

private theorem https_of_writes (same : SameUriKey left right)
    (https : left.uri.scheme = some .https)
    (writes : WritesTlsScheme right.uri) :
    right.uri.scheme = some .https := by
  rcases writes with isHttps | wss
  · exact isHttps
  · obtain ⟨scheme, hasScheme, isWss⟩ := Option.map_eq_some_iff.mp wss
    have sameScheme := (sameUriKey_iff.mp same).1
    rw [https, hasScheme, Option.getD_some, Option.getD_some] at sameScheme
    have isHttps : scheme = .https :=
      scheme_same_https_iff.mp sameScheme.symm
    rw [hasScheme, isHttps]

private theorem schemesMatch_iff (same : SameUriKey left right) :
    SchemesMatch left.uri right.uri ↔
      (WritesTlsScheme left.uri ↔ WritesTlsScheme right.uri) := by
  constructor
  · intro schemes
    exact or_congr schemes.https schemes.wss
  · intro alike
    have https :
        left.uri.scheme = some .https ↔ right.uri.scheme = some .https := by
      constructor
      · intro isHttps
        have rightWrites := alike.mp (Or.inl isHttps)
        exact https_of_writes same isHttps rightWrites
      · intro isHttps
        have leftWrites := alike.mpr (Or.inl isHttps)
        exact https_of_writes same.symm isHttps leftWrites
    have exclusive : ∀ uri : Uri Authority,
        uri.schemeStr = some "wss" → uri.scheme ≠ some .https := by
      intro uri wss isHttps
      rw [Uri.schemeStr, isHttps, Option.map_some] at wss
      exact absurd wss (by decide)
    refine ⟨https, fun wss => ?_, fun wss => ?_⟩
    · rcases alike.mp (.inr wss) with isHttps | isWss
      · exact (exclusive _ wss (https.mpr isHttps)).elim
      · exact isWss
    · rcases alike.mpr (.inr wss) with isHttps | isWss
      · exact (exclusive _ wss (https.mp isHttps)).elim
      · exact isWss

end Schemes

/-! ### The hosts -/

section Hosts

variable [LawfulAuthority Authority]
  {left right : Request Authority Extensions Body}

private theorem host_rel_of_sameUriKey (same : SameUriKey left right) :
    Option.Rel EqIgnoreAsciiCase left.uri.host right.uri.host := by
  have authorities := (sameUriKey_iff.mp same).2
  rw [Uri.host, Uri.host]
  generalize left.uri.authority = leftAuthority at authorities ⊢
  generalize right.uri.authority = rightAuthority at authorities ⊢
  cases authorities with
  | some sameAuthority =>
      exact .some (LawfulAuthority.host_congr _ _ sameAuthority)
  | none =>
      exact .none

private theorem getHost_agree_iff (same : SameUriKey left right) :
    TlsAgree (getHost left) (getHost right) ↔ HostsMatch left right := by
  have hosts := host_rel_of_sameUriKey same
  have leftHost : getHost left = (writtenHost left).or left.uri.host := rfl
  have rightHost : getHost right = (writtenHost right).or right.uri.host :=
    rfl
  rw [leftHost, rightHost, TlsAgree, HostsMatch]
  rcases writtenHost left with _ | leftWritten
  · rcases writtenHost right with _ | rightWritten
    · simpa using hosts
    · simp
  · rcases writtenHost right with _ | rightWritten
    · simp
    · simp

end Hosts

/-! ## Main results -/

/-- The parts of two requests with the same key that decide whether they agree
on TLS. -/
structure SameTlsParts (left right : Request Authority Extensions Body) :
    Prop where
  schemes : SchemesMatch left.uri right.uri
  hosts : WritesTlsScheme left.uri → HostsMatch left right

theorem exists_getHost_of_writes {request : Request Authority Extensions Body}
    (writes : WritesTlsScheme request.uri) :
    ∃ name, getHost request = some name := by
  obtain ⟨host, hasHost⟩ := exists_host_of_writes writes
  rw [getHost, hasHost]
  cases (request.headers.get .host).bind HeaderValue.toStr with
  | none => exact ⟨host, rfl⟩
  | some name => exact ⟨name, rfl⟩

private theorem getTlsDomain_agree_iff [LawfulAuthority Authority]
    {left right : Request Authority Extensions Body}
    (same : SameUriKey left right) :
    TlsAgree (getTlsDomain left) (getTlsDomain right) ↔
      SameTlsParts left right := by
  have parts :
      SameTlsParts left right ↔
        (WritesTlsScheme left.uri ↔ WritesTlsScheme right.uri) ∧
          (WritesTlsScheme left.uri → HostsMatch left right) := by
    rw [← schemesMatch_iff same]
    constructor
    · intro all
      exact ⟨all.schemes, all.hosts⟩
    · rintro ⟨schemes, hosts⟩
      exact ⟨schemes, hosts⟩
  rw [parts, getTlsDomain_eq, getTlsDomain_eq]
  by_cases leftWrites : WritesTlsScheme left.uri
  · by_cases rightWrites : WritesTlsScheme right.uri
    · simp [leftWrites, rightWrites, getHost_agree_iff same]
    · obtain ⟨name, hasName⟩ := exists_getHost_of_writes leftWrites
      simp [leftWrites, rightWrites, hasName, TlsAgree]
  · by_cases rightWrites : WritesTlsScheme right.uri
    · obtain ⟨name, hasName⟩ := exists_getHost_of_writes rightWrites
      simp [leftWrites, rightWrites, hasName, TlsAgree]
    · simp [leftWrites, rightWrites, TlsAgree]

/-- Two requests with the same key agree on TLS exactly when these parts do, and
the connections that a run of the pool reuses are fit for the requests they
serve exactly when those of each pair do. -/
theorem pooled_tls_agree_iff [LawfulAuthority Authority] :
    (∀ left right : Request Authority Extensions Body,
      SameUriKey left right →
        (TlsAgree (getTlsDomain left) (getTlsDomain right) ↔
          SameTlsParts left right)) ∧
    ∀ (pool :
        List (Filed (Request Authority Extensions Body) (UriKey Authority)))
      (reused :
        List (Request Authority Extensions Body ×
          Request Authority Extensions Body)),
      UriPoolRun pool reused →
        ((∀ opener served, (opener, served) ∈ reused →
            TlsAgree (openedFor opener) (getTlsDomain served)) ↔
          ∀ opener served, (opener, served) ∈ reused →
            SameTlsParts opener served) := by
  refine ⟨fun left right same => getTlsDomain_agree_iff same, ?_⟩
  intro pool reused run
  apply run.safe_iff
  intro opener served same
  rw [openedFor_eq]
  exact getTlsDomain_agree_iff same

def requestSpelled (authority : TextAuthority) :
    Request TextAuthority Unit Unit :=
  Request.get (.absolute .https authority ⟨"/"⟩) () ()

theorem pooled_tls_agree_iff_respelled :
    let left := requestSpelled ⟨"Example.com", by decide⟩
    let right := requestSpelled ⟨"example.com", by decide⟩
    ∃ pool,
      UriPoolRun pool [(left, right)] ∧
        TlsAgree (getTlsDomain left) (getTlsDomain right) ∧
        ∀ opener served, (opener, served) ∈ [(left, right)] →
          TlsAgree (openedFor opener) (getTlsDomain served) := by
  intro left right
  have same : SameUriKey left right :=
    sameUriKey_iff.mpr ⟨by decide, .some (by decide)⟩
  have parts : SameTlsParts left right :=
    { schemes := ⟨by decide, by decide⟩
      hosts := fun _ => trivial }
  obtain ⟨pool, run⟩ := exists_run_of_sameKey same
  refine ⟨pool, run, (pooled_tls_agree_iff.1 _ _ same).mpr parts,
    (pooled_tls_agree_iff.2 pool _ run).mpr ?_⟩
  intro opener served member
  cases List.mem_singleton.mp member
  exact parts

def requestWithHost (host : UInt8) : Request TextAuthority Unit Unit :=
  { Request.get (.absolute .https ⟨"example.com", by decide⟩ ⟨"/"⟩) () ()
    with headers := ⟨[(.host, ⟨[host]⟩)]⟩ }

def requestWithoutScheme : Request TextAuthority Unit Unit :=
  { Request.get (.ofAuthority ⟨"example.com", by decide⟩) () ()
    with version := .http2 }

def websocketRequest
    (scheme : { name : String // name ≠ "http" ∧ name ≠ "https" }) :
    Request TextAuthority Unit Unit :=
  Request.get (.absolute (.other scheme) ⟨"example.com", by decide⟩ ⟨"/"⟩)
    () ()

/-- Requests that share a key although only one of them uses TLS, or both do and
expect different names: they differ in their Host headers, in whether the
scheme is written, or in how it is spelled. -/
theorem sameUriKey_with_other_tls :
    (SameUriKey (requestWithHost 97) (requestWithHost 98) ∧
      ¬ TlsAgree (getTlsDomain (requestWithHost 97))
        (getTlsDomain (requestWithHost 98))) ∧
    (SameUriKey (requestWithHost 97) requestWithoutScheme ∧
      ¬ TlsAgree (getTlsDomain (requestWithHost 97))
        (getTlsDomain requestWithoutScheme)) ∧
    SameUriKey (websocketRequest ⟨"wss", by decide⟩)
        (websocketRequest ⟨"WSS", by decide⟩) ∧
      ¬ TlsAgree (getTlsDomain (websocketRequest ⟨"wss", by decide⟩))
        (getTlsDomain (websocketRequest ⟨"WSS", by decide⟩)) := by
  have hosts :
      getTlsDomain (requestWithHost 97) = some "a" ∧
        getTlsDomain (requestWithHost 98) = some "b" := by
    decide
  have schemeless : getTlsDomain requestWithoutScheme = none := by
    decide
  have spellings :
      getTlsDomain (websocketRequest ⟨"wss", by decide⟩) =
          some "example.com" ∧
        getTlsDomain (websocketRequest ⟨"WSS", by decide⟩) = none := by
    decide
  rw [hosts.1, hosts.2, schemeless, spellings.1, spellings.2]
  refine ⟨⟨sameUriKey_iff.mpr ⟨by decide, .some (by decide)⟩, ?_⟩,
    ⟨sameUriKey_iff.mpr ⟨by decide, .some (by decide)⟩, nofun⟩,
    sameUriKey_iff.mpr ⟨by decide, .some (by decide)⟩, nofun⟩
  rw [TlsAgree, Option.rel_some_some]
  decide

end Client

end Hyperdriver
