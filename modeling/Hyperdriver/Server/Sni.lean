import Hyperdriver.Foundation.Poll
import Hyperdriver.Http.Message

/-!
# Validation of the server name

On a TLS connection the client names the server before the handshake.
`ValidateSNIService` compares that name with the host of every request, which
is the authority of the URI on HTTP/2 and the Host header otherwise, and marks
the connection info of the requests for which both are the same.
-/

namespace Hyperdriver

open Foundation

universe u v w

namespace Server

/-! ## Errors -/

inductive ValidateSniError where
  | invalidSni (host sni : String)
  | missingSni (host : String)
  deriving DecidableEq, Repr

def ValidateSniError.display : ValidateSniError → String
  | .invalidSni host sni =>
      "TLS SNI \"" ++ sni ++ "\" does not match HOST header \"" ++ host ++ "\""
  | .missingSni host =>
      "TLS SNI was not provided when requesting \"" ++ host ++ "\""

inductive SniMiddlewareError (Error : Type u) where
  | inner (error : Error)
  | sni (error : ValidateSniError)
  deriving DecidableEq, Repr

/-! ## The middleware -/

section Middleware

variable {Authority : Type u} {Extensions : Type v} {Body : Type w}
  [HttpAuthority Authority] [ExtensionSlot Extensions TlsConnectionInfo]

/-- The host of a request, if it is present and reads as an authority: that of
the URI on HTTP/2, and else the first Host header. -/
def requestHost (request : Request Authority Extensions Body) :
    Option Authority :=
  if request.version = .http2 then
    request.uri.authority
  else
    ((request.headers.get .host).bind HeaderValue.toStr).bind
      HttpAuthority.parse

/-- Compare the host of a request with the server name of its connection. -/
def handle (request : Request Authority Extensions Body) :
    Option ValidateSniError × Request Authority Extensions Body :=
  let host := requestHost request
  match (ExtensionSlot.get request.extensions : Option TlsConnectionInfo) with
  | none => (none, request)
  | some tls =>
      match tls.serverName.bind
          (HttpAuthority.parse : String → Option Authority) with
      | some sni =>
          match host with
          | some host =>
              if HttpAuthority.host host ≠ HttpAuthority.host sni then
                (some
                  (.invalidSni (HttpAuthority.asStr host)
                    (HttpAuthority.asStr sni)), request)
              else
                (none,
                  { request with
                    extensions :=
                      ExtensionSlot.insert request.extensions
                        tls.validated })
          | none => (none, request)
      | none =>
          (some (.missingSni ((host.map HttpAuthority.asStr).getD "-")),
            request)

/-- The future of a validated call: an error that is ready until it is taken, or
the future of the inner service. -/
inductive SniFuture (Future Error : Type*) where
  | left (error : Option (SniMiddlewareError Error))
  | right (future : Future)

def SniFuture.poll {Future Error Response : Type*}
    (pollInner : Future → Poll (Except Error Response) × Future) :
    SniFuture Future Error →
      Checked
        (Poll (Except (SniMiddlewareError Error) Response) ×
          SniFuture Future Error)
  | .left (some error) => .ok (.ready (.error error), .left none)
  | .left none => .error (.expect "Ready polled after completion")
  | .right future =>
      match pollInner future with
      | (.pending, future) => .ok (.pending, .right future)
      | (.ready (.ok response), future) =>
          .ok (.ready (.ok response), .right future)
      | (.ready (.error error), future) =>
          .ok (.ready (.error (.inner error)), .right future)

def ValidateSniService.call {Future Error : Type*}
    (inner : Request Authority Extensions Body → Future)
    (request : Request Authority Extensions Body) : SniFuture Future Error :=
  match handle request with
  | (some error, _) => .left (some (.sni error))
  | (none, request) => .right (inner request)

theorem handle_of_host {request : Request Authority Extensions Body}
    {tls : TlsConnectionInfo} {sni host : Authority}
    (hasInfo : ExtensionSlot.get request.extensions = some tls)
    (hasSni : tls.serverName.bind HttpAuthority.parse = some sni)
    (hasHost : requestHost request = some host) :
    handle request =
      if HttpAuthority.host host = HttpAuthority.host sni then
        (none,
          { request with
            extensions :=
              ExtensionSlot.insert request.extensions tls.validated })
      else
        (some
          (.invalidSni (HttpAuthority.asStr host) (HttpAuthority.asStr sni)),
          request) := by
  unfold handle
  simp only [hasInfo, hasSni, hasHost, ne_eq, ite_not]

/-! ## What is forwarded -/

/-- A request that is forwarded on a connection to the server `sni`. -/
structure Validated (tls : TlsConnectionInfo) (sni : Authority)
    (request passed : Request Authority Extensions Body) : Prop where
  serverName : tls.serverName.bind HttpAuthority.parse = some sni
  host :
    ∀ host, requestHost request = some host →
      EqIgnoreAsciiCase (HttpAuthority.host host) (HttpAuthority.host sni)
  marked :
    requestHost request ≠ none →
      ExtensionSlot.get passed.extensions = some tls.validated
  /-- Nothing but the mark is changed. -/
  changed :
    requestHost request ≠ none →
      passed =
        { request with
          extensions :=
            ExtensionSlot.insert request.extensions tls.validated }
  unmarked : requestHost request = none → passed = request

theorem handle_passes {request passed : Request Authority Extensions Body}
    {tls : TlsConnectionInfo}
    (hasInfo : ExtensionSlot.get request.extensions = some tls)
    (passes : handle request = (none, passed)) :
    ∃ sni : Authority, Validated tls sni request passed := by
  unfold handle at passes
  rw [hasInfo] at passes
  rcases hasSni : tls.serverName.bind
      (HttpAuthority.parse : String → Option Authority) with _ | sni
  · simp [hasSni] at passes
  · refine ⟨sni, ?_⟩
    rcases hasHost : requestHost request with _ | host
    · simp only [hasSni, hasHost, Prod.mk.injEq, true_and] at passes
      subst passes
      exact
        { serverName := hasSni
          host := fun host present => by rw [hasHost] at present; cases present
          marked := fun present => (present hasHost).elim
          changed := fun present => (present hasHost).elim
          unmarked := fun _ => rfl }
    · have handled := handle_of_host hasInfo hasSni hasHost
      rw [handle, hasInfo] at handled
      rw [handled] at passes
      by_cases same : HttpAuthority.host host = HttpAuthority.host sni
      · rw [if_pos same] at passes
        cases passes
        exact
          { serverName := hasSni
            host := fun other present => by
              rw [hasHost] at present
              cases present
              rw [same]
            marked := fun _ => ExtensionSlot.get_insert _ _
            changed := fun _ => rfl
            unmarked := fun absent => by
              rw [hasHost] at absent
              cases absent }
      · rw [if_neg same] at passes
        cases passes

/-- A request with TLS connection info is only forwarded if the server name is
known and the host of the request, if it has one, is the same; and then it is
marked unless it has no host. -/
theorem call_forwards_validated {Future Error : Type*}
    (inner : Request Authority Extensions Body → Future)
    (request : Request Authority Extensions Body) (tls : TlsConnectionInfo)
    (future : Future)
    (hasInfo : ExtensionSlot.get request.extensions = some tls)
    (forwarded :
      (ValidateSniService.call inner request : SniFuture Future Error) =
        .right future) :
    ∃ (sni : Authority) (passed : Request Authority Extensions Body),
      future = inner passed ∧ Validated tls sni request passed := by
  unfold ValidateSniService.call at forwarded
  rcases handled : handle request with ⟨_ | error, passed⟩
  · rw [handled] at forwarded
    obtain ⟨sni, validated⟩ := handle_passes hasInfo handled
    exact ⟨sni, passed, (SniFuture.right.inj forwarded).symm, validated⟩
  · rw [handled] at forwarded
    cases forwarded

/-! ## What is accepted -/

/-- A request is forwarded with its connection info marked. -/
structure Accepted (Error : Type*) {Future : Type*}
    (inner : Request Authority Extensions Body → Future)
    (tls : TlsConnectionInfo)
    (request passed : Request Authority Extensions Body) : Prop where
  handled : handle request = (none, passed)
  marked : ExtensionSlot.get passed.extensions = some tls.validated
  forwarded :
    (ValidateSniService.call inner request : SniFuture Future Error) =
      .right (inner passed)

section Verdict

variable {request : Request Authority Extensions Body}
  {tls : TlsConnectionInfo} {sni host : Authority}

private theorem verdict_iff
    (hasInfo : ExtensionSlot.get request.extensions = some tls)
    (hasSni : tls.serverName.bind HttpAuthority.parse = some sni)
    (hasHost : requestHost request = some host) :
    (handle request).1 = none ↔
      HttpAuthority.host host = HttpAuthority.host sni := by
  rw [handle_of_host hasInfo hasSni hasHost]
  split
  · rename_i same
    exact iff_of_true rfl same
  · rename_i different
    exact iff_of_false nofun different

private theorem accepted_iff (Error : Type*) {Future : Type*}
    (inner : Request Authority Extensions Body → Future)
    (hasInfo : ExtensionSlot.get request.extensions = some tls)
    (hasSni : tls.serverName.bind HttpAuthority.parse = some sni)
    (hasHost : requestHost request = some host) :
    (∃ passed, Accepted Error inner tls request passed) ↔
      HttpAuthority.host host = HttpAuthority.host sni := by
  constructor
  · rintro ⟨passed, accepted⟩
    rw [← verdict_iff hasInfo hasSni hasHost, accepted.handled]
  · intro same
    have handled := handle_of_host hasInfo hasSni hasHost
    rw [if_pos same] at handled
    refine ⟨_, handled, ExtensionSlot.get_insert _ _, ?_⟩
    rw [ValidateSniService.call, handled]

end Verdict

/-- A request whose host is the server name up to ASCII case is accepted exactly
if both are spelled in the same case.  Two such hosts, with whatever ports, get
the same verdict exactly if both or neither are spelled like the server
name. -/
theorem accepted_iff_sameSpelling (Error : Type*) {Future : Type*}
    (inner : Request Authority Extensions Body → Future) :
    (∀ (request : Request Authority Extensions Body)
        (tls : TlsConnectionInfo) (sni host : Authority),
      ExtensionSlot.get request.extensions = some tls →
        tls.serverName.bind HttpAuthority.parse = some sni →
          requestHost request = some host →
            EqIgnoreAsciiCase (HttpAuthority.host host)
                (HttpAuthority.host sni) →
              ((∃ passed, Accepted Error inner tls request passed) ↔
                HttpAuthority.host host = HttpAuthority.host sni)) ∧
    ∀ (left right : Request Authority Extensions Body)
      (tls : TlsConnectionInfo) (sni leftHost rightHost : Authority),
      ExtensionSlot.get left.extensions = some tls →
        ExtensionSlot.get right.extensions = some tls →
          tls.serverName.bind HttpAuthority.parse = some sni →
            requestHost left = some leftHost →
              requestHost right = some rightHost →
                EqIgnoreAsciiCase (HttpAuthority.host leftHost)
                    (HttpAuthority.host rightHost) →
                  (((handle left).1 = none ↔ (handle right).1 = none) ↔
                    (HttpAuthority.host leftHost = HttpAuthority.host sni ↔
                      HttpAuthority.host rightHost =
                        HttpAuthority.host sni)) := by
  constructor
  · intro request tls sni host hasInfo hasSni hasHost _
    exact accepted_iff Error inner hasInfo hasSni hasHost
  · intro left right tls sni leftHost rightHost leftInfo rightInfo hasSni
      hasLeft hasRight _
    rw [verdict_iff leftInfo hasSni hasLeft,
      verdict_iff rightInfo hasSni hasRight]

end Middleware

/-! ## Requests to `example.com` -/

def requestOnTls (version : Version) (uri : Uri TextAuthority)
    (hosts : List HeaderValue) :
    Request TextAuthority (Option TlsConnectionInfo) Unit :=
  { Request.get uri (some ⟨some "example.com", false, none⟩) () with
    version := version
    headers := ⟨hosts.map fun host => (.host, host)⟩ }

def forwardedRequest
    (request : Request TextAuthority (Option TlsConnectionInfo) Unit) :
    Option (Request TextAuthority (Option TlsConnectionInfo) Unit) :=
  match (ValidateSniService.call id request : SniFuture _ Empty) with
  | .left _ => none
  | .right passed => some passed

theorem call_forwards_validated_hostWithPort :
    ∃ (sni : TextAuthority)
      (passed : Request TextAuthority (Option TlsConnectionInfo) Unit),
      { requestOnTls .http11 .default [.fromStatic "example.com:8080"] with
          extensions := some ⟨some "example.com", true, none⟩ } = id passed ∧
        Validated ⟨some "example.com", false, none⟩ sni
          (requestOnTls .http11 .default [.fromStatic "example.com:8080"])
          passed :=
  call_forwards_validated id _ _ _ rfl
    (show (ValidateSniService.call id _ : SniFuture _ Empty) = _ from rfl)

/-- Requests that are forwarded although they name another host: in the URI
below HTTP/2, in a Host header on HTTP/2, in a second Host header, or in one
that cannot be read. -/
theorem forwarded_beside_other_host :
    (forwardedRequest
      (requestOnTls .http11
        (.absolute .https ⟨"example.org", by decide⟩ ⟨"/"⟩)
        [.fromStatic "example.com"])).isSome ∧
    (forwardedRequest
      (requestOnTls .http2
        (.absolute .https ⟨"example.com", by decide⟩ ⟨"/"⟩)
        [.fromStatic "example.org"])).isSome ∧
    (forwardedRequest
      (requestOnTls .http11 .default
        [.fromStatic "example.com", .fromStatic "example.org"])).isSome ∧
    (forwardedRequest
      (requestOnTls .http11 .default [⟨[255]⟩])).map (·.extensions) =
        some (some ⟨some "example.com", false, none⟩) := by
  decide

private theorem exampleHost_visible : AllGraphic "example.com".toList := by
  decide

def exampleHost : TextAuthority :=
  ⟨"example.com", exampleHost_visible⟩

private theorem exampleHostPort_visible :
    AllGraphic "example.com:8080".toList := by
  decide

def exampleHostPort : TextAuthority :=
  ⟨"example.com:8080", exampleHostPort_visible⟩

theorem accepted_whatever_port :
    (∃ passed,
      Accepted Empty id ⟨some "example.com", false, none⟩
        (requestOnTls .http11 .default [.fromStatic "example.com:8080"])
        passed) ∧
    ((handle
        (requestOnTls .http11 .default
          [.fromStatic "example.com:8080"])).1 = none ↔
      (handle
        (requestOnTls .http11 .default [.fromStatic "example.com"])).1 =
          none) :=
  ⟨((accepted_iff_sameSpelling Empty id).1 _ _ exampleHost exampleHostPort
      rfl rfl rfl (by decide)).mpr (by decide),
    ((accepted_iff_sameSpelling Empty id).2 _ _
      ⟨some "example.com", false, none⟩ exampleHost exampleHostPort
      exampleHost rfl rfl rfl rfl rfl (by decide)).mpr (by decide)⟩

/-- A host in another case than the server name is rejected. -/
theorem other_case_rejected :
    let request :=
      requestOnTls .http11 .default [.fromStatic "Example.com"]
    requestHost request = some ⟨"Example.com", by decide⟩ ∧
      EqIgnoreAsciiCase
        (HttpAuthority.host
          (⟨"Example.com", by decide⟩ : TextAuthority))
        (HttpAuthority.host
          (⟨"example.com", by decide⟩ : TextAuthority)) ∧
      (handle request).1 = some (.invalidSni "Example.com" "example.com") ∧
        forwardedRequest request = none := by
  decide

end Server

end Hyperdriver
