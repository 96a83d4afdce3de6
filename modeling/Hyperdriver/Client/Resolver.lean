import Hyperdriver.Client.Dns
import Hyperdriver.Foundation.Layers

/-!
# Resolving the endpoint of a request

`GaiResolver` reads the endpoint off the URI of a request and looks it up in a
task of its own; `FirstAddrResolver` takes the first address.  A connection that
is handed out by the pool is not resolved again.  It leads to the endpoint that
would have been looked up, and to the addresses of that endpoint.
-/

namespace Hyperdriver

open Foundation Service

universe u v w x

namespace Client

/-! ## Lookups -/

/-- Why a task did not return: it was cancelled, or it panicked. -/
structure JoinError where
  isCancelled : Bool
  display : String
  deriving DecidableEq, Repr

/-- Kinds of errors that have no name here are numbered. -/
def ioErrorOther : IoErrorKind := .other 0

def addrNotAvailable : IoErrorKind := .other 1

section Resolver

variable {Input : Type u} {Handle SocketAddr IpAddr : Type w}

/-- What a lookup gives to the one who waits for it. -/
def joinResult :
    Except JoinError (Except IoError (List SocketAddr)) →
      Except IoError (List SocketAddr)
  | .ok result => result
  | .error error =>
      if error.isCancelled then .error ⟨.interrupted, some error.display⟩
      else .error ⟨ioErrorOther, some error.display⟩

/-- The future of a lookup, or the error of a request without an endpoint until
it is taken. -/
inductive GaiFuture (Handle : Type w) where
  | joinHandle (handle : Handle)
  | error (error : Option IoError)

/-- What the tasks of the runtime answer when they are polled. -/
abbrev PollHandle (Input : Type u) (Handle SocketAddr : Type w) : Type _ :=
  Input → Handle →
    Checked
      (Poll (Except JoinError (Except IoError (List SocketAddr))) × Handle)

def JoinHandleFuture.poll (pollHandle : PollHandle Input Handle SocketAddr)
    (input : Input) (handle : Handle) :
    Checked (Poll (Except IoError (List SocketAddr)) × Handle) :=
  (pollHandle input handle).map fun (answer, handle) =>
    (answer.map joinResult, handle)

def GaiFuture.poll (pollHandle : PollHandle Input Handle SocketAddr)
    (input : Input) :
    GaiFuture Handle →
      Checked (Poll (Except IoError (List SocketAddr)) × GaiFuture Handle)
  | .joinHandle handle =>
      (JoinHandleFuture.poll pollHandle input handle).map
        fun (answer, handle) => (answer, .joinHandle handle)
  | .error (some reason) => .ok (.ready (.error reason), .error none)
  | .error none => .error (.expect "error polled multiple times")

private theorem behaviour_joinHandle
    (pollHandle : PollHandle Input Handle SocketAddr)
    (handle : Handle) :
    behaviour (GaiFuture.poll pollHandle) (.joinHandle handle) =
      (behaviour pollHandle handle).map joinResult := by
  have polls (input : Input) (state : Handle) :
      GaiFuture.poll pollHandle input (.joinHandle state) =
        (pollHandle input state).map fun (answer, next) =>
          (answer.map joinResult, .joinHandle next) := by
    rw [GaiFuture.poll, JoinHandleFuture.poll]
    rcases pollHandle input state with panic | ⟨answer, next⟩
    · rfl
    · rfl
  exact behaviour_map polls handle

private theorem behaviour_gaiError
    (pollHandle : PollHandle Input Handle SocketAddr)
    (reason : IoError) :
    behaviour (GaiFuture.poll pollHandle) (.error (some reason)) =
      Behaviour.immediate (.error reason) :=
  behaviour_immediate fun _ => ⟨.error none, rfl⟩

/-! ## The resolvers -/

structure GaiResolver : Type w where

/-- `FirstAddrResolver`, with the future of a call in `FirstAddrFuture`. -/
structure FirstAddrResolver (D : Type w) where
  inner : D

structure FirstAddrFuture (F : Type w) where
  inner : F

variable {Authority Extensions Body : Type v} [HttpAuthority Authority]

/-- `spawnBlocking` starts the lookup of an endpoint and gives its handle. -/
def GaiResolver.serving (pollHandle : PollHandle Input Handle SocketAddr)
    (spawnBlocking : Input → String × UInt16 → Handle) :
    Serving.{u, v, w, 0, w} Input (Request Authority Extensions Body)
      (List SocketAddr) IoError where
  Service := GaiResolver
  Future := GaiFuture Handle
  clone := id
  pollReady _ self := .ok (.ready (.ok ()), self)
  call input self request :=
    match getHostAndPort request.uri with
    | .ok endpoint => .ok (.joinHandle (spawnBlocking input endpoint), self)
    | .error reason => .ok (.error (some reason), self)
  poll := GaiFuture.poll pollHandle

/-- The first of the addresses. -/
def firstAddr (ip : SocketAddr → IpAddr) :
    Except IoError (List SocketAddr) → Except IoError IpAddr
  | .ok (addr :: _) => .ok (ip addr)
  | .ok [] => .error ⟨addrNotAvailable, some "no address found"⟩
  | .error error => .error error

def FirstAddrFuture.poll {F : Type w} (ip : SocketAddr → IpAddr)
    (pollInner :
      Input → F → Checked (Poll (Except IoError (List SocketAddr)) × F))
    (input : Input) (self : FirstAddrFuture F) :
    Checked (Poll (Except IoError IpAddr) × FirstAddrFuture F) :=
  (pollInner input self.inner).map fun (answer, inner) =>
    (answer.map (firstAddr ip), ⟨inner⟩)

def FirstAddrResolver.serving (ip : SocketAddr → IpAddr)
    (inner :
      Serving.{u, v, w, 0, w} Input (Request Authority Extensions Body)
        (List SocketAddr) IoError) :
    Serving.{u, v, w, 0, w} Input (Request Authority Extensions Body) IpAddr
      IoError where
  Service := FirstAddrResolver inner.Service
  Future := FirstAddrFuture inner.Future
  clone self := ⟨inner.clone self.inner⟩
  pollReady input self :=
    (inner.pollReady input self.inner).map fun (answer, next) =>
      (answer, ⟨next⟩)
  call input self request :=
    (inner.call input self.inner request).map fun (future, next) =>
      (⟨future⟩, ⟨next⟩)
  poll := FirstAddrFuture.poll ip inner.poll

omit [HttpAuthority Authority] in
private theorem FirstAddrResolver.layered (ip : SocketAddr → IpAddr)
    (inner :
      Serving.{u, v, w, 0, w} Input (Request Authority Extensions Body)
        (List SocketAddr) IoError) :
    Layered (FirstAddrResolver.serving ip inner) inner FirstAddrResolver.mk
      (.behaves fun _ => Behaviour.map (firstAddr ip)) := by
  let wrap (_ : Input) (_ : inner.Service) :=
    @FirstAddrFuture.mk inner.Future
  refine Layered.of_wraps ?clone ?pollReady wrap ?call ?wraps
  case clone =>
    exact fun _ => rfl
  case pollReady =>
    exact fun _ _ => map_mapError_id FirstAddrResolver.mk _
  case call =>
    exact fun _ _ _ => rfl
  case wraps =>
    intro _ _ future
    have polls (input : Input) (state : inner.Future) :
        FirstAddrFuture.poll ip inner.poll input ⟨state⟩ =
          (inner.poll input state).map fun (answer, next) =>
            (answer.map (firstAddr ip), ⟨next⟩) :=
      rfl
    exact behaviour_map polls future

theorem GaiResolver.called_eq
    (pollHandle : PollHandle Input Handle SocketAddr)
    (spawnBlocking : Input → String × UInt16 → Handle) (input : Input)
    (service : GaiResolver) (request : Request Authority Extensions Body) :
    (GaiResolver.serving pollHandle spawnBlocking).called input service
        request =
      .ok
        (match getHostAndPort request.uri with
          | .ok endpoint =>
              (behaviour pollHandle (spawnBlocking input endpoint)).map
                joinResult
          | .error reason => Behaviour.immediate (.error reason),
          service) := by
  unfold Serving.called GaiResolver.serving
  dsimp only
  rcases getHostAndPort request.uri with reason | endpoint
  · exact congrArg (fun answers => Except.ok (answers, service))
      (behaviour_gaiError pollHandle reason)
  · exact congrArg (fun answers => Except.ok (answers, service))
      (behaviour_joinHandle pollHandle _)

/-- What a resolver for one address gives: an error at the first poll if the
request has no endpoint, and else the first address of its lookup. -/
theorem FirstAddrResolver.called_eq (ip : SocketAddr → IpAddr)
    (pollHandle : PollHandle Input Handle SocketAddr)
    (spawnBlocking : Input → String × UInt16 → Handle) (input : Input)
    (service : GaiResolver) (request : Request Authority Extensions Body) :
    (FirstAddrResolver.serving ip
        (GaiResolver.serving pollHandle spawnBlocking)).called input
        ⟨service⟩ request =
      .ok
        (match getHostAndPort request.uri with
          | .ok endpoint =>
              (behaviour pollHandle (spawnBlocking input endpoint)).map
                (firstAddr ip ∘ joinResult)
          | .error reason => Behaviour.immediate (.error reason),
          ⟨service⟩) := by
  refine
    ((FirstAddrResolver.layered ip
      (GaiResolver.serving pollHandle spawnBlocking)).called input service
        request).trans ?_
  change Except.map _
    ((GaiResolver.serving pollHandle spawnBlocking).called input service
      request) = _
  rw [GaiResolver.called_eq]
  rcases getHostAndPort request.uri with reason | endpoint
  · exact congrArg (fun answers => Except.ok (answers, _))
      (Behaviour.map_immediate _ _)
  · exact congrArg (fun answers => Except.ok (answers, _))
      (Behaviour.map_map _ _ _)

end Resolver

/-! ## Endpoints of requests that share a connection -/

section Endpoints

variable {Authority : Type u} {Extensions : Type v} {Body : Type w}
  [HttpAuthority Authority]

/-- One endpoint, up to the case of the host. -/
def SameEndpoint (left right : String × UInt16) : Prop :=
  EqIgnoreAsciiCase left.1 right.1 ∧ left.2 = right.2

private theorem asciiLower_trimBrackets (host : String) :
    asciiLower (trimBrackets host) =
      ((asciiLower host).dropWhile (· = '[')).rdropWhile (· = ']') := by
  have caseless (letter : Char) (isCaseless : Caseless letter) :
      (fun other : Char => decide (other = letter)) ∘ Char.toLower =
        fun other => decide (other = letter) := by
    funext other
    exact decide_eq_decide.mpr (toLower_eq_iff isCaseless other)
  rw [trimBrackets, asciiLower, asciiLower, String.toList_ofList,
    List.dropWhile_map, caseless '[' (by decide), List.rdropWhile,
    List.rdropWhile, ← List.map_reverse, List.dropWhile_map,
    caseless ']' (by decide), List.map_reverse]

theorem trimBrackets_congr {left right : String}
    (same : EqIgnoreAsciiCase left right) :
    EqIgnoreAsciiCase (trimBrackets left) (trimBrackets right) := by
  unfold EqIgnoreAsciiCase at same ⊢
  rw [asciiLower_trimBrackets, asciiLower_trimBrackets, same]

private theorem eq_of_same {scheme other : Scheme} (same : scheme.Same other)
    (standard : scheme = .http ∨ scheme = .https) : other = scheme := by
  rcases standard with rfl | rfl
  · cases other with
    | http => rfl
    | https => exact same.elim
    | other name => exact same.elim
  · cases other with
    | http => exact same.elim
    | https => rfl
    | other name => exact same.elim

/-- A request without a scheme and without a port is refused. -/
theorem getHostAndPort_of_noScheme {uri : Uri Authority}
    {authority : Authority} (hasAuthority : uri.authority = some authority)
    (noPort : HttpAuthority.port authority = none)
    (noScheme : uri.scheme = none) :
    getHostAndPort uri =
      .error
        ⟨.invalidData,
          some "missing port in URI for non-http(s) scheme"⟩ := by
  simp [getHostAndPort, Uri.host, Uri.port, hasAuthority, noPort,
    Uri.schemeStr, noScheme]

/-- Without a port, only the standard schemes have an endpoint. -/
theorem standard_of_resolved {uri : Uri Authority} {authority : Authority}
    (hasAuthority : uri.authority = some authority)
    (noPort : HttpAuthority.port authority = none)
    {endpoint : String × UInt16}
    (resolved : getHostAndPort uri = .ok endpoint) :
    ∃ scheme : Scheme, uri.scheme = some scheme ∧
      (scheme = .http ∨ scheme = .https) := by
  rcases hasScheme : uri.scheme with _ | scheme
  · rw [getHostAndPort_of_noScheme hasAuthority noPort hasScheme] at resolved
    cases resolved
  · refine ⟨scheme, rfl, ?_⟩
    cases scheme with
    | http => exact Or.inl rfl
    | https => exact Or.inr rfl
    | other name =>
        rw [getHostAndPort_of_noPort_of_other hasAuthority noPort hasScheme]
          at resolved
        cases resolved

omit [HttpAuthority Authority] in
private theorem defaultPort_of_standard {uri : Uri Authority} {scheme : Scheme}
    (hasScheme : uri.scheme = some scheme)
    (standard : scheme = .http ∨ scheme = .https) :
    defaultPort uri = if scheme = .https then 443 else 80 := by
  rcases standard with rfl | rfl
  · simp [defaultPort, isSchemaSecure, Uri.schemeStr, hasScheme, Scheme.asStr]
  · simp [defaultPort, isSchemaSecure, Uri.schemeStr, hasScheme, Scheme.asStr]

/-- Of two requests with the same key, both have an authority if the first one
has an endpoint, and the two are the same. -/
theorem authorities_of_sameUriKey
    {opener served : Request Authority Extensions Body}
    (same : SameUriKey opener served) {endpoint : String × UInt16}
    (resolved : getHostAndPort opener.uri = .ok endpoint) :
    ∃ authority other, opener.uri.authority = some authority ∧
      served.uri.authority = some other ∧ SameAuthority authority other := by
  have authorities := (sameUriKey_iff.mp same).2
  rcases openerHas : opener.uri.authority with _ | authority
  · simp [getHostAndPort, Uri.host, openerHas] at resolved
  rcases servedHas : served.uri.authority with _ | other
  · rw [openerHas, servedHas] at authorities
    cases authorities
  · rw [openerHas, servedHas] at authorities
    exact ⟨authority, other, rfl, rfl, Option.rel_some_some.mp authorities⟩

/-- Of two requests with the same key, the second resolves to the endpoint of
the first, or writes neither a scheme nor a port. -/
theorem endpoint_of_sameUriKey [LawfulAuthority Authority]
    (samePort :
      ∀ left right : Authority, SameAuthority left right →
        HttpAuthority.port left = HttpAuthority.port right)
    {opener served : Request Authority Extensions Body}
    (same : SameUriKey opener served) {endpoint : String × UInt16}
    (resolved : getHostAndPort opener.uri = .ok endpoint) :
    (∃ other, getHostAndPort served.uri = .ok other ∧
      SameEndpoint endpoint other) ∨
    (served.uri.scheme = none ∧ served.uri.port = none ∧
      endpoint.2 =
        if UriKey.impliedScheme served.version = .https then 443 else 80) := by
  have sameScheme := (sameUriKey_iff.mp same).1
  obtain ⟨authority, other, openerHas, servedHas, sameAuthority⟩ :=
    authorities_of_sameUriKey same resolved
  have sameHost :
      EqIgnoreAsciiCase (trimBrackets (HttpAuthority.host authority))
        (trimBrackets (HttpAuthority.host other)) :=
    trimBrackets_congr (LawfulAuthority.host_congr _ _ sameAuthority)
  have ports := samePort authority other sameAuthority
  have isEndpoint := getHostAndPort_eq_ok openerHas resolved
  rcases hasPort : HttpAuthority.port authority with _ | port
  · obtain ⟨scheme, hasScheme, standard⟩ :=
      standard_of_resolved openerHas hasPort resolved
    have isDefault := defaultPort_of_standard hasScheme standard
    rw [hasPort, Option.getD_none, isDefault] at isEndpoint
    subst isEndpoint
    rw [hasScheme, Option.getD_some] at sameScheme
    have servedPort : HttpAuthority.port other = none := ports ▸ hasPort
    rcases servedScheme : served.uri.scheme with _ | written
    · right
      rw [servedScheme, Option.getD_none] at sameScheme
      rw [eq_of_same sameScheme standard]
      refine ⟨rfl, ?_, rfl⟩
      rw [Uri.port, servedHas, Option.bind_some, servedPort]
    · left
      rw [servedScheme, Option.getD_some] at sameScheme
      have sameWritten := eq_of_same sameScheme standard
      subst sameWritten
      have servedStandard :
          served.uri.scheme = some .http ∨ served.uri.scheme = some .https :=
        standard.imp (fun isHttp => servedScheme.trans (congrArg some isHttp))
          fun isHttps => servedScheme.trans (congrArg some isHttps)
      refine ⟨_, getHostAndPort_of_noPort servedHas servedPort servedStandard,
        sameHost, ?_⟩
      exact (defaultPort_of_standard servedScheme standard).symm
  · left
    rw [hasPort, Option.getD_some] at isEndpoint
    subst isEndpoint
    exact ⟨_, getHostAndPort_of_port servedHas (ports ▸ hasPort), sameHost, rfl⟩

/-- In every run of the pool, a request that is served on a connection of
another one would itself have been sent to the endpoint of that connection.  The
only exceptions are requests without a scheme and a port, which have no endpoint
of their own: their connection is at the default port of the scheme that their
version implies. -/
theorem pooled_endpoints_agree [LawfulAuthority Authority]
    (samePort :
      ∀ left right : Authority, SameAuthority left right →
        HttpAuthority.port left = HttpAuthority.port right)
    {pool :
      List (Filed (Request Authority Extensions Body) (UriKey Authority))}
    {reused :
      List (Request Authority Extensions Body ×
        Request Authority Extensions Body)}
    (run : UriPoolRun pool reused)
    {opener served : Request Authority Extensions Body}
    (member : (opener, served) ∈ reused) {endpoint : String × UInt16}
    (resolved : getHostAndPort opener.uri = .ok endpoint) :
    (∃ other, getHostAndPort served.uri = .ok other ∧
      SameEndpoint endpoint other) ∨
    (served.uri.scheme = none ∧ served.uri.port = none ∧
      endpoint.2 =
        if UriKey.impliedScheme served.version = .https then 443 else 80) :=
  endpoint_of_sameUriKey samePort (run.sameKey_of_mem member) resolved

end Endpoints

/-! ## Lookups for requests that share a connection -/

section SharedLookups

variable {Input : Type u} {Authority Extensions Body : Type v}
  {Handle SocketAddr IpAddr : Type w} [HttpAuthority Authority]
  {pollHandle : PollHandle Input Handle SocketAddr}
  {spawnBlocking : Input → String × UInt16 → Handle}

/-- Lookups of one endpoint that are started at one time are answered alike,
whatever the case of the host. -/
def IgnoresCase (pollHandle : PollHandle Input Handle SocketAddr)
    (spawnBlocking : Input → String × UInt16 → Handle) : Prop :=
  ∀ input left right, SameEndpoint left right →
    behaviour pollHandle (spawnBlocking input left) =
      behaviour pollHandle (spawnBlocking input right)

/-- Both resolvers give these answers to a request, and the second one the first
address of each. -/
def ResolvesTo (ip : SocketAddr → IpAddr)
    (pollHandle : PollHandle Input Handle SocketAddr)
    (spawnBlocking : Input → String × UInt16 → Handle) (input : Input)
    (request : Request Authority Extensions Body)
    (answers : Behaviour Input (Except IoError (List SocketAddr))) : Prop :=
  ∀ service : GaiResolver,
    (GaiResolver.serving pollHandle spawnBlocking).called input service
        request =
      .ok (answers, service) ∧
    (FirstAddrResolver.serving ip
        (GaiResolver.serving pollHandle spawnBlocking)).called input
        ⟨service⟩ request =
      .ok (answers.map (firstAddr ip), ⟨service⟩)

private theorem resolvesTo_of_endpoint (ip : SocketAddr → IpAddr)
    (input : Input)
    {request : Request Authority Extensions Body}
    {endpoint : String × UInt16}
    (resolved : getHostAndPort request.uri = .ok endpoint) :
    ResolvesTo ip pollHandle spawnBlocking input request
      ((behaviour pollHandle (spawnBlocking input endpoint)).map
        joinResult) := by
  intro service
  rw [GaiResolver.called_eq, FirstAddrResolver.called_eq, resolved]
  exact ⟨rfl, congrArg (fun answers => Except.ok (answers, _))
    (Behaviour.map_map _ _ _).symm⟩

private theorem resolvesTo_of_refused (ip : SocketAddr → IpAddr) (input : Input)
    {request : Request Authority Extensions Body} {reason : IoError}
    (refused : getHostAndPort request.uri = .error reason) :
    ResolvesTo ip pollHandle spawnBlocking input request
      (Behaviour.immediate (.error reason)) := by
  intro service
  rw [GaiResolver.called_eq, FirstAddrResolver.called_eq, refused]
  exact ⟨rfl, congrArg (fun answers => Except.ok (answers, _))
    (Behaviour.map_immediate (firstAddr ip) (.error reason)).symm⟩

/-- In every run of the pool, a lookup for a request that is served on a
connection of another one would have given the addresses that were looked up for
that connection.  The only exceptions are requests without a scheme and a port,
which both resolvers refuse. -/
theorem pooled_lookups_agree [LawfulAuthority Authority]
    (samePort :
      ∀ left right : Authority, SameAuthority left right →
        HttpAuthority.port left = HttpAuthority.port right)
    (ip : SocketAddr → IpAddr)
    (ignoresCase : IgnoresCase pollHandle spawnBlocking)
    {pool :
      List (Filed (Request Authority Extensions Body) (UriKey Authority))}
    {reused :
      List (Request Authority Extensions Body ×
        Request Authority Extensions Body)}
    (run : UriPoolRun pool reused)
    {opener served : Request Authority Extensions Body}
    (member : (opener, served) ∈ reused) {endpoint : String × UInt16}
    (resolved : getHostAndPort opener.uri = .ok endpoint) (input : Input) :
    (∃ answers,
      ResolvesTo ip pollHandle spawnBlocking input opener answers ∧
        ResolvesTo ip pollHandle spawnBlocking input served answers) ∨
    (served.uri.scheme = none ∧ served.uri.port = none ∧
      ResolvesTo ip pollHandle spawnBlocking input served
        (Behaviour.immediate
          (.error
            ⟨.invalidData,
              some "missing port in URI for non-http(s) scheme"⟩))) := by
  have same := run.sameKey_of_mem member
  rcases endpoint_of_sameUriKey samePort same resolved with
    ⟨other, servedResolved, sameEndpoint⟩ | ⟨noScheme, noPort, _⟩
  · left
    have alike := ignoresCase input endpoint other sameEndpoint
    refine ⟨_, resolvesTo_of_endpoint ip input resolved, ?_⟩
    rw [alike]
    exact resolvesTo_of_endpoint ip input servedResolved
  · right
    obtain ⟨_, authority, _, hasAuthority, _⟩ :=
      authorities_of_sameUriKey same resolved
    have authorityPort : HttpAuthority.port authority = none := by
      rwa [Uri.port, hasAuthority, Option.bind_some] at noPort
    exact ⟨noScheme, noPort,
      resolvesTo_of_refused ip input
        (getHostAndPort_of_noScheme hasAuthority authorityPort noScheme)⟩

end SharedLookups

/-! ## Two spellings of one authority -/

private theorem afterColon_lower (text : List Char) :
    afterColon (text.map Char.toLower) =
      (afterColon text).map (List.map Char.toLower) := by
  rcases text with _ | ⟨head, tail⟩
  · rfl
  · by_cases colon : head = ':'
    · subst colon
      rfl
    · have lowered : head.toLower ≠ ':' :=
        fun same => colon ((toLower_eq_iff (by decide) head).mp same)
      have plain : afterColon (head :: tail) = none := by
        simp [afterColon, colon]
      rw [plain, List.map_cons]
      simp [afterColon, lowered]

private theorem splitHostPort_port_lower (text : List Char) :
    (splitHostPort (text.map Char.toLower)).2 =
      (splitHostPort text).2.map (List.map Char.toLower) := by
  rcases text with _ | ⟨head, tail⟩
  · rfl
  · by_cases bracket : head = '['
    · subst bracket
      change
        afterColon ((tail.map Char.toLower).dropWhile (· ≠ ']')).tail = _
      rw [dropWhile_map_toLower (by decide), ← List.map_tail,
        afterColon_lower]
      rfl
    · have lowered : head.toLower ≠ '[' :=
        fun same => bracket ((toLower_eq_iff (by decide) head).mp same)
      have plain :
          (splitHostPort (head :: tail)).2 =
            afterColon ((head :: tail).dropWhile (· ≠ ':')) := by
        unfold splitHostPort
        split
        · rename_i shape
          exact (bracket (List.cons.inj shape).1).elim
        · rfl
      have plainLower :
          (splitHostPort ((head :: tail).map Char.toLower)).2 =
            afterColon
              (((head :: tail).map Char.toLower).dropWhile (· ≠ ':')) := by
        unfold splitHostPort
        split
        · rename_i shape
          exact (lowered (List.cons.inj shape).1).elim
        · rfl
      rw [plain, plainLower, dropWhile_map_toLower (by decide),
        afterColon_lower]

/-- Equal authorities have the same port. -/
theorem port_eq_of_sameAuthority (left right : TextAuthority)
    (same : SameAuthority left right) :
    HttpAuthority.port left = HttpAuthority.port right := by
  have lower (authority : TextAuthority) :
      authority.hostPort.map Char.toLower =
        (asciiLower authority.text).rtakeWhile (· ≠ '@') := by
    rw [TextAuthority.hostPort, asciiLower, List.rtakeWhile, List.rtakeWhile,
      ← List.map_reverse, takeWhile_map_toLower (by decide), List.map_reverse]
  have portOf (authority : TextAuthority) :
      HttpAuthority.port authority =
        (splitHostPort (authority.hostPort.map Char.toLower)).2.bind
          parseU16 := by
    rw [splitHostPort_port_lower, Option.bind_map]
    change (splitHostPort authority.hostPort).2.bind parseU16 = _
    congr 1
    funext text
    exact (parseU16_map_toLower text).symm
  have sameText : asciiLower left.text = asciiLower right.text := same
  rw [portOf, portOf, lower, lower, sameText]

private theorem capitalHost_visible : AllGraphic "Example.NET:8080".toList := by
  decide

private theorem smallHost_visible : AllGraphic "example.net:8080".toList := by
  decide

def requestTo (text : String) (visible : AllGraphic text.toList) :
    Request TextAuthority Unit Unit :=
  .get (.absolute .http ⟨text, visible⟩ ⟨"/"⟩) () ()

theorem pooled_endpoints_agree_otherCase :
    ∃ pool,
      UriPoolRun pool
          [(requestTo "Example.NET:8080" capitalHost_visible,
            requestTo "example.net:8080" smallHost_visible)] ∧
        ∃ other,
          getHostAndPort
              (requestTo "example.net:8080" smallHost_visible).uri =
            .ok other ∧
          SameEndpoint ("Example.NET", 8080) other := by
  have same :
      SameUriKey (requestTo "Example.NET:8080" capitalHost_visible)
        (requestTo "example.net:8080" smallHost_visible) :=
    sameUriKey_iff.mpr ⟨trivial, .some (by decide)⟩
  obtain ⟨pool, run⟩ := exists_run_of_sameKey same
  refine ⟨pool, run, ?_⟩
  have agrees :=
    pooled_endpoints_agree port_eq_of_sameAuthority run List.mem_cons_self
      (show getHostAndPort
          (requestTo "Example.NET:8080" capitalHost_visible).uri =
        .ok ("Example.NET", 8080) by decide)
  rcases agrees with resolves | ⟨noScheme, _⟩
  · exact resolves
  · cases noScheme

/-! ## A lookup that takes a while -/

/-- The host in small letters is looked up, and has one address from time 5
on. -/
def slowLookup (_ : Nat) (endpoint : String × UInt16) : String × UInt16 :=
  (String.ofList (asciiLower endpoint.1), endpoint.2)

def pollSlowLookup :
    PollHandle Nat (String × UInt16) (String × UInt16) :=
  fun now handle =>
    .ok (if now < 5 then .pending else .ready (.ok (.ok [handle])), handle)

private theorem slowLookup_ignoresCase :
    IgnoresCase pollSlowLookup slowLookup := by
  rintro input left right ⟨sameHost, samePort⟩
  have same : slowLookup input left = slowLookup input right :=
    Prod.ext (congrArg String.ofList sameHost) samePort
  rw [same]

theorem pooled_lookups_agree_otherCase :
    ∃ pool answers,
      UriPoolRun pool
          [(requestTo "Example.NET:8080" capitalHost_visible,
            requestTo "example.net:8080" smallHost_visible)] ∧
        ResolvesTo Prod.fst pollSlowLookup slowLookup 0
            (requestTo "Example.NET:8080" capitalHost_visible) answers ∧
          ResolvesTo Prod.fst pollSlowLookup slowLookup 0
              (requestTo "example.net:8080" smallHost_visible) answers ∧
            answers [3] = .ok .pending ∧
              answers [3, 6] =
                .ok (.ready (.ok [("example.net", 8080)])) := by
  have same :
      SameUriKey (requestTo "Example.NET:8080" capitalHost_visible)
        (requestTo "example.net:8080" smallHost_visible) :=
    sameUriKey_iff.mpr ⟨trivial, .some (by decide)⟩
  obtain ⟨pool, run⟩ := exists_run_of_sameKey same
  have resolved :
      getHostAndPort
          (requestTo "Example.NET:8080" capitalHost_visible).uri =
        .ok ("Example.NET", 8080) := by
    decide
  have agrees :=
    pooled_lookups_agree port_eq_of_sameAuthority Prod.fst
      slowLookup_ignoresCase run List.mem_cons_self resolved 0
  rcases agrees with ⟨answers, opened, served⟩ | ⟨noScheme, _⟩
  · have looked :
        ResolvesTo Prod.fst pollSlowLookup slowLookup 0
          (requestTo "Example.NET:8080" capitalHost_visible) _ :=
      resolvesTo_of_endpoint Prod.fst 0 resolved
    have same := (opened ⟨⟩).1.symm.trans (looked ⟨⟩).1
    obtain ⟨rfl, _⟩ := Prod.mk.inj (Except.ok.inj same)
    exact ⟨pool, _, run, opened, served, rfl, rfl⟩
  · cases noScheme

end Client

end Hyperdriver
