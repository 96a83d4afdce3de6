import Hyperdriver.Server.Sni
import Hyperdriver.Server.TlsInfoRequests

/-!
# Requests that reach an application over TLS

The application stands behind `ValidateSNIService`, and that behind the service
with the TLS info of a connection.  Whatever order requests, clones and polls
come in, the application is called with the requests for the server that the
client named in its handshake, and with no others.
-/

namespace Hyperdriver

open Foundation

universe u

namespace Server

section Validation

variable {Inner Receiver Authority Extensions Body Future : Type*}
  [HttpAuthority Authority] [ExtensionSlot Extensions TlsConnectionInfo]

/-- The request that the application is called with, if it is. -/
def admitted (request : Request Authority Extensions Body) :
    Option (Request Authority Extensions Body) :=
  match handle request with
  | (none, passed) => some passed
  | (some _, _) => none

/-- The application is called once with the request that is admitted.  Others
are answered without it. -/
theorem call_eq_of_admitted {Error : Type*}
    (application : Request Authority Extensions Body → Future)
    (request : Request Authority Extensions Body) :
    (ValidateSniService.call application request : SniFuture Future Error) =
      match admitted request with
      | some passed => .right (application passed)
      | none => .left ((handle request).1.map .sni) := by
  unfold admitted ValidateSniService.call
  rcases handle request with ⟨_ | error, passed⟩
  · rfl
  · rfl

private theorem requestHost_withTlsInfo (outcome : Option TlsConnectionInfo)
    (request : Request Authority Extensions Body) :
    requestHost (withTlsInfo outcome request) = requestHost request := by
  rcases outcome with _ | tls
  · rfl
  · rfl

/-- The client has named a server, and the request is for no other host. -/
def ForNamedServer (tls : TlsConnectionInfo)
    (request : Request Authority Extensions Body) : Prop :=
  ∃ sni : Authority, tls.serverName.bind HttpAuthority.parse = some sni ∧
    ∀ host, requestHost request = some host →
      HttpAuthority.host host = HttpAuthority.host sni

/-- On a connection with TLS info, the requests for the named server are
admitted. -/
theorem admitted_isSome_iff (tls : TlsConnectionInfo)
    (request : Request Authority Extensions Body) :
    (admitted (withTlsInfo (some tls) request)).isSome ↔
      ForNamedServer tls request := by
  have hasInfo :
      ExtensionSlot.get (withTlsInfo (some tls) request).extensions =
        some tls :=
    ExtensionSlot.get_insert request.extensions tls
  rcases hasSni :
    tls.serverName.bind (HttpAuthority.parse : String → Option Authority)
      with _ | sni
  · have refused :
        (admitted (withTlsInfo (some tls) request)).isSome = false := by
      unfold admitted handle
      simp only [hasInfo, hasSni, Option.isSome_none]
    rw [refused]
    refine iff_of_false Bool.false_ne_true ?_
    rintro ⟨sni, named, _⟩
    rw [hasSni] at named
    cases named
  · rcases hasHost : requestHost request with _ | host
    · have accepted :
          (admitted (withTlsInfo (some tls) request)).isSome = true := by
        unfold admitted handle
        simp only [hasInfo, hasSni, requestHost_withTlsInfo, hasHost,
          Option.isSome_some]
      refine iff_of_true accepted ⟨sni, hasSni, ?_⟩
      intro host present
      rw [hasHost] at present
      cases present
    · have handled :=
        handle_of_host hasInfo hasSni
          ((requestHost_withTlsInfo (some tls) request).trans hasHost)
      have decides :
          (admitted (withTlsInfo (some tls) request)).isSome ↔
            HttpAuthority.host host = HttpAuthority.host sni := by
        unfold admitted
        rw [handled]
        by_cases same : HttpAuthority.host host = HttpAuthority.host sni
        · rw [if_pos same]
          exact iff_of_true rfl same
        · rw [if_neg same]
          exact iff_of_false Bool.false_ne_true same
      rw [decides]
      constructor
      · intro same
        refine ⟨sni, hasSni, ?_⟩
        intro other present
        rw [hasHost] at present
        cases present
        exact same
      · rintro ⟨other, named, forHost⟩
        rw [hasSni] at named
        cases named
        exact forHost host hasHost

instance (tls : TlsConnectionInfo)
    (request : Request Authority Extensions Body) :
    Decidable (ForNamedServer tls request) :=
  decidable_of_iff _ (admitted_isSome_iff tls request)

/-! ## The calls of the application -/

/-- The calls on the service of a connection, in front of the application. -/
def validatedCalls (Output : Type*) (Error : Type*)
    (cloneInner : Inner → Inner) (cloneReceiver : Receiver → Receiver)
    (OnConnection : Receiver → Prop) (outcome : Option TlsConnectionInfo)
    (application : Inner → Request Authority Extensions Body → Future) :
    Deferring (ConnectionWithTlsInfo Inner Receiver)
      (Request Authority Extensions Body)
      (TlsInfoFuture Inner Receiver (Request Authority Extensions Body)
        (SniFuture Future Error))
      (Request Authority Extensions Body) :=
  tlsInfoCalls Output cloneInner cloneReceiver OnConnection outcome
    fun inner => ValidateSniService.call (application inner)

/-- The requests that the application has been called with. -/
def applicationCalls {Handle Future : Type*}
    (world :
      DeferredWorld Handle (Request Authority Extensions Body) Future
        (Request Authority Extensions Body)) :
    List (Request Authority Extensions Body) :=
  world.sent.filterMap admitted

/-- A request as the application gets it: with the info of its connection,
which is marked unless the request has no host. -/
def asAdmitted (tls : TlsConnectionInfo)
    (request : Request Authority Extensions Body) :
    Request Authority Extensions Body :=
  let informed := withTlsInfo (some tls) request
  if (requestHost request).isSome then
    { informed with
      extensions := ExtensionSlot.insert informed.extensions tls.validated }
  else
    informed

/-- A request is admitted with nothing changed but the info and its mark. -/
theorem eq_asAdmitted {tls : TlsConnectionInfo}
    {request passed : Request Authority Extensions Body}
    (isAdmitted : admitted (withTlsInfo (some tls) request) = some passed) :
    passed = asAdmitted tls request := by
  have hasInfo :
      ExtensionSlot.get (withTlsInfo (some tls) request).extensions =
        some tls :=
    ExtensionSlot.get_insert request.extensions tls
  unfold admitted at isAdmitted
  rcases handled : handle (withTlsInfo (some tls) request)
    with ⟨_ | error, checked⟩
  · rw [handled] at isAdmitted
    cases isAdmitted
    obtain ⟨_, validated⟩ := handle_passes hasInfo handled
    have sameHost := requestHost_withTlsInfo (some tls) request
    rcases hasHost : requestHost request with _ | host
    · rw [hasHost] at sameHost
      simpa [asAdmitted, hasHost] using validated.unmarked sameHost
    · have present : requestHost (withTlsInfo (some tls) request) ≠ none := by
        rw [sameHost, hasHost]
        exact Option.some_ne_none host
      simpa [asAdmitted, hasHost] using validated.changed present
  · rw [handled] at isAdmitted
    cases isAdmitted

/-- Of the requests that were answered, the application is called with those for
the named server. -/
theorem filterMap_admitted (tls : TlsConnectionInfo)
    (answered : List (Request Authority Extensions Body)) :
    (answered.map (withTlsInfo (some tls))).filterMap admitted =
      (answered.filter fun request => ForNamedServer tls request).map
        (asAdmitted tls) := by
  induction answered with
  | nil =>
      rfl
  | cons request rest inductionHypothesis =>
      have decides := admitted_isSome_iff tls request
      rw [List.map_cons]
      rcases isAdmitted : admitted (withTlsInfo (some tls) request)
        with _ | passed
      · have notFor : ¬ ForNamedServer tls request := by
          rw [← decides, isAdmitted]
          exact Bool.false_ne_true
        rw [List.filterMap_cons_none isAdmitted,
          List.filter_cons_of_neg (by simpa using notFor),
          inductionHypothesis]
      · have forServer : ForNamedServer tls request := by
          rw [← decides, isAdmitted]
          rfl
        rw [List.filterMap_cons_some isAdmitted,
          List.filter_cons_of_pos (by simpa using forServer), List.map_cons,
          inductionHypothesis, eq_asAdmitted isAdmitted]

/-! ## Main result -/

/-- Whatever is done with the service of a TLS connection, with its clones and
with the futures of their calls: of the requests that have been answered, those
for the server that the client named have reached the application once each, in
order and changed in nothing but the info of the connection and its mark, and
the others have not. -/
theorem application_called_for_named_server
    {Make Stream MakeFuture MakeError Error Output : Type*}
    [TlsHandshakeInfo Stream Receiver]
    (pollMake : MakeFuture → Poll (Except MakeError Inner) × MakeFuture)
    (cloneMake : Make → Make) (callMake : Make → Stream → MakeFuture)
    (make : MakeServiceTlsConnectionInfoService Make) (stream : Stream)
    (service : ConnectionWithTlsInfo Inner Receiver)
    (final : MakeServiceTlsConnectionInfoFuture MakeFuture Receiver)
    (made :
      Completes (MakeServiceTlsConnectionInfoFuture.answers pollMake)
        (make.call cloneMake callMake stream).1 (.ok service) final)
    (cloneInner : Inner → Inner) (cloneReceiver : Receiver → Receiver)
    (OnConnection : Receiver → Prop)
    (isOn : OnConnection (TlsHandshakeInfo.recv stream))
    (clones : ∀ rx, OnConnection rx → OnConnection (cloneReceiver rx))
    (tls : TlsConnectionInfo)
    (application : Inner → Request Authority Extensions Body → Future)
    (world :
      DeferredWorld (ConnectionWithTlsInfo Inner Receiver)
        (Request Authority Extensions Body)
        (TlsInfoFuture Inner Receiver (Request Authority Extensions Body)
          (SniFuture Future Error))
        (Request Authority Extensions Body))
    (run :
      (validatedCalls Output Error cloneInner cloneReceiver OnConnection
        (some tls) application).Run service world) :
    ∃ answered : List (Request Authority Extensions Body),
      (world.called : Multiset (Request Authority Extensions Body)) =
          answered + world.futures.filterMap TlsInfoFuture.held +
            world.dropped ∧
        applicationCalls world =
            (answered.filter fun request => ForNamedServer tls request).map
              (asAdmitted tls) ∧
        ∀ inner request,
          (ValidateSniService.call (application inner) request :
              SniFuture Future Error) =
            match admitted request with
            | some passed => .right (application inner passed)
            | none => .left ((handle request).1.map .sni) := by
  obtain ⟨⟨answered, isMap, account⟩, _⟩ :=
    accounts_of_tlsInfoCalls clones (onConnection_of_made made isOn) run
  refine ⟨answered, account, ?_, ?_⟩
  · rw [applicationCalls, isMap]
    exact filterMap_admitted tls answered
  · exact fun inner => call_eq_of_admitted (application inner)

end Validation

/-! ## One request for the named server and one for another -/

def namedServer : TlsConnectionInfo :=
  ⟨some "example.com", false, none⟩

def sniCalls :
    Deferring (ConnectionWithTlsInfo Unit Unit)
      (Request TextAuthority (Option TlsConnectionInfo) Unit)
      (TlsInfoFuture Unit Unit
        (Request TextAuthority (Option TlsConnectionInfo) Unit)
        (SniFuture Unit Empty))
      (Request TextAuthority (Option TlsConnectionInfo) Unit) :=
  validatedCalls Unit Empty id id (fun _ => True) (some namedServer)
    fun _ _ => ()

private theorem sniCalls_forwards
    (request : Request TextAuthority (Option TlsConnectionInfo) Unit) :
    sniCalls.Polls (.receiving () () request)
      [withTlsInfo (some namedServer) request] none := by
  refine ⟨fun _ => (.ready (some namedServer), ()),
    fun future => (.ready (), future), .ready (), .done,
    ⟨fun _ _ _ => trivial, ?_⟩, rfl, rfl⟩
  intro rx info _ received
  cases received
  rfl

theorem application_called_for_named_server_twoRequests :
    ∃ (world : DeferredWorld _ _ _ _)
      (answered :
        List (Request TextAuthority (Option TlsConnectionInfo) Unit)),
      sniCalls.Run ⟨(), ()⟩ world ∧ world.sent.length = 2 ∧
      (world.called :
          Multiset (Request TextAuthority (Option TlsConnectionInfo) Unit)) =
        answered + world.futures.filterMap TlsInfoFuture.held +
          world.dropped ∧
      applicationCalls world =
        (answered.filter fun request =>
          ForNamedServer namedServer request).map (asAdmitted namedServer) := by
  have called : sniCalls.Run ⟨(), ()⟩ _ :=
    (Relation.ReflTransGen.refl.tail
      (@Deferring.Step.calls _ _ _ _ _ _ [] [] _
        (requestOnTls .http11 .default [.fromStatic "example.org"])
        rfl)).tail
      (@Deferring.Step.calls _ _ _ _ _ _ [] [] _
        (requestOnTls .http11 .default [.fromStatic "example.com"]) rfl)
  have answered : sniCalls.Run ⟨(), ()⟩ _ :=
    (called.tail
      (@Deferring.Step.polls _ _ _ _ _ _ [] _ _ _ _ rfl
        (sniCalls_forwards _))).tail
      (@Deferring.Step.polls _ _ _ _ _ _ [] _ _ _ _ rfl
        (sniCalls_forwards _))
  obtain ⟨requests, account, reaches, _⟩ :=
    application_called_for_named_server _ _ _ _ _ _ _ tlsService_made id id
      (fun _ => True) trivial (fun _ _ => trivial) namedServer
      (fun _ _ => ()) _ answered
  exact ⟨_, requests, answered, rfl, account, reaches⟩

end Server

end Hyperdriver
