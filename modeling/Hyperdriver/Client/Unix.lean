import Hyperdriver.Client.Key
import Hyperdriver.Foundation.Poll

/-!
# Connections to Unix sockets

`UnixExtensionTransport` connects to the address that a request carries in its
extensions.  The key of the pool shows nothing of the extensions, so the address
of a reused connection is that of the request it was opened for.
-/

namespace Hyperdriver

open Foundation

universe u v w

namespace Client

/-! ## The transport -/

structure UnixRequest (Request UnixAddr : Type*) where
  request : Request
  addr : UnixAddr

/-- The errors of connecting: there is no address, or one of the transport's
own. -/
inductive UnixConnectionError (Error : Type*) where
  | noAddress
  | inner (error : Error)
  deriving DecidableEq, Repr

structure UnixExtensionTransport (Transport : Type*) where
  transport : Transport

def UnixExtensionTransport.clone {Transport : Type*}
    (cloneTransport : Transport → Transport)
    (service : UnixExtensionTransport Transport) :
    UnixExtensionTransport Transport where
  transport := cloneTransport service.transport

def UnixExtensionTransport.pollReady {Transport Answer : Type*}
    (pollTransport : Transport → Answer × Transport)
    (service : UnixExtensionTransport Transport) :
    Answer × UnixExtensionTransport Transport :=
  let (answer, transport) := pollTransport service.transport
  (answer, { transport })

/-- The boxed future of a call: the connector, until it has been awaited. -/
inductive UnixFuture (Future Error : Type*) where
  | connector (result : Except (UnixConnectionError Error) Future)
  | done

section Transport

variable {Authority : Type u} {Extensions : Type v} {Body : Type w}
  {UnixAddr Transport Future UnixStream Error : Type*}
  [ExtensionSlot Extensions UnixAddr]

/-- A clone is swapped in, and the transport that was there is called if the
request has an address. -/
def UnixExtensionTransport.call (clone : Transport → Transport)
    (connect :
      Transport → UnixRequest (Request Authority Extensions Body) UnixAddr →
        Future)
    (service : UnixExtensionTransport Transport)
    (request : Request Authority Extensions Body) :
    UnixFuture Future Error × UnixExtensionTransport Transport :=
  let transport := service.transport
  let address : Except (UnixConnectionError Error) UnixAddr :=
    match ExtensionSlot.get request.extensions with
    | some addr => .ok addr
    | none => .error .noAddress
  (.connector (address.map fun addr => connect transport ⟨request, addr⟩),
    ⟨clone service.transport⟩)

def UnixFuture.poll
    (pollInner :
      Future → Poll (Except (UnixConnectionError Error) UnixStream) × Future) :
    UnixFuture Future Error →
      Checked
        (Poll (Except (UnixConnectionError Error) UnixStream) ×
          UnixFuture Future Error)
  | .connector (.error reason) => .ok (.ready (.error reason), .done)
  | .connector (.ok future) =>
      match pollInner future with
      | (.pending, future) => .ok (.pending, .connector (.ok future))
      | (.ready output, _) => .ok (.ready output, .done)
  | .done => .error .resumed

/-! ## Where a request is sent -/

/-- The target that a call resolves a request to: what its future is ready with
when the transport answers with the address it is given. -/
def resolve (UnixAddr : Type*) [ExtensionSlot Extensions UnixAddr]
    (request : Request Authority Extensions Body) :
    Checked (Poll (Except (UnixConnectionError Empty) UnixAddr)) :=
  let future : UnixFuture UnixAddr Empty :=
    (UnixExtensionTransport.call id (fun _ => UnixRequest.addr)
      (⟨()⟩ : UnixExtensionTransport Unit) request).1
  (future.poll fun addr => (.ready (.ok addr), addr)).map Prod.fst

private theorem resolve_eq (request : Request Authority Extensions Body) :
    resolve UnixAddr request =
      .ok (.ready
        (match (ExtensionSlot.get request.extensions : Option UnixAddr) with
          | some addr => .ok addr
          | none => .error .noAddress)) := by
  unfold resolve UnixExtensionTransport.call
  cases (ExtensionSlot.get request.extensions : Option UnixAddr) with
  | none => rfl
  | some addr => rfl

/-- The addresses in the extensions of two requests are the same, or there is
none in either. -/
def SameAddress (UnixAddr : Type*) [ExtensionSlot Extensions UnixAddr]
    (left right : Request Authority Extensions Body) : Prop :=
  (ExtensionSlot.get left.extensions : Option UnixAddr) =
    ExtensionSlot.get right.extensions

private theorem resolve_eq_iff
    {left right : Request Authority Extensions Body} :
    resolve UnixAddr left = resolve UnixAddr right ↔
      SameAddress UnixAddr left right := by
  rw [resolve_eq, resolve_eq, SameAddress]
  cases (ExtensionSlot.get left.extensions : Option UnixAddr) with
  | none =>
      cases (ExtensionSlot.get right.extensions : Option UnixAddr) with
      | none => simp
      | some addr => simp
  | some addr =>
      cases (ExtensionSlot.get right.extensions : Option UnixAddr) with
      | none => simp
      | some other => simp

/-! ## Main results -/

variable [HttpAuthority Authority]

/-- Two requests with the same key are sent to the same socket exactly when they
carry the same address, and the connections that a run of the pool reuses lead
to the sockets of the requests they serve exactly when that is so for each of
them. -/
theorem pooled_unix_targets_agree_iff :
    (∀ left right : Request Authority Extensions Body,
      SameUriKey left right →
        (resolve UnixAddr left = resolve UnixAddr right ↔
          SameAddress UnixAddr left right)) ∧
    ∀ (pool :
        List (Filed (Request Authority Extensions Body) (UriKey Authority)))
      (reused :
        List (Request Authority Extensions Body ×
          Request Authority Extensions Body)),
      UriPoolRun pool reused →
        ((∀ opener served, (opener, served) ∈ reused →
            resolve UnixAddr opener = resolve UnixAddr served) ↔
          ∀ opener served, (opener, served) ∈ reused →
            SameAddress UnixAddr opener served) := by
  refine ⟨fun _ _ _ => resolve_eq_iff, ?_⟩
  intro pool reused run
  apply run.safe_iff
  intro opener served _
  exact resolve_eq_iff

end Transport

def requestToSocket (path : String) :
    Request TextAuthority (Option String) Unit :=
  Request.get (.absolute .http ⟨"test", by decide⟩ ⟨"/"⟩) (some path) ()

/-- A request for another path, with the host in capitals. -/
def otherRequestToSocket (path : String) :
    Request TextAuthority (Option String) Unit :=
  Request.get (.absolute .http ⟨"TEST", by decide⟩ ⟨"/other"⟩) (some path) ()

theorem pooled_unix_targets_agree_iff_oneSocket :
    ∃ pool,
      UriPoolRun pool
          [(requestToSocket "a.sock", otherRequestToSocket "a.sock")] ∧
        resolve String (requestToSocket "a.sock") =
          resolve String (otherRequestToSocket "a.sock") ∧
        ∀ opener served,
          (opener, served) ∈
              [(requestToSocket "a.sock", otherRequestToSocket "a.sock")] →
            resolve String opener = resolve String served := by
  have same :
      SameUriKey (requestToSocket "a.sock")
        (otherRequestToSocket "a.sock") :=
    sameUriKey_iff.mpr ⟨by decide, .some (by decide)⟩
  obtain ⟨pool, run⟩ := exists_run_of_sameKey same
  refine ⟨pool, run, (pooled_unix_targets_agree_iff.1 _ _ same).mpr rfl,
    (pooled_unix_targets_agree_iff.2 pool _ run).mpr ?_⟩
  intro opener served member
  cases List.mem_singleton.mp member
  rfl

/-- The connection that was opened to one socket serves a request to another. -/
theorem pooled_connection_to_other_socket :
    SameUriKey (requestToSocket "a.sock") (requestToSocket "b.sock") ∧
      resolve String (requestToSocket "a.sock") =
        .ok (.ready (.ok "a.sock")) ∧
      resolve String (requestToSocket "b.sock") =
        .ok (.ready (.ok "b.sock")) ∧
      ∃ pool, UriPoolRun pool
        [(requestToSocket "a.sock", requestToSocket "b.sock")] := by
  have same :
      SameUriKey (requestToSocket "a.sock") (requestToSocket "b.sock") :=
    sameUriKey_iff.mpr ⟨by decide, .some (by decide)⟩
  exact ⟨same, rfl, rfl, exists_run_of_sameKey same⟩

end Client

end Hyperdriver
