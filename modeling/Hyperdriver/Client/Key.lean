import Hyperdriver.Foundation.KeyedPool
import Hyperdriver.Http.Message

/-!
# The key of the connection pool

The pool keeps connections under their scheme and authority.  A request
without a scheme counts as `https` from HTTP/2 on and as `http` below.
-/

namespace Hyperdriver

open Foundation

universe u v w

namespace Client

variable {Authority : Type u} {Extensions : Type v} {Body : Type w}

structure KeyError where
  message : String
  deriving DecidableEq, Repr

/-- The scheme and the authority of a request. -/
structure UriKey (Authority : Type u) where
  scheme : Scheme
  authority : Option Authority

namespace UriKey

/-- `UriKey::eq`. -/
def Same [HttpAuthority Authority] (left right : UriKey Authority) : Prop :=
  left.scheme.Same right.scheme ∧
    Option.Rel SameAuthority left.authority right.authority

/-- The scheme of a request that does not write one. -/
def impliedScheme : Version → Scheme
  | .http2 => .https
  | .http3 => .https
  | _ => .http

def buildKey (request : Request Authority Extensions Body) :
    Except KeyError (UriKey Authority) :=
  .ok
    { scheme := request.uri.scheme.getD (impliedScheme request.version)
      authority := request.uri.authority }

end UriKey

/-- The pool may hand a connection opened for one of the requests to the
other. -/
def SameUriKey [HttpAuthority Authority]
    (left right : Request Authority Extensions Body) : Prop :=
  SameKey UriKey.buildKey UriKey.Same left right

def UriPoolRun [HttpAuthority Authority] :
    List (Filed (Request Authority Extensions Body) (UriKey Authority)) →
      List (Request Authority Extensions Body ×
        Request Authority Extensions Body) → Prop :=
  PoolRun UriKey.buildKey UriKey.Same

theorem sameUriKey_iff [HttpAuthority Authority]
    {left right : Request Authority Extensions Body} :
    SameUriKey left right ↔
      (left.uri.scheme.getD (UriKey.impliedScheme left.version)).Same
          (right.uri.scheme.getD (UriKey.impliedScheme right.version)) ∧
        Option.Rel SameAuthority left.uri.authority right.uri.authority := by
  constructor
  · rintro ⟨leftKey, rightKey, leftBuilt, rightBuilt, same⟩
    cases leftBuilt
    cases rightBuilt
    exact same
  · intro same
    exact ⟨_, _, rfl, rfl, same⟩

theorem SameUriKey.symm [HttpAuthority Authority]
    {left right : Request Authority Extensions Body}
    (same : SameUriKey left right) : SameUriKey right left := by
  obtain ⟨sameScheme, sameAuthority⟩ := sameUriKey_iff.mp same
  refine sameUriKey_iff.mpr ⟨sameScheme.symm, ?_⟩
  generalize left.uri.authority = leftAuthority at sameAuthority ⊢
  generalize right.uri.authority = rightAuthority at sameAuthority ⊢
  cases sameAuthority with
  | some same =>
      exact .some same.symm
  | none =>
      exact .none

end Client

end Hyperdriver
