/-!
# Pools that file connections under keys

A pool files every connection under the key of the request it was opened for,
and may hand it to any request whose key is the same.  Which requests then
share a connection is decided by the key alone: a pair of opening and served
request has the same key, and every pair with the same key occurs in a run.
-/

namespace Foundation

universe u v w

section KeyedPool

variable {Request : Type u} {Key : Type v} {Error : Type w}

structure Filed (Request : Type u) (Key : Type v) where
  key : Key
  opener : Request

/-- Two requests have keys, and these are the same. -/
def SameKey (buildKey : Request → Except Error Key)
    (Same : Key → Key → Prop) (left right : Request) : Prop :=
  ∃ leftKey rightKey,
    buildKey left = .ok leftKey ∧ buildKey right = .ok rightKey ∧
      Same leftKey rightKey

/-- One step of a pool, with the pair of opening and served request when it
reuses a connection. -/
inductive PoolStep (buildKey : Request → Except Error Key)
    (Same : Key → Key → Prop) :
    List (Filed Request Key) → Option (Request × Request) →
      List (Filed Request Key) → Prop
  | opens (pool : List (Filed Request Key)) {key : Key} {request : Request} :
      buildKey request = .ok key →
      PoolStep buildKey Same pool none (⟨key, request⟩ :: pool)
  | reuses {pool : List (Filed Request Key)} {filed : Filed Request Key}
      {key : Key} {served : Request} :
      filed ∈ pool →
      buildKey served = .ok key →
      Same filed.key key →
      PoolStep buildKey Same pool (some (filed.opener, served)) pool
  | closes {pool rest : List (Filed Request Key)} :
      rest ⊆ pool →
      PoolStep buildKey Same pool none rest

/-- The pools that a run reaches, with all the reuses on the way. -/
inductive PoolRun (buildKey : Request → Except Error Key)
    (Same : Key → Key → Prop) :
    List (Filed Request Key) → List (Request × Request) → Prop
  | start :
      PoolRun buildKey Same [] []
  | step {before after : List (Filed Request Key)}
      {reused : List (Request × Request)}
      {event : Option (Request × Request)} :
      PoolRun buildKey Same before reused →
      PoolStep buildKey Same before event after →
      PoolRun buildKey Same after (event.toList ++ reused)

variable {buildKey : Request → Except Error Key} {Same : Key → Key → Prop}

def FiledUnderOwnKey (buildKey : Request → Except Error Key)
    (pool : List (Filed Request Key)) : Prop :=
  ∀ filed, filed ∈ pool → buildKey filed.opener = .ok filed.key

theorem PoolStep.filedUnderOwnKey
    {before after : List (Filed Request Key)}
    {event : Option (Request × Request)}
    (step : PoolStep buildKey Same before event after)
    (own : FiledUnderOwnKey buildKey before) :
    FiledUnderOwnKey buildKey after := by
  intro filed member
  cases step with
  | opens built =>
      rcases List.mem_cons.mp member with rfl | earlier
      · exact built
      · exact own filed earlier
  | reuses _ _ _ =>
      exact own filed member
  | closes kept =>
      exact own filed (kept member)

theorem PoolRun.filedUnderOwnKey {pool : List (Filed Request Key)}
    {reused : List (Request × Request)}
    (run : PoolRun buildKey Same pool reused) :
    FiledUnderOwnKey buildKey pool := by
  induction run with
  | start =>
      intro filed member
      cases member
  | step _ step inductionHypothesis =>
      exact step.filedUnderOwnKey inductionHypothesis

theorem PoolRun.sameKey_of_mem {pool : List (Filed Request Key)}
    {reused : List (Request × Request)}
    (run : PoolRun buildKey Same pool reused) {opener served : Request}
    (member : (opener, served) ∈ reused) :
    SameKey buildKey Same opener served := by
  induction run with
  | start =>
      cases member
  | step before step inductionHypothesis =>
      cases step with
      | opens _ =>
          exact inductionHypothesis member
      | @reuses filed key _ isFiled built same =>
          rcases List.mem_cons.mp member with here | earlier
          · cases here
            exact ⟨filed.key, key, before.filedUnderOwnKey filed isFiled,
              built, same⟩
          · exact inductionHypothesis earlier
      | closes _ =>
          exact inductionHypothesis member

theorem exists_run_of_sameKey {opener served : Request}
    (same : SameKey buildKey Same opener served) :
    ∃ pool, PoolRun buildKey Same pool [(opener, served)] := by
  obtain ⟨openerKey, servedKey, openerBuilt, servedBuilt, sameKey⟩ := same
  have opened :
      PoolRun buildKey Same [⟨openerKey, opener⟩] [] :=
    .step .start (.opens [] openerBuilt)
  exact ⟨_, .step opened (.reuses List.mem_cons_self servedBuilt sameKey)⟩

/-- A condition that decides safety between requests with the same key decides
it for the reuses of every run. -/
theorem PoolRun.safe_iff {Safe Condition : Request → Request → Prop}
    (decides :
      ∀ opener served,
        SameKey buildKey Same opener served →
          (Safe opener served ↔ Condition opener served))
    {pool : List (Filed Request Key)} {reused : List (Request × Request)}
    (run : PoolRun buildKey Same pool reused) :
    (∀ opener served, (opener, served) ∈ reused → Safe opener served) ↔
      ∀ opener served, (opener, served) ∈ reused →
        Condition opener served := by
  constructor
  · intro safe opener served member
    have same := run.sameKey_of_mem member
    exact (decides opener served same).mp (safe opener served member)
  · intro condition opener served member
    have same := run.sameKey_of_mem member
    exact (decides opener served same).mpr (condition opener served member)

end KeyedPool

end Foundation
