import Hyperdriver.Foundation.SwapTrace

/-!
# Who owns which instance

The handles of a wrapper and the futures of its calls own instances.  The ledger
keeps account of them along a trace: no two own the same instance, a handle is
ready just when the instance it owns is, and a future that owns an instance may
call it.
-/

namespace Foundation

/-! ## Owners -/

inductive SwapOwner where
  | handle (index : Nat)
  | future (index : Nat)
  deriving DecidableEq, Repr

/-- What becomes of an instance that a future owns: it is called, kept or
dropped. -/
inductive Deferral : Option Nat → List Nat → Option Nat → Prop
  | calls {service : Nat} : Deferral (some service) [service] none
  | keeps {owned : Option Nat} : Deferral owned [] owned
  | drops {owned : Option Nat} : Deferral owned [] none

/-- The trace after a future has called instances. -/
def recordCalls (future : Nat) (calls : List Nat) (trace : List SwapEvent) :
    List SwapEvent :=
  calls.foldl (fun trace service => .serviceCalled future service :: trace)
    trace

/-- Nobody owns an instance that is still to be made, and no two own the
same. -/
structure Distinct (owned : SwapOwner → Option Nat) (services : Nat) :
    Prop where
  inRange :
    ∀ owner service, owned owner = some service → service < services
  unique :
    ∀ left right service,
      owned left = some service → owned right = some service → left = right

/-- The account of all instances that are owned, with the numbers of handles, of
futures and of instances so far. -/
structure Ledger (owned : SwapOwner → Option Nat)
    (handles futures services : Nat) (trace : List SwapEvent) : Prop where
  justified : CallsJustified trace
  below : AllBelow handles futures services trace
  distinct : Distinct owned services
  mirrors :
    ∀ index service, owned (.handle index) = some service →
      HandleMirrors trace index service
  awaits :
    ∀ index service, owned (.future index) = some service →
      CallJustified trace index service

section Ledger

variable {owned : SwapOwner → Option Nat} {handles futures services : Nat}
  {trace : List SwapEvent}

theorem update_eq_some {owner other : SwapOwner} {value : Option Nat}
    {service : Nat}
    (isOwned : Function.update owned owner value other = some service) :
    (other = owner ∧ value = some service) ∨
      (other ≠ owner ∧ owned other = some service) := by
  by_cases same : other = owner
  · rw [same, Function.update_self] at isOwned
    exact Or.inl ⟨same, isOwned⟩
  · rw [Function.update_of_ne same] at isOwned
    exact Or.inr ⟨same, isOwned⟩

theorem Distinct.drop (distinct : Distinct owned services)
    (owner : SwapOwner) :
    Distinct (Function.update owned owner none) services where
  inRange other service isOwned := by
    rcases update_eq_some isOwned with ⟨_, absurd⟩ | ⟨_, earlier⟩
    · cases absurd
    · exact distinct.inRange other service earlier
  unique left right service leftOwns rightOwns := by
    rcases update_eq_some leftOwns with ⟨_, absurd⟩ | ⟨_, leftEarlier⟩
    · cases absurd
    · rcases update_eq_some rightOwns with ⟨_, absurd⟩ | ⟨_, rightEarlier⟩
      · cases absurd
      · exact distinct.unique left right service leftEarlier rightEarlier

/-- An instance that nobody else owns may be given to an owner. -/
theorem Distinct.give (distinct : Distinct owned services)
    {owner : SwapOwner} {given moreServices : Nat}
    (inRange : given < moreServices) (more : services ≤ moreServices)
    (free : ∀ other, other ≠ owner → owned other ≠ some given) :
    Distinct (Function.update owned owner (some given)) moreServices where
  inRange other service isOwned := by
    rcases update_eq_some isOwned with ⟨_, same⟩ | ⟨_, earlier⟩
    · cases same
      exact inRange
    · have bound := distinct.inRange other service earlier
      omega
  unique left right service leftOwns rightOwns := by
    rcases update_eq_some leftOwns with ⟨rfl, given⟩ | ⟨leftOther, leftEarlier⟩
    · rcases update_eq_some rightOwns with ⟨rfl, _⟩ | ⟨rightOther, earlier⟩
      · rfl
      · rw [← given] at earlier
        exact (free right rightOther earlier).elim
    · rcases update_eq_some rightOwns with ⟨rfl, given⟩ | ⟨_, rightEarlier⟩
      · rw [← given] at leftEarlier
        exact (free left leftOther leftEarlier).elim
      · exact distinct.unique left right service leftEarlier rightEarlier

theorem Distinct.giveNew (distinct : Distinct owned services)
    (owner : SwapOwner) :
    Distinct (Function.update owned owner (some services)) (services + 1) := by
  apply distinct.give (Nat.lt_succ_self services) (Nat.le_succ services)
  intro other _ isOwned
  exact Nat.lt_irrefl _ (distinct.inRange other services isOwned)

theorem Distinct.ne (distinct : Distinct owned services)
    {left right : SwapOwner} {leftService rightService : Nat}
    (different : left ≠ right) (leftOwns : owned left = some leftService)
    (rightOwns : owned right = some rightService) :
    leftService ≠ rightService := by
  intro same
  rw [← same] at rightOwns
  exact different (distinct.unique left right leftService leftOwns rightOwns)

/-! ## The ledger of a run -/

theorem Ledger.drop (ledger : Ledger owned handles futures services trace)
    (owner : SwapOwner) :
    Ledger (Function.update owned owner none) handles futures services
      trace where
  justified := ledger.justified
  below := ledger.below
  distinct := ledger.distinct.drop owner
  mirrors index service isOwned := by
    rcases update_eq_some isOwned with ⟨_, absurd⟩ | ⟨_, earlier⟩
    · cases absurd
    · exact ledger.mirrors index service earlier
  awaits index service isOwned := by
    rcases update_eq_some isOwned with ⟨_, absurd⟩ | ⟨_, earlier⟩
    · cases absurd
    · exact ledger.awaits index service earlier

theorem Ledger.cloneHandle
    (ledger : Ledger owned handles futures services trace) {source : Nat}
    (known : source < handles) :
    Ledger (Function.update owned (.handle handles) (some services))
      (handles + 1) futures (services + 1)
      (.handleCloned source handles :: .serviceCloned services ::
        trace) where
  justified := ledger.justified
  below := by
    have more :=
      ledger.below.mono (Nat.le_succ handles) (Nat.le_refl futures)
        (Nat.le_succ services)
    have cloned := more.cons
      (show SwapEvent.Below _ _ _ (.serviceCloned services) from
        Nat.lt_succ_self services)
    exact cloned.cons ⟨Nat.lt_succ_of_lt known, Nat.lt_succ_self handles⟩
  distinct := ledger.distinct.giveNew _
  mirrors index service isOwned := by
    rcases update_eq_some isOwned with ⟨new, given⟩ | ⟨_, earlier⟩
    · cases new
      cases given
      have mirror : HandleMirrors trace handles services :=
        .of_untouched (ledger.below.not_readyFor (Nat.le_refl handles))
          (ledger.below.untouched (Nat.le_refl services))
      exact (mirror.serviceCloned services).handleCloned source handles
    · have mirror := ledger.mirrors index service earlier
      exact (mirror.serviceCloned services).handleCloned source handles
  awaits index service isOwned := by
    rcases update_eq_some isOwned with ⟨absurd, _⟩ | ⟨_, earlier⟩
    · cases absurd
    · have justified := ledger.awaits index service earlier
      refine (justified.cons id ?_).cons id ?_
      · nofun
      · nofun

theorem Ledger.poll (ledger : Ledger owned handles futures services trace)
    {index polled : Nat} (known : index < handles)
    (isHeld : owned (.handle index) = some polled) (ready : Bool) :
    Ledger owned handles futures services
      (.polled index polled ready :: trace) where
  justified := ledger.justified
  below := ledger.below.cons ⟨known, ledger.distinct.inRange _ _ isHeld⟩
  distinct := ledger.distinct
  mirrors other service isOwned := by
    have mirror := ledger.mirrors other service isOwned
    by_cases same : other = index
    · subst same
      cases isHeld.symm.trans isOwned
      exact mirror.polled ready
    · have different : SwapOwner.handle index ≠ .handle other :=
        fun equal => same (SwapOwner.handle.inj equal).symm
      have otherService := ledger.distinct.ne different isHeld isOwned
      exact mirror.polled_of_ne (fun equal => same equal.symm) otherService
        ready
  awaits other service isOwned :=
    (ledger.awaits other service isOwned).cons Or.inr nofun

/-- A call of a handle that is ready moves its instance to the future. -/
theorem Ledger.call (ledger : Ledger owned handles futures services trace)
    {index held : Nat} (known : index < handles)
    (isHeld : owned (.handle index) = some held)
    (ready : HandleReady trace index) :
    Ledger
      (Function.update
        (Function.update owned (.handle index) (some services))
        (.future futures) (some held))
      handles (futures + 1) (services + 1)
      (.called index futures :: .serviceCloned services :: trace) where
  justified := ledger.justified
  below := by
    have more :=
      ledger.below.mono (Nat.le_refl handles) (Nat.le_succ futures)
        (Nat.le_succ services)
    have cloned := more.cons
      (show SwapEvent.Below _ _ _ (.serviceCloned services) from
        Nat.lt_succ_self services)
    exact cloned.cons ⟨known, Nat.lt_succ_self futures⟩
  distinct := by
    have inRange := ledger.distinct.inRange _ _ isHeld
    apply (ledger.distinct.giveNew (.handle index)).give
      (Nat.lt_succ_of_lt inRange) (Nat.le_refl _)
    intro other _ isOwned
    rcases update_eq_some isOwned with ⟨_, new⟩ | ⟨different, earlier⟩
    · exact Nat.ne_of_gt inRange (Option.some.inj new)
    · exact different (ledger.distinct.unique _ _ held earlier isHeld)
  mirrors other service isOwned := by
    rcases update_eq_some isOwned with ⟨absurd, _⟩ | ⟨_, isOwned⟩
    · cases absurd
    · rcases update_eq_some isOwned with ⟨same, new⟩ | ⟨different, earlier⟩
      · cases same
        cases new
        have untouched := ledger.below.untouched (Nat.le_refl services)
        exact HandleMirrors.called untouched index futures services
      · have mirror := ledger.mirrors other service earlier
        exact (mirror.serviceCloned services).called_of_ne
          (fun same => different (congrArg SwapOwner.handle same.symm))
          futures
  awaits other service isOwned := by
    rcases update_eq_some isOwned with ⟨same, given⟩ | ⟨_, isOwned⟩
    · cases same
      cases given
      have mirror := ledger.mirrors index held isHeld
      have first := ledger.below.not_serviceCalled (Nat.le_refl futures)
      exact mirror.callJustified ready first services
    · rcases update_eq_some isOwned with ⟨absurd, _⟩ | ⟨_, earlier⟩
      · cases absurd
      · have justified := ledger.awaits other service earlier
        refine (justified.cons id ?_).cons id ?_
        · nofun
        · nofun

theorem Ledger.serviceCalled
    (ledger : Ledger owned handles futures services trace)
    {index called : Nat} (known : index < futures)
    (waits : owned (.future index) = some called) :
    Ledger (Function.update owned (.future index) none) handles futures
      services (.serviceCalled index called :: trace) where
  justified := ⟨ledger.awaits index called waits, ledger.justified⟩
  below := ledger.below.cons ⟨known, ledger.distinct.inRange _ _ waits⟩
  distinct := ledger.distinct.drop _
  mirrors other service isOwned := by
    rcases update_eq_some isOwned with ⟨absurd, _⟩ | ⟨different, earlier⟩
    · cases absurd
    · have otherService :=
        ledger.distinct.ne different.symm waits earlier
      exact (ledger.mirrors other service earlier).serviceCalled_of_ne
        otherService index
  awaits other service isOwned := by
    rcases update_eq_some isOwned with ⟨_, absurd⟩ | ⟨different, earlier⟩
    · cases absurd
    · have otherService :=
        ledger.distinct.ne different.symm waits earlier
      apply (ledger.awaits other service earlier).cons
      · exact fun ready => ⟨otherService, ready⟩
      · intro _ same
        cases same
        exact different rfl

theorem Ledger.defer (ledger : Ledger owned handles futures services trace)
    {index : Nat} {calls : List Nat} {kept : Option Nat}
    (known : index < futures)
    (deferral : Deferral (owned (.future index)) calls kept) :
    Ledger (Function.update owned (.future index) kept) handles futures
      services (recordCalls index calls trace) := by
  generalize waits : owned (.future index) = waiting at deferral
  cases deferral with
  | calls =>
      exact ledger.serviceCalled known waits
  | keeps =>
      rw [← waits, Function.update_eq_self]
      exact ledger
  | drops =>
      exact ledger.drop _

end Ledger

end Foundation
