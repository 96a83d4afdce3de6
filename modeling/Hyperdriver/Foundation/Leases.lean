import Mathlib.Data.List.Nodup

/-!
# Handles of resources that are only sometimes shared

A resource is opened through its first handle.  A handle of a shareable
resource can be copied, and every handle can be used or dropped.  What is
copied this way never gives a second handle to a resource that is not
shareable, whatever the order of the operations.
-/

namespace Foundation

universe u v w x

/-- What holds of all entries of a list still does when other entries take the
place of one. -/
theorem forall_mem_replaced {α : Type u} {P : α → Prop}
    {earlier later : List α} {old : α} (replaced : List α)
    (all : ∀ entry, entry ∈ earlier ++ old :: later → P entry)
    (new : ∀ entry, entry ∈ replaced → P entry) :
    ∀ entry, entry ∈ earlier ++ (replaced ++ later) → P entry := by
  intro entry member
  rcases List.mem_append.mp member with early | member
  · exact all entry (List.mem_append_left _ early)
  · rcases List.mem_append.mp member with isNew | late
    · exact new entry isNew
    · exact all entry (List.mem_append_right _ (List.mem_cons_of_mem _ late))

/-- How handles refer to resources, and what opening, copying and using one can
do. -/
structure Leasing (Handle : Type u) (Resource : Type v) (Origin : Type w)
    (Output : Type x) where
  resource : Handle → Resource
  shareable : Handle → Prop
  Opens : Origin → Handle → Prop
  Copies : Handle → Handle → Handle → Prop
  Uses : Handle → Output → Handle → Prop

namespace Leasing

variable {Handle : Type u} {Resource : Type v} {Origin : Type w}
  {Output : Type x}

/-- The runs: the handles there are, the resources opened so far with what they
were opened from, and the outputs of uses from the last one back. -/
inductive Run (leasing : Leasing Handle Resource Origin Output) :
    List Handle → List (Resource × Origin) → List Output → Prop
  | start :
      Run leasing [] [] []
  | opens {handles : List Handle} {opened : List (Resource × Origin)}
      {outputs : List Output} {origin : Origin} {handle : Handle} :
      Run leasing handles opened outputs →
      leasing.Opens origin handle →
      leasing.resource handle ∉ opened.map Prod.fst →
      Run leasing (handle :: handles)
        ((leasing.resource handle, origin) :: opened) outputs
  | copies {earlier later : List Handle}
      {opened : List (Resource × Origin)} {outputs : List Output}
      {handle copy left : Handle} :
      Run leasing (earlier ++ handle :: later) opened outputs →
      leasing.Copies handle copy left →
      Run leasing (copy :: (earlier ++ left :: later)) opened outputs
  | uses {earlier later : List Handle}
      {opened : List (Resource × Origin)} {outputs : List Output}
      {handle left : Handle} {output : Output} :
      Run leasing (earlier ++ handle :: later) opened outputs →
      leasing.Uses handle output left →
      Run leasing (earlier ++ left :: later) opened (output :: outputs)
  | drops {earlier later : List Handle}
      {opened : List (Resource × Origin)} {outputs : List Output}
      {handle : Handle} :
      Run leasing (earlier ++ handle :: later) opened outputs →
      Run leasing (earlier ++ later) opened outputs

/-- Only shareable handles are copied, and no operation moves a handle to
another resource or changes whether it is shareable. -/
structure Lawful (leasing : Leasing Handle Resource Origin Output) : Prop where
  copied :
    ∀ handle copy left, leasing.Copies handle copy left →
      leasing.shareable handle
  copy :
    ∀ handle copy left, leasing.Copies handle copy left →
      leasing.resource copy = leasing.resource handle ∧
        (leasing.shareable copy ↔ leasing.shareable handle)
  left :
    ∀ handle copy left, leasing.Copies handle copy left →
      leasing.resource left = leasing.resource handle ∧
        (leasing.shareable left ↔ leasing.shareable handle)
  used :
    ∀ handle output left, leasing.Uses handle output left →
      leasing.resource left = leasing.resource handle ∧
        (leasing.shareable left ↔ leasing.shareable handle)

/-- Two handles are of different resources, or both are shareable. -/
def Apart (leasing : Leasing Handle Resource Origin Output)
    (first second : Handle) : Prop :=
  leasing.resource first = leasing.resource second →
    leasing.shareable first ∧ leasing.shareable second

variable {leasing : Leasing Handle Resource Origin Output}

theorem Apart.symm {first second : Handle}
    (apart : leasing.Apart first second) : leasing.Apart second first :=
  fun same => (apart same.symm).symm

/-- A handle can stand in for another one of the same resource. -/
theorem Apart.replace {old new other : Handle}
    (apart : leasing.Apart old other)
    (same : leasing.resource new = leasing.resource old)
    (keeps : leasing.shareable new ↔ leasing.shareable old) :
    leasing.Apart new other := by
  intro equal
  obtain ⟨oldShared, otherShared⟩ := apart (same.symm.trans equal)
  exact ⟨keeps.mpr oldShared, otherShared⟩

/-- The handle in the middle of a list of handles that are apart is replaced by
one of the same resource. -/
theorem pairwise_replace {earlier later : List Handle} {old new : Handle}
    (apart : (earlier ++ old :: later).Pairwise leasing.Apart)
    (same : leasing.resource new = leasing.resource old)
    (keeps : leasing.shareable new ↔ leasing.shareable old) :
    (earlier ++ new :: later).Pairwise leasing.Apart := by
  rw [List.pairwise_append, List.pairwise_cons] at apart ⊢
  obtain ⟨before, ⟨middle, after⟩, across⟩ := apart
  refine ⟨before, ⟨?_, after⟩, ?_⟩
  · intro other member
    exact (middle other member).replace same keeps
  · intro first isEarlier second isLater
    rcases List.mem_cons.mp isLater with rfl | member
    · have apartOld := across first isEarlier old List.mem_cons_self
      exact (apartOld.symm.replace same keeps).symm
    · exact across first isEarlier second (List.mem_cons_of_mem _ member)

/-- In a list of handles that are apart, all are apart from one that can be
shared, itself included. -/
theorem apart_of_shareable {handles : List Handle} {handle : Handle}
    (apart : handles.Pairwise leasing.Apart) (member : handle ∈ handles)
    (shared : leasing.shareable handle) :
    ∀ other, other ∈ handles → leasing.Apart handle other := by
  intro other isHandle
  induction apart with
  | nil =>
      cases member
  | @cons first rest fromFirst _ inductionHypothesis =>
      rcases List.mem_cons.mp member with rfl | inRest
      · rcases List.mem_cons.mp isHandle with rfl | otherInRest
        · exact fun _ => ⟨shared, shared⟩
        · exact fromFirst other otherInRest
      · rcases List.mem_cons.mp isHandle with rfl | otherInRest
        · exact (fromFirst handle inRest).symm
        · exact inductionHypothesis inRest otherInRest

namespace Run

variable {handles : List Handle} {opened : List (Resource × Origin)}
  {outputs : List Output}

/-- Handles fit what their resource was opened from. -/
theorem fits (Fits : Origin → Handle → Prop)
    (opens : ∀ origin handle, leasing.Opens origin handle → Fits origin handle)
    (copies :
      ∀ origin handle copy left, Fits origin handle →
        leasing.Copies handle copy left → Fits origin copy ∧ Fits origin left)
    (uses :
      ∀ origin handle output left, Fits origin handle →
        leasing.Uses handle output left → Fits origin left)
    (lawful : leasing.Lawful) (run : leasing.Run handles opened outputs) :
    ∀ handle, handle ∈ handles →
      ∃ origin, (leasing.resource handle, origin) ∈ opened ∧
        Fits origin handle := by
  induction run with
  | start =>
      intro handle member
      cases member
  | @opens _ _ _ origin new _ isOpened _ inductionHypothesis =>
      intro handle member
      rcases List.mem_cons.mp member with rfl | earlier
      · exact ⟨origin, List.mem_cons_self, opens origin _ isOpened⟩
      · obtain ⟨from', wasOpened, fit⟩ := inductionHypothesis handle earlier
        exact ⟨from', List.mem_cons_of_mem _ wasOpened, fit⟩
  | @copies before after _ _ source copy left _ isCopied
      inductionHypothesis =>
      obtain ⟨origin, wasOpened, fit⟩ :=
        inductionHypothesis source List.mem_append_cons_self
      obtain ⟨copyFits, leftFits⟩ := copies origin _ _ _ fit isCopied
      intro handle member
      rcases List.mem_cons.mp member with rfl | inList
      · exact ⟨origin, (lawful.copy _ _ _ isCopied).1 ▸ wasOpened, copyFits⟩
      · refine forall_mem_replaced [left] inductionHypothesis ?_ handle inList
        intro other isLeft
        rw [List.mem_singleton.mp isLeft]
        exact ⟨origin, (lawful.left _ _ _ isCopied).1 ▸ wasOpened, leftFits⟩
  | @uses before after _ _ source left output _ isUsed
      inductionHypothesis =>
      obtain ⟨origin, wasOpened, fit⟩ :=
        inductionHypothesis source List.mem_append_cons_self
      refine forall_mem_replaced [left] inductionHypothesis ?_
      intro other isLeft
      rw [List.mem_singleton.mp isLeft]
      exact ⟨origin, (lawful.used _ _ _ isUsed).1 ▸ wasOpened,
        uses origin _ _ _ fit isUsed⟩
  | drops _ inductionHypothesis =>
      exact forall_mem_replaced [] inductionHypothesis nofun

/-- Every handle is of a resource that was opened. -/
theorem resource_mem (lawful : leasing.Lawful)
    (run : leasing.Run handles opened outputs) {handle : Handle}
    (member : handle ∈ handles) :
    leasing.resource handle ∈ opened.map Prod.fst := by
  obtain ⟨origin, wasOpened, _⟩ :=
    run.fits (fun _ _ => True) (fun _ _ _ => trivial)
      (fun _ _ _ _ _ _ => ⟨trivial, trivial⟩) (fun _ _ _ _ _ _ => trivial)
      lawful handle member
  exact List.mem_map_of_mem wasOpened

theorem pairwise_apart (lawful : leasing.Lawful)
    (run : leasing.Run handles opened outputs) :
    handles.Pairwise leasing.Apart := by
  induction run with
  | start =>
      exact .nil
  | opens run _ fresh inductionHypothesis =>
      refine inductionHypothesis.cons ?_
      intro other member same
      exact (fresh (same ▸ run.resource_mem lawful member)).elim
  | @copies before after _ _ source copy left _ isCopied
      inductionHypothesis =>
      have shared := lawful.copied _ _ _ isCopied
      obtain ⟨copySame, copyKeeps⟩ := lawful.copy _ _ _ isCopied
      obtain ⟨leftSame, leftKeeps⟩ := lawful.left _ _ _ isCopied
      have replaced :=
        pairwise_replace inductionHypothesis leftSame leftKeeps
      have apart :=
        apart_of_shareable replaced List.mem_append_cons_self
          (leftKeeps.mpr shared)
      refine replaced.cons ?_
      intro other member
      exact (apart other member).replace (copySame.trans leftSame.symm)
        (copyKeeps.trans leftKeeps.symm)
  | uses _ isUsed inductionHypothesis =>
      obtain ⟨same, keeps⟩ := lawful.used _ _ _ isUsed
      exact pairwise_replace inductionHypothesis same keeps
  | @drops before after _ _ source _ inductionHypothesis =>
      have sublist :
          (before ++ after).Sublist (before ++ source :: after) :=
        (List.Sublist.refl before).append (List.sublist_cons_self _ _)
      exact inductionHypothesis.sublist sublist

/-- Two handles of one resource are at the same place, or shareable. -/
theorem exclusive (lawful : leasing.Lawful)
    (run : leasing.Run handles opened outputs) {first second : Nat}
    {left right : Handle} (isLeft : handles[first]? = some left)
    (isRight : handles[second]? = some right)
    (same : leasing.resource left = leasing.resource right) :
    first = second ∨ leasing.shareable left ∧ leasing.shareable right := by
  have apart := List.pairwise_iff_getElem.mp (run.pairwise_apart lawful)
  obtain ⟨firstLt, rfl⟩ := List.getElem?_eq_some_iff.mp isLeft
  obtain ⟨secondLt, rfl⟩ := List.getElem?_eq_some_iff.mp isRight
  rcases Nat.lt_trichotomy first second with less | equal | greater
  · exact Or.inr (apart first second firstLt secondLt less same)
  · exact Or.inl equal
  · exact Or.inr
      (apart second first secondLt firstLt greater same.symm).symm

/-- What a use of a fitting handle puts out is good for its origin, in every
run. -/
theorem outputs_good (Fits : Origin → Handle → Prop)
    (Good : Resource → Origin → Output → Prop)
    (opens : ∀ origin handle, leasing.Opens origin handle → Fits origin handle)
    (copies :
      ∀ origin handle copy left, Fits origin handle →
        leasing.Copies handle copy left → Fits origin copy ∧ Fits origin left)
    (uses :
      ∀ origin handle output left, Fits origin handle →
        leasing.Uses handle output left →
          Fits origin left ∧ Good (leasing.resource handle) origin output)
    (lawful : leasing.Lawful) (run : leasing.Run handles opened outputs) :
    ∀ output, output ∈ outputs →
      ∃ resource origin, (resource, origin) ∈ opened ∧
        Good resource origin output := by
  induction run with
  | start =>
      intro output member
      cases member
  | opens _ _ _ inductionHypothesis =>
      intro output member
      obtain ⟨resource, origin, wasOpened, good⟩ :=
        inductionHypothesis output member
      exact ⟨resource, origin, List.mem_cons_of_mem _ wasOpened, good⟩
  | copies _ _ inductionHypothesis =>
      exact inductionHypothesis
  | @uses before after opened _ source left new run isUsed
      inductionHypothesis =>
      intro output member
      rcases List.mem_cons.mp member with rfl | earlier
      · have fitting :=
          run.fits Fits opens copies
            (fun origin handle output left fit used =>
              (uses origin handle output left fit used).1)
            lawful source List.mem_append_cons_self
        obtain ⟨origin, wasOpened, fit⟩ := fitting
        exact ⟨_, origin, wasOpened, (uses origin _ _ _ fit isUsed).2⟩
      · exact inductionHypothesis output earlier
  | drops _ inductionHypothesis =>
      exact inductionHypothesis

end Run

end Leasing

end Foundation
