/-!
# Handles that are cloned and used

A value is reached through handles.  Cloning a handle makes a new one for a
clone of its value; using a handle gives an output and replaces its value.

A handle is spent when it has been used, or was cloned from a handle that was
spent by then.  This depends on the history of operations alone, and says
exactly which values carry a mark that uses leave and clones keep.
-/

namespace Foundation

universe u v w

/-- An operation on a handle; handles are numbered from the initial one in the
order in which they are made. -/
inductive HandleOp (Input : Type u) where
  | clone (source : Nat)
  | use (handle : Nat) (input : Input)
  deriving DecidableEq, Repr

section Handles

variable {Value : Type u} {Input : Type v} {Output : Type w}

/-- The number of handles after a history, which is listed from its last
operation back. -/
def handleCount : List (HandleOp Input) → Nat
  | [] => 1
  | .clone _ :: history => handleCount history + 1
  | .use _ _ :: history => handleCount history

/-- A handle was used, or made from a handle that had been. -/
inductive Spent : List (HandleOp Input) → Nat → Prop
  | used {history : List (HandleOp Input)} {handle : Nat} {input : Input} :
      Spent (.use handle input :: history) handle
  | cloned {history : List (HandleOp Input)} {source : Nat} :
      Spent history source →
      Spent (.clone source :: history) (handleCount history)
  | earlier {history : List (HandleOp Input)} {op : HandleOp Input}
      {handle : Nat} :
      Spent history handle →
      Spent (op :: history) handle

theorem spent_clone_of_lt {history : List (HandleOp Input)}
    {source handle : Nat} (old : handle < handleCount history) :
    Spent (.clone source :: history) handle ↔ Spent history handle := by
  constructor
  · intro spent
    cases spent with
    | cloned _ => exact (Nat.lt_irrefl _ old).elim
    | earlier spent => exact spent
  · exact .earlier

theorem spent_use_of_ne {history : List (HandleOp Input)}
    {used handle : Nat} {input : Input} (different : used ≠ handle) :
    Spent (.use used input :: history) handle ↔ Spent history handle := by
  constructor
  · intro spent
    cases spent with
    | used => exact (different rfl).elim
    | earlier spent => exact spent
  · exact .earlier

/-- Handles are used before they are spent, or with an exempt input. -/
def UsesUnspent (Exempt : Input → Prop) : List (HandleOp Input) → Prop
  | [] => True
  | .clone _ :: history => UsesUnspent Exempt history
  | .use handle input :: history =>
      (¬ Spent history handle ∨ Exempt input) ∧ UsesUnspent Exempt history

/-- The runs from one value: the history, the values of the handles, and the
outputs from the last one back. -/
inductive HandleRun (clone : Value → Value)
    (use : Value → Input → Output × Value) (initial : Value) :
    List (HandleOp Input) → List Value → List Output → Prop
  | start :
      HandleRun clone use initial [] [initial] []
  | clone {history : List (HandleOp Input)} {values : List Value}
      {outputs : List Output} {source : Nat} {value : Value} :
      HandleRun clone use initial history values outputs →
      values[source]? = some value →
      HandleRun clone use initial (.clone source :: history)
        (values ++ [clone value]) outputs
  | use {history : List (HandleOp Input)} {values : List Value}
      {outputs : List Output} {handle : Nat} {value : Value}
      {input : Input} :
      HandleRun clone use initial history values outputs →
      values[handle]? = some value →
      HandleRun clone use initial (.use handle input :: history)
        (values.set handle (use value input).2)
        ((use value input).1 :: outputs)

variable {clone : Value → Value} {use : Value → Input → Output × Value}
  {initial : Value}

namespace HandleRun

theorem length_eq {history : List (HandleOp Input)} {values : List Value}
    {outputs : List Output}
    (run : HandleRun clone use initial history values outputs) :
    values.length = handleCount history := by
  induction run with
  | start =>
      rfl
  | clone _ _ inductionHypothesis =>
      rw [List.length_append, inductionHypothesis]
      rfl
  | use _ _ inductionHypothesis =>
      rw [List.length_set, inductionHypothesis]
      rfl

/-- What clones and uses preserve holds of the values of all handles. -/
theorem invariant (Holds : Value → Prop) (start : Holds initial)
    (cloned : ∀ value, Holds value → Holds (clone value))
    (used : ∀ value input, Holds value → Holds (use value input).2)
    {history : List (HandleOp Input)} {values : List Value}
    {outputs : List Output}
    (run : HandleRun clone use initial history values outputs) :
    ∀ value, value ∈ values → Holds value := by
  induction run with
  | start =>
      intro value member
      rw [List.mem_singleton.mp member]
      exact start
  | clone _ found inductionHypothesis =>
      intro value member
      rcases List.mem_append.mp member with earlier | new
      · exact inductionHypothesis value earlier
      · rw [List.mem_singleton.mp new]
        exact cloned _ (inductionHypothesis _ (List.mem_of_getElem? found))
  | use _ found inductionHypothesis =>
      intro value member
      rcases List.mem_or_eq_of_mem_set member with earlier | new
      · exact inductionHypothesis value earlier
      · rw [new]
        exact used _ _ (inductionHypothesis _ (List.mem_of_getElem? found))

theorem lt_of_spent {history : List (HandleOp Input)} {values : List Value}
    {outputs : List Output}
    (run : HandleRun clone use initial history values outputs)
    {handle : Nat} (spent : Spent history handle) :
    handle < handleCount history := by
  induction run generalizing handle with
  | start =>
      cases spent
  | clone _ _ inductionHypothesis =>
      cases spent with
      | cloned _ =>
          exact Nat.lt_succ_self _
      | earlier spent =>
          exact Nat.lt_succ_of_lt (inductionHypothesis spent)
  | use run found inductionHypothesis =>
      cases spent with
      | used =>
          obtain ⟨inRange, _⟩ := List.getElem?_eq_some_iff.mp found
          exact run.length_eq ▸ inRange
      | earlier spent =>
          exact inductionHypothesis spent

/-- The handle that a clone makes is spent if the source was. -/
theorem spent_clone_new {history : List (HandleOp Input)}
    {values : List Value} {outputs : List Output}
    (run : HandleRun clone use initial history values outputs)
    {source : Nat} :
    Spent (.clone source :: history) (handleCount history) ↔
      Spent history source := by
  constructor
  · intro spent
    cases spent with
    | cloned spent => exact spent
    | earlier spent => exact (Nat.lt_irrefl _ (run.lt_of_spent spent)).elim
  · exact .cloned

/-- A mark that uses leave and clones keep is on the values of the spent
handles. -/
theorem marked_iff_spent (Marked : Value → Prop) (start : ¬ Marked initial)
    (cloned : ∀ value, Marked (clone value) ↔ Marked value)
    (used : ∀ value input, Marked (use value input).2)
    {history : List (HandleOp Input)} {values : List Value}
    {outputs : List Output}
    (run : HandleRun clone use initial history values outputs)
    {handle : Nat} {value : Value} (found : values[handle]? = some value) :
    Marked value ↔ Spent history handle := by
  induction run generalizing handle value with
  | start =>
      have same : value = initial := by
        rw [List.getElem?_singleton] at found
        split at found
        · exact (Option.some.inj found).symm
        · cases found
      rw [same]
      exact ⟨fun marked => (start marked).elim, nofun⟩
  | @clone history values _ source copied run hasSource inductionHypothesis =>
      rcases Nat.lt_or_ge handle values.length with old | new
      · rw [List.getElem?_append_left old] at found
        rw [run.length_eq] at old
        rw [inductionHypothesis found, spent_clone_of_lt old]
      · have last : handle = values.length := by
          obtain ⟨inRange, _⟩ := List.getElem?_eq_some_iff.mp found
          rw [List.length_append, List.length_singleton] at inRange
          omega
        subst last
        rw [List.getElem?_concat_length] at found
        rw [← Option.some.inj found, cloned, inductionHypothesis hasSource,
          run.length_eq, run.spent_clone_new]
  | @use history values _ usedHandle before input run hasHandle
      inductionHypothesis =>
      rw [List.getElem?_set] at found
      by_cases same : usedHandle = handle
      · subst same
        have inRange := (List.getElem?_eq_some_iff.mp hasHandle).1
        rw [if_pos rfl, if_pos inRange] at found
        rw [← Option.some.inj found]
        exact ⟨fun _ => .used, fun _ => used before input⟩
      · rw [if_neg same] at found
        rw [inductionHypothesis found, spent_use_of_ne same]

/-- When a use fails to be good exactly because of the mark, all outputs are
good if and only if no handle is used once it is spent. -/
theorem forall_good_iff (Good : Output → Prop) (Exempt : Input → Prop)
    (Marked Holds : Value → Prop) (initialHolds : Holds initial)
    (initialNotMarked : ¬ Marked initial)
    (clonedHolds : ∀ value, Holds value → Holds (clone value))
    (clonedMarked : ∀ value, Marked (clone value) ↔ Marked value)
    (usedHolds : ∀ value input, Holds value → Holds (use value input).2)
    (usedMarked : ∀ value input, Marked (use value input).2)
    (good_iff :
      ∀ value input, Holds value →
        (Good (use value input).1 ↔ ¬ Marked value ∨ Exempt input))
    {history : List (HandleOp Input)} {values : List Value}
    {outputs : List Output}
    (run : HandleRun clone use initial history values outputs) :
    (∀ output, output ∈ outputs → Good output) ↔
      UsesUnspent Exempt history := by
  induction run with
  | start =>
      exact ⟨fun _ => trivial, fun _ _ member => nomatch member⟩
  | clone _ _ inductionHypothesis =>
      exact inductionHypothesis
  | @use history _ _ handle value input run found inductionHypothesis =>
      have holds : Holds value :=
        run.invariant Holds initialHolds clonedHolds usedHolds value
          (List.mem_of_getElem? found)
      have marked : Marked value ↔ Spent history handle :=
        run.marked_iff_spent Marked initialNotMarked clonedMarked usedMarked
          found
      rw [List.forall_mem_cons, good_iff value input holds, marked,
        inductionHypothesis]
      rfl

end HandleRun

end Handles

end Foundation
