import Hyperdriver.Foundation.Poll
import Mathlib.Data.Seq.Basic

/-!
# Byte sources

A reader is polled with the capacity of the free space it may write to.  A byte
source is a reader that delivers one stream, finite or infinite, in order: a
read removes exactly the bytes it delivers from the front of what is left, and
delivers nothing into free space only at the end of the stream.  How many bytes
a read delivers, and how often it answers `pending` before that, is left to the
source.

A stream starts with a list of bytes when the list is a finite prefix of it.
-/

namespace Foundation

open Stream' (Seq)

universe u

/-! ## Prefixes of streams -/

def StartsWith (bytes : List UInt8) (stream : Seq UInt8) : Prop :=
  ∃ tail : Seq UInt8, stream = (bytes : Seq UInt8).append tail

theorem startsWith_ofList_iff (bytes whole : List UInt8) :
    StartsWith bytes (whole : Seq UInt8) ↔ bytes <+: whole := by
  constructor
  · rintro ⟨tail, equality⟩
    induction bytes generalizing whole with
    | nil =>
        exact List.nil_prefix
    | cons head rest inductionHypothesis =>
        cases whole with
        | nil =>
            simp [Seq.ofList_cons, Seq.cons_append] at equality
        | cons first others =>
            rw [Seq.ofList_cons, Seq.ofList_cons, Seq.cons_append]
              at equality
            obtain ⟨sameHead, sameTail⟩ := Seq.cons_injective2 equality
            rw [sameHead]
            exact (List.prefix_cons_inj head).mpr
              (inductionHypothesis others sameTail)
  · rintro ⟨suffix, rfl⟩
    exact ⟨suffix, Seq.ofList_append bytes suffix⟩

theorem append_inj_of_length_eq
    {left right : List UInt8} {leftTail rightTail : Seq UInt8}
    (sameStream :
      (left : Seq UInt8).append leftTail =
        (right : Seq UInt8).append rightTail)
    (sameLength : left.length = right.length) :
    left = right ∧ leftTail = rightTail := by
  induction left generalizing right with
  | nil =>
      have rightNil : right = [] :=
        List.length_eq_zero_iff.mp sameLength.symm
      subst right
      simpa using sameStream
  | cons head rest inductionHypothesis =>
      cases right with
      | nil =>
          cases sameLength
      | cons first others =>
          rw [Seq.ofList_cons, Seq.ofList_cons, Seq.cons_append,
            Seq.cons_append] at sameStream
          obtain ⟨sameHead, sameTails⟩ := Seq.cons_injective2 sameStream
          obtain ⟨sameRest, sameEnd⟩ :=
            inductionHypothesis sameTails (Nat.succ.inj sameLength)
          exact ⟨by rw [sameHead, sameRest], sameEnd⟩

theorem StartsWith.prefix_of_length_le
    {short long : List UInt8} {stream : Seq UInt8}
    (startsShort : StartsWith short stream)
    (startsLong : StartsWith long stream)
    (shorter : short.length ≤ long.length) :
    short <+: long := by
  obtain ⟨shortTail, shortSplit⟩ := startsShort
  obtain ⟨longTail, longSplit⟩ := startsLong
  have splitLong :
      (long : Seq UInt8).append longTail =
        (long.take short.length : Seq UInt8).append
          ((long.drop short.length : Seq UInt8).append longTail) := by
    rw [← Seq.append_assoc, ← Seq.ofList_append, List.take_append_drop]
  have sameStream :
      (short : Seq UInt8).append shortTail =
        (long.take short.length : Seq UInt8).append
          ((long.drop short.length : Seq UInt8).append longTail) := by
    rw [← shortSplit, longSplit, splitLong]
  have sameLength : short.length = (long.take short.length).length := by
    rw [List.length_take]
    omega
  have isTake : short = long.take short.length :=
    (append_inj_of_length_eq sameStream sameLength).1
  rw [isTake]
  exact List.take_prefix short.length long

/-! ## Readers -/

/-- The kinds of I/O error the program distinguishes. -/
inductive IoErrorKind where
  | interrupted
  | invalidData
  | other (code : Nat)
  deriving DecidableEq, Repr

structure IoError where
  kind : IoErrorKind
  message : Option String
  deriving DecidableEq, Repr

/-- `io::Error::from` of a kind. -/
def IoError.ofKind (kind : IoErrorKind) : IoError :=
  ⟨kind, none⟩

abbrev Chunk (capacity : Nat) :=
  { bytes : List UInt8 // bytes.length ≤ capacity }

/-- A reader polled with the capacity of the free space it may fill.  It writes
the delivered bytes at the front of that space, and nothing when it is pending
or fails. -/
class Read (Source : Type u) where
  pollRead :
    Source → (capacity : Nat) →
      Poll (Except IoError (Chunk capacity)) × Source

/-- A reader that delivers the stream `rest` in order. -/
class ByteSource (Source : Type u) extends Read Source where
  rest : Source → Seq UInt8
  rest_of_read :
    ∀ {source next : Source} {capacity : Nat} {chunk : Chunk capacity},
      pollRead source capacity = (.ready (.ok chunk), next) →
        rest source = (chunk.val : Seq UInt8).append (rest next)
  rest_of_empty :
    ∀ {source next : Source} {capacity : Nat} {chunk : Chunk capacity},
      pollRead source capacity = (.ready (.ok chunk), next) →
        0 < capacity → chunk.val = [] → rest source = Seq.nil
  rest_of_error :
    ∀ {source next : Source} {capacity : Nat} {error : IoError},
      pollRead source capacity = (.ready (.error error), next) →
        rest next = rest source
  rest_of_pending :
    ∀ {source next : Source} {capacity : Nat},
      pollRead source capacity = (.pending, next) →
        rest next = rest source

/-- The answers of polling a reader with one fixed capacity. -/
def readAnswers {Source : Type u} [Read Source] (capacity : Nat)
    (before : Source) (answer : Poll (Except IoError (Chunk capacity)))
    (after : Source) : Prop :=
  Read.pollRead before capacity = (answer, after)

/-- One read at the given capacity, polled until it is ready, delivers
`chunk`. -/
def FirstRead {Source : Type u} [Read Source] (source : Source)
    (capacity : Nat) (chunk : Chunk capacity) : Prop :=
  ∃ next, Completes (readAnswers capacity) source (.ok chunk) next

theorem FirstRead.unique {Source : Type u} [Read Source] {source : Source}
    {capacity : Nat} {left right : Chunk capacity}
    (first : FirstRead source capacity left)
    (second : FirstRead source capacity right) :
    left = right := by
  obtain ⟨_, leftCompletes⟩ := first
  obtain ⟨_, rightCompletes⟩ := second
  have deterministic :
      ∀ (state : Source) (one other : Poll (Except IoError (Chunk capacity)))
        (oneNext otherNext : Source),
        readAnswers capacity state one oneNext →
          readAnswers capacity state other otherNext →
            one = other ∧ oneNext = otherNext := by
    intro state one other oneNext otherNext answered answeredOther
    exact Prod.mk.inj (answered.symm.trans answeredOther)
  have same := (leftCompletes.unique deterministic rightCompletes).1
  exact Except.ok.inj same

theorem rest_of_suspends {Source : Type u} [ByteSource Source]
    {source state : Source} {capacity : Nat}
    (suspends : Suspends (readAnswers capacity) source state) :
    ByteSource.rest state = ByteSource.rest source :=
  suspends.invariant
    (fun current => ByteSource.rest current = ByteSource.rest source)
    (fun _ _ same answered =>
      (ByteSource.rest_of_pending answered).trans same)
    rfl

/-- A read that is polled until it is ready removes what it delivers. -/
theorem rest_of_completes {Source : Type u} [ByteSource Source]
    {source next : Source} {capacity : Nat} {chunk : Chunk capacity}
    (completes : Completes (readAnswers capacity) source (.ok chunk) next) :
    ByteSource.rest source =
      (chunk.val : Seq UInt8).append (ByteSource.rest next) := by
  obtain ⟨last, suspends, answered⟩ := completes
  rw [← rest_of_suspends suspends]
  exact ByteSource.rest_of_read answered

/-! ## Sequences of reads -/

section Runs

variable {Source : Type u} [ByteSource Source]

/-- Poll once for each capacity and concatenate the delivered bytes. -/
def readAll (source : Source) : List Nat → List UInt8 × Source
  | [] => ([], source)
  | capacity :: capacities =>
      match Read.pollRead source capacity with
      | (.ready (.ok chunk), next) =>
          let (delivered, final) := readAll next capacities
          (chunk.val ++ delivered, final)
      | (.ready (.error _), next) => readAll next capacities
      | (.pending, next) => readAll next capacities

/-- No byte is lost, duplicated or reordered by any sequence of reads. -/
theorem rest_readAll (source : Source) (capacities : List Nat) :
    ByteSource.rest source =
      ((readAll source capacities).1 : Seq UInt8).append
        (ByteSource.rest (readAll source capacities).2) := by
  induction capacities generalizing source with
  | nil =>
      simp [readAll]
  | cons capacity capacities inductionHypothesis =>
      rw [readAll]
      split
      · rename_i chunk next answered
        rw [ByteSource.rest_of_read answered, inductionHypothesis next,
          ← Seq.append_assoc, ← Seq.ofList_append]
      · rename_i error next answered
        rw [← ByteSource.rest_of_error answered]
        exact inductionHypothesis next
      · rename_i next answered
        rw [← ByteSource.rest_of_pending answered]
        exact inductionHypothesis next

theorem startsWith_readAll (source : Source) (capacities : List Nat) :
    StartsWith (readAll source capacities).1 (ByteSource.rest source) :=
  ⟨_, rest_readAll source capacities⟩

/-- A read that offers space and delivers nothing shows that the reads before
it delivered the whole stream. -/
theorem rest_eq_of_empty_read
    {source next : Source} {capacities : List Nat} {capacity : Nat}
    {chunk : Chunk capacity}
    (answered :
      Read.pollRead (readAll source capacities).2 capacity =
        (.ready (.ok chunk), next))
    (space : 0 < capacity) (empty : chunk.val = []) :
    ByteSource.rest source = ((readAll source capacities).1 : Seq UInt8) := by
  rw [rest_readAll source capacities,
    ByteSource.rest_of_empty answered space empty, Seq.append_nil]

end Runs

/-! ## A scripted source -/

inductive Delivery where
  | pending
  | upTo (count : Nat)
  | fail (error : IoError)
  deriving DecidableEq, Repr

/-- A finite stream and the way it is delivered.  A delivery `upTo count`
delivers at least one byte while the stream and the space last; after the script
every read delivers as much as fits. -/
structure ScriptedSource where
  remaining : List UInt8
  script : List Delivery
  deriving DecidableEq, Repr

namespace ScriptedSource

def deliver (source : ScriptedSource) (count capacity : Nat) :
    Chunk capacity × ScriptedSource :=
  (⟨source.remaining.take (min count capacity), by simp⟩,
    ⟨source.remaining.drop (min count capacity), source.script.tail⟩)

instance : Read ScriptedSource where
  pollRead source capacity :=
    match source.script with
    | .pending :: script => (.pending, { source with script })
    | .fail error :: script => (.ready (.error error), { source with script })
    | .upTo count :: _ =>
        let (chunk, next) := source.deliver (count + 1) capacity
        (.ready (.ok chunk), next)
    | [] =>
        let (chunk, next) := source.deliver capacity capacity
        (.ready (.ok chunk), next)

theorem pollRead_cases (source : ScriptedSource) (capacity : Nat) :
    (∃ script, Read.pollRead source capacity =
        (.pending, { source with script })) ∨
      (∃ error script, Read.pollRead source capacity =
        (.ready (.error error), { source with script })) ∨
      ∃ count, (0 < capacity → 0 < count) ∧
        Read.pollRead source capacity =
          (.ready (.ok (source.deliver count capacity).1),
            (source.deliver count capacity).2) := by
  rcases source with ⟨remaining, script⟩
  rcases script with _ | ⟨delivery, script⟩
  · exact Or.inr (Or.inr ⟨capacity, id, rfl⟩)
  · cases delivery with
    | pending =>
        exact Or.inl ⟨script, rfl⟩
    | upTo count =>
        exact Or.inr (Or.inr ⟨count + 1, fun _ => Nat.succ_pos count, rfl⟩)
    | fail error =>
        exact Or.inr (Or.inl ⟨error, script, rfl⟩)

private theorem read_cases {source next : ScriptedSource} {capacity : Nat}
    {chunk : Chunk capacity}
    (answered :
      Read.pollRead source capacity = (.ready (.ok chunk), next)) :
    ∃ count, (0 < capacity → 0 < count) ∧
      chunk.val = source.remaining.take (min count capacity) ∧
        next.remaining = source.remaining.drop (min count capacity) := by
  rcases source.pollRead_cases capacity with
    ⟨script, shape⟩ | ⟨error, script, shape⟩ | ⟨count, positive, shape⟩
  · cases shape.symm.trans answered
  · cases shape.symm.trans answered
  · cases shape.symm.trans answered
    exact ⟨count, positive, rfl, rfl⟩

instance : ByteSource ScriptedSource where
  rest source := (source.remaining : Seq UInt8)
  rest_of_read := by
    intro source next capacity chunk answered
    obtain ⟨count, _, delivered, left⟩ := read_cases answered
    rw [delivered, left, ← Seq.ofList_append, List.take_append_drop]
  rest_of_empty := by
    intro source next capacity chunk answered space empty
    obtain ⟨count, positive, delivered, _⟩ := read_cases answered
    have spent : source.remaining = [] := by
      have taken := delivered.symm.trans empty
      have counted := positive space
      rcases List.take_eq_nil_iff.mp taken with zero | nil
      · omega
      · exact nil
    rw [spent, Seq.ofList_nil]
  rest_of_error := by
    intro source next capacity error answered
    rcases source.pollRead_cases capacity with
      ⟨script, shape⟩ | ⟨failure, script, shape⟩ | ⟨count, _, shape⟩
    · cases shape.symm.trans answered
    · cases shape.symm.trans answered
      rfl
    · cases shape.symm.trans answered
  rest_of_pending := by
    intro source next capacity answered
    rcases source.pollRead_cases capacity with
      ⟨script, shape⟩ | ⟨failure, script, shape⟩ | ⟨count, _, shape⟩
    · cases shape.symm.trans answered
      rfl
    · cases shape.symm.trans answered
    · cases shape.symm.trans answered

end ScriptedSource

end Foundation
