import Hyperdriver.Foundation.ByteSource

/-!
# Rewinding a reader

`Rewind` puts bytes that were already read back in front of a reader.  Over a
byte source it is again a byte source: it delivers the put-back bytes and then
whatever its inner reader still has to deliver.
-/

namespace Hyperdriver

open Foundation
open Stream' (Seq)

universe u

/-- A reader and the bytes to deliver before it is read again. -/
structure Rewind (Io : Type u) where
  inner : Io
  prefixBytes : Option (List UInt8)
  deriving DecidableEq, Repr

namespace Rewind

variable {Io : Type u}

def new (inner : Io) (prefixBytes : List UInt8) : Rewind Io :=
  { inner, prefixBytes := some prefixBytes }

/-- Deliver `min (len prefix) (remaining buf)` bytes of a nonempty prefix, and
keep the rest of it; without one, poll the inner reader. -/
def pollRead [Read Io] (self : Rewind Io) (capacity : Nat) :
    Poll (Except IoError (Chunk capacity)) × Rewind Io :=
  match self.prefixBytes with
  | some (head :: tail) =>
      let bytes := head :: tail
      let count := min bytes.length capacity
      let left := bytes.drop count
      (.ready (.ok ⟨bytes.take count, by simp [count]⟩),
        { self with prefixBytes := if left.isEmpty then none else some left })
  | _ =>
      let (answer, inner) := Read.pollRead self.inner capacity
      (answer, { inner, prefixBytes := none })

instance [Read Io] : Read (Rewind Io) where
  pollRead := pollRead

def putBack (self : Rewind Io) : List UInt8 :=
  self.prefixBytes.getD []

theorem pollRead_cases [Read Io] {self next : Rewind Io} {capacity : Nat}
    {answer : Poll (Except IoError (Chunk capacity))}
    (answered : Read.pollRead self capacity = (answer, next)) :
    (∃ chunk : Chunk capacity, answer = .ready (.ok chunk) ∧
        self.putBack = chunk.val ++ next.putBack ∧
          next.inner = self.inner ∧ (0 < capacity → chunk.val ≠ [])) ∨
      self.putBack = [] ∧ next.putBack = [] ∧
        Read.pollRead self.inner capacity = (answer, next.inner) := by
  change self.pollRead capacity = (answer, next) at answered
  unfold pollRead at answered
  split at answered
  · rename_i head tail present
    cases answered
    refine Or.inl ⟨_, rfl, ?_, rfl, ?_⟩
    · simp only [putBack, present, Option.getD_some]
      split
      · rename_i spent
        have dropNil := List.isEmpty_iff.mp spent
        rw [Option.getD_none]
        conv_lhs =>
          rw [← List.take_append_drop (min (head :: tail).length capacity)
            (head :: tail), dropNil]
      · rw [Option.getD_some, List.take_append_drop]
    · intro space taken
      rcases List.take_eq_nil_iff.mp taken with zero | nil
      · simp only [List.length_cons] at zero
        omega
      · cases nil
  · rename_i absent
    refine Or.inr ⟨?_, ?_, ?_⟩
    · rcases shape : self.prefixBytes with _ | _ | ⟨head, tail⟩
      · simp [putBack, shape]
      · simp [putBack, shape]
      · exact (absent head tail shape).elim
    · cases answered
      rfl
    · cases answered
      rfl

/-- A rewound byte source delivers the put-back bytes and then its inner
stream. -/
instance [ByteSource Io] : ByteSource (Rewind Io) where
  rest self := (self.putBack : Seq UInt8).append (ByteSource.rest self.inner)
  rest_of_read := by
    intro self next capacity chunk answered
    rcases pollRead_cases answered with
      ⟨delivered, same, split, inner, _⟩ | ⟨spent, nextSpent, polled⟩
    · cases same
      rw [split, inner, Seq.ofList_append, Seq.append_assoc]
    · simp only [spent, nextSpent, Seq.ofList_nil, Seq.nil_append]
      exact ByteSource.rest_of_read polled
  rest_of_empty := by
    intro self next capacity chunk answered space empty
    rcases pollRead_cases answered with
      ⟨delivered, same, _, _, nonempty⟩ | ⟨spent, _, polled⟩
    · cases same
      exact (nonempty space empty).elim
    · simp only [spent, Seq.ofList_nil, Seq.nil_append]
      exact ByteSource.rest_of_empty polled space empty
  rest_of_error := by
    intro self next capacity error answered
    rcases pollRead_cases answered with
      ⟨delivered, same, _⟩ | ⟨spent, nextSpent, polled⟩
    · cases same
    · simp only [spent, nextSpent, Seq.ofList_nil, Seq.nil_append]
      exact ByteSource.rest_of_error polled
  rest_of_pending := by
    intro self next capacity answered
    rcases pollRead_cases answered with
      ⟨delivered, same, _⟩ | ⟨spent, nextSpent, polled⟩
    · cases same
    · simp only [spent, nextSpent, Seq.ofList_nil, Seq.nil_append]
      exact ByteSource.rest_of_pending polled

theorem rest_of_prefixBytes [ByteSource Io] {self : Rewind Io}
    {bytes : List UInt8} (putBack : self.prefixBytes = some bytes) :
    ByteSource.rest self =
      (bytes : Seq UInt8).append (ByteSource.rest self.inner) := by
  have same : self.putBack = bytes := by
    rw [Rewind.putBack, putBack, Option.getD_some]
  rw [← same]
  rfl

end Rewind

end Hyperdriver
