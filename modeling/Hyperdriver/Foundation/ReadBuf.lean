import Hyperdriver.Foundation.ByteSource
import Mathlib.Data.List.ReduceOption

/-!
# Partially initialized read buffers

`hyper::rt::ReadBuf`: a borrowed block of memory, a mark below which bytes have
been delivered, and a mark below which memory is initialized.  A cell of the
block is `none` until a byte is written to it.

The marks and the cells satisfy the buffer invariant by construction.  The
safety contract of the unsafe operation `advance` is its proof argument.
-/

namespace Foundation

universe u

/-- A read buffer over `capacity` cells of memory. -/
structure ReadBuf (capacity : Nat) where
  raw : List (Option UInt8)
  filled : Nat
  init : Nat
  size : raw.length = capacity
  filled_le : filled ≤ init
  init_le : init ≤ capacity
  written : ∀ cell, cell ∈ raw.take init → cell.isSome

namespace ReadBuf

variable {capacity : Nat}

def uninit (raw : List (Option UInt8)) (size : raw.length = capacity) :
    ReadBuf capacity where
  raw := raw
  filled := 0
  init := 0
  size := size
  filled_le := Nat.le_refl 0
  init_le := Nat.zero_le capacity
  written := by simp

def remaining (buf : ReadBuf capacity) : Nat :=
  capacity - buf.filled

def filledBytes (buf : ReadBuf capacity) : List UInt8 :=
  (buf.raw.take buf.filled).reduceOption

theorem filled_le_capacity (buf : ReadBuf capacity) :
    buf.filled ≤ capacity :=
  Nat.le_trans buf.filled_le buf.init_le

private theorem length_take_filled (buf : ReadBuf capacity) :
    (buf.raw.take buf.filled).length = buf.filled := by
  rw [List.length_take, buf.size]
  exact Nat.min_eq_left buf.filled_le_capacity

/-- Mark the next `count` bytes as delivered; the caller has to have
initialized them. -/
def advance (buf : ReadBuf capacity) (count : Nat)
    (fits : buf.filled + count ≤ capacity)
    (initialized :
      ∀ cell, cell ∈ buf.raw.take (buf.filled + count) → cell.isSome) :
    ReadBuf capacity where
  raw := buf.raw
  filled := buf.filled + count
  init := max (buf.filled + count) buf.init
  size := buf.size
  filled_le := Nat.le_max_left _ _
  init_le := Nat.max_le.mpr ⟨fits, buf.init_le⟩
  written := by
    rcases Nat.le_total (buf.filled + count) buf.init with below | above
    · rw [Nat.max_eq_right below]
      exact buf.written
    · rw [Nat.max_eq_left above]
      exact initialized

private theorem written_putSlice (buf : ReadBuf capacity) (bytes : List UInt8)
    (cell : Option UInt8)
    (member :
      cell ∈
        (buf.raw.take buf.filled ++ bytes.map some ++
          buf.raw.drop (buf.filled + bytes.length)).take
            (max (buf.filled + bytes.length) buf.init)) :
    cell.isSome := by
  have tail :
      ∀ count, (buf.raw.drop (buf.filled + bytes.length)).take count =
        (buf.raw.take (buf.filled + bytes.length + count)).drop
          (buf.filled + bytes.length) := by
    intro count
    rw [List.drop_take, Nat.add_sub_cancel_left]
  rw [List.take_append, List.take_append, List.mem_append, List.mem_append,
    length_take_filled, tail] at member
  rcases member with (old | new) | later
  · have inPrefix := List.mem_of_mem_take old
    exact buf.written cell
      (List.take_subset_take_left buf.raw buf.filled_le inPrefix)
  · obtain ⟨byte, _, rfl⟩ := List.mem_map.mp (List.mem_of_mem_take new)
    rfl
  · simp only [List.length_append, List.length_map, length_take_filled]
      at later
    rcases Nat.le_total buf.init (buf.filled + bytes.length) with
      below | above
    · rw [Nat.max_eq_left below, Nat.sub_self, Nat.add_zero,
        List.drop_take, Nat.sub_self, List.take_zero] at later
      cases later
    · rw [Nat.max_eq_right above, Nat.add_sub_cancel' above] at later
      exact buf.written cell (List.mem_of_mem_drop later)

def putSlice (buf : ReadBuf capacity) (bytes : List UInt8)
    (fits : bytes.length ≤ buf.remaining) : ReadBuf capacity where
  raw :=
    buf.raw.take buf.filled ++ bytes.map some ++
      buf.raw.drop (buf.filled + bytes.length)
  filled := buf.filled + bytes.length
  init := max (buf.filled + bytes.length) buf.init
  size := by
    have filled_le := buf.filled_le_capacity
    have size := buf.size
    simp only [remaining] at fits
    simp only [List.length_append, List.length_take, List.length_map,
      List.length_drop]
    omega
  filled_le := Nat.le_max_left _ _
  init_le := by
    have filled_le := buf.filled_le_capacity
    have init_le := buf.init_le
    simp only [remaining] at fits
    omega
  written := written_putSlice buf bytes

/-! ## The delivered bytes under each operation -/

private theorem map_some_reduceOption {cells : List (Option UInt8)}
    (some_cells : ∀ cell, cell ∈ cells → cell.isSome) :
    cells.reduceOption.map some = cells := by
  induction cells with
  | nil =>
      rfl
  | cons cell rest inductionHypothesis =>
      obtain ⟨byte, rfl⟩ :=
        Option.isSome_iff_exists.mp (some_cells cell (by simp))
      rw [List.reduceOption_cons_of_some, List.map_cons,
        inductionHypothesis fun other member =>
          some_cells other (List.mem_cons_of_mem _ member)]

/-- The cells below the filled mark hold exactly the delivered bytes. -/
theorem map_some_filledBytes (buf : ReadBuf capacity) :
    buf.filledBytes.map some = buf.raw.take buf.filled :=
  map_some_reduceOption fun cell member =>
    buf.written cell
      (List.take_subset_take_left buf.raw buf.filled_le member)

@[simp]
theorem length_filledBytes (buf : ReadBuf capacity) :
    buf.filledBytes.length = buf.filled := by
  have lengths := congrArg List.length buf.map_some_filledBytes
  rw [List.length_map, List.length_take, buf.size,
    Nat.min_eq_left buf.filled_le_capacity] at lengths
  exact lengths

@[simp]
theorem filled_putSlice (buf : ReadBuf capacity) (bytes : List UInt8)
    (fits : bytes.length ≤ buf.remaining) :
    (buf.putSlice bytes fits).filled = buf.filled + bytes.length :=
  rfl

@[simp]
theorem filledBytes_putSlice (buf : ReadBuf capacity) (bytes : List UInt8)
    (fits : bytes.length ≤ buf.remaining) :
    (buf.putSlice bytes fits).filledBytes = buf.filledBytes ++ bytes := by
  have front :
      (buf.putSlice bytes fits).raw.take (buf.filled + bytes.length) =
        buf.raw.take buf.filled ++ bytes.map some := by
    have total :
        (buf.raw.take buf.filled ++ bytes.map some).length =
          buf.filled + bytes.length := by
      rw [List.length_append, length_take_filled, List.length_map]
    exact List.take_left' total
  have cells :
      (buf.putSlice bytes fits).filledBytes.map some =
        (buf.filledBytes ++ bytes).map some := by
    rw [map_some_filledBytes, filled_putSlice, front, List.map_append,
      map_some_filledBytes]
  exact List.map_injective_iff.mpr (Option.some_injective UInt8) cells

/-! ## Reading into a buffer -/

/-- Poll a reader with the free space of a buffer. -/
def pollRead {Source : Type u} [Read Source] (source : Source)
    (buf : ReadBuf capacity) :
    Poll (Except IoError Unit) × Source × ReadBuf capacity :=
  match Read.pollRead source buf.remaining with
  | (.ready (.ok chunk), next) =>
      (.ready (.ok ()), next, buf.putSlice chunk.val chunk.property)
  | (.ready (.error error), next) => (.ready (.error error), next, buf)
  | (.pending, next) => (.pending, next, buf)

/-- Everything one read into a buffer with `space` free cells can do. -/
theorem pollRead_cases {Source : Type u} [Read Source] {source next : Source}
    {buf after : ReadBuf capacity} {answer : Poll (Except IoError Unit)}
    {space : Nat} (free : buf.remaining = space)
    (answered : buf.pollRead source = (answer, next, after)) :
    (answer = .pending ∧ after = buf ∧
        Read.pollRead source space = (.pending, next)) ∨
      (∃ error, answer = .ready (.error error) ∧ after = buf ∧
        Read.pollRead source space = (.ready (.error error), next)) ∨
      ∃ chunk : Chunk space, answer = .ready (.ok ()) ∧
        after = buf.putSlice chunk.val (free ▸ chunk.property) ∧
          Read.pollRead source space = (.ready (.ok chunk), next) := by
  subst free
  unfold pollRead at answered
  split at answered
  · rename_i chunk read polled
    cases answered
    exact Or.inr (Or.inr ⟨chunk, rfl, rfl, polled⟩)
  · rename_i error read polled
    cases answered
    exact Or.inr (Or.inl ⟨error, rfl, rfl, polled⟩)
  · rename_i read polled
    cases answered
    exact Or.inl ⟨rfl, rfl, polled⟩

theorem filled_le_of_pollRead {Source : Type u} [Read Source]
    {source next : Source} {buf after : ReadBuf capacity}
    {answer : Poll (Except IoError Unit)}
    (answered : buf.pollRead source = (answer, next, after)) :
    buf.filled ≤ after.filled := by
  rcases pollRead_cases rfl answered with
    ⟨_, rfl, _⟩ | ⟨_, _, rfl, _⟩ | ⟨chunk, _, rfl, _⟩
  · exact Nat.le_refl _
  · exact Nat.le_refl _
  · exact Nat.le_add_right _ _

end ReadBuf

end Foundation
