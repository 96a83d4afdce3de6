import Hyperdriver.Foundation.ReadBuf

/-!
# Borrowed buffers

A borrowed buffer is a block of memory with the two marks of a read buffer, and
without the promise that they are right.  The unsafe operations of read buffers
move the marks as they are told.  A buffer is valid when its marks are in order
and all memory below the upper one is initialized; the valid buffers are those
of `ReadBuf`.
-/

namespace Foundation

structure BorrowedBuf where
  raw : List (Option UInt8)
  filled : Nat
  init : Nat
  deriving DecidableEq, Repr

namespace BorrowedBuf

/-! ## Operations -/

def uninit (raw : List (Option UInt8)) : BorrowedBuf where
  raw := raw
  filled := 0
  init := 0

def remaining (buf : BorrowedBuf) : Nat :=
  buf.raw.length - buf.filled

def filledBytes (buf : BorrowedBuf) : List UInt8 :=
  (buf.raw.take buf.filled).reduceOption

/-- The memory above the filled mark. -/
def unfilled (buf : BorrowedBuf) : List (Option UInt8) :=
  buf.raw.drop buf.filled

/-- The buffer after the memory above the filled mark has been borrowed and
written to. -/
def restore (buf : BorrowedBuf) (unfilled : List (Option UInt8)) :
    BorrowedBuf where
  raw := buf.raw.take buf.filled ++ unfilled
  filled := buf.filled
  init := buf.init

/-- `hyper::rt::ReadBufCursor::advance`. -/
def advance (buf : BorrowedBuf) (count : Nat) : BorrowedBuf where
  raw := buf.raw
  filled := buf.filled + count
  init := max (buf.filled + count) buf.init

/-- `tokio::io::ReadBuf::assume_init`. -/
def assumeInit (buf : BorrowedBuf) (count : Nat) : BorrowedBuf :=
  let new := buf.filled + count
  if buf.init < new then { buf with init := new } else buf

/-- `tokio::io::ReadBuf::set_filled`. -/
def setFilled (buf : BorrowedBuf) (filled : Nat) : Checked BorrowedBuf :=
  if filled ≤ buf.init then
    .ok { buf with filled }
  else
    .error (.assertion "filled must not become larger than initialized")

/-- Copy bytes to the front of the free space, and fill the buffer with them. -/
def putSlice (buf : BorrowedBuf) (bytes : List UInt8) : BorrowedBuf where
  raw :=
    buf.raw.take buf.filled ++ bytes.map some ++
      buf.raw.drop (buf.filled + bytes.length)
  filled := buf.filled + bytes.length
  init := max (buf.filled + bytes.length) buf.init

/-! ## Valid buffers -/

structure Valid (buf : BorrowedBuf) : Prop where
  filled_le : buf.filled ≤ buf.init
  init_le : buf.init ≤ buf.raw.length
  written : ∀ cell, cell ∈ buf.raw.take buf.init → cell.isSome

end BorrowedBuf

def ReadBuf.borrowed {capacity : Nat} (buf : ReadBuf capacity) :
    BorrowedBuf where
  raw := buf.raw
  filled := buf.filled
  init := buf.init

theorem ReadBuf.valid_borrowed {capacity : Nat} (buf : ReadBuf capacity) :
    buf.borrowed.Valid where
  filled_le := buf.filled_le
  init_le := buf.init_le.trans_eq buf.size.symm
  written := buf.written

namespace BorrowedBuf

variable {buf : BorrowedBuf}

def Valid.readBuf (valid : buf.Valid) : ReadBuf buf.raw.length where
  raw := buf.raw
  filled := buf.filled
  init := buf.init
  size := rfl
  filled_le := valid.filled_le
  init_le := valid.init_le
  written := valid.written

theorem valid_uninit (raw : List (Option UInt8)) : (uninit raw).Valid :=
  (ReadBuf.uninit raw rfl).valid_borrowed

theorem remaining_uninit_unfilled (buf : BorrowedBuf) :
    (uninit buf.unfilled).remaining = buf.remaining := by
  unfold remaining uninit unfilled
  rw [List.length_drop, Nat.sub_zero]

section PutSlice

variable {bytes : List UInt8}

theorem Valid.putSlice (valid : buf.Valid)
    (fits : bytes.length ≤ buf.remaining) : (buf.putSlice bytes).Valid :=
  (valid.readBuf.putSlice bytes fits).valid_borrowed

theorem Valid.length_putSlice (valid : buf.Valid)
    (fits : bytes.length ≤ buf.remaining) :
    (buf.putSlice bytes).raw.length = buf.raw.length :=
  (valid.readBuf.putSlice bytes fits).size

theorem Valid.filledBytes_putSlice (valid : buf.Valid)
    (fits : bytes.length ≤ buf.remaining) :
    (buf.putSlice bytes).filledBytes = buf.filledBytes ++ bytes :=
  valid.readBuf.filledBytes_putSlice bytes fits

theorem filledBytes_putSlice_uninit (raw : List (Option UInt8))
    (fits : bytes.length ≤ raw.length) :
    ((uninit raw).putSlice bytes).filledBytes = bytes :=
  (valid_uninit raw).filledBytes_putSlice fits

/-- Writing to the borrowed free space writes to the buffer. -/
theorem raw_restore_putSlice (buf : BorrowedBuf) (bytes : List UInt8) :
    (buf.restore ((uninit buf.unfilled).putSlice bytes).raw).raw =
      (buf.putSlice bytes).raw := by
  have rest :
      buf.unfilled.drop bytes.length =
        buf.raw.drop (buf.filled + bytes.length) :=
    List.drop_drop
  unfold restore BorrowedBuf.putSlice uninit
  rw [Nat.zero_add, List.take_zero, List.nil_append, rest,
    List.append_assoc]

end PutSlice

/-- Borrowing the free space without writing to it changes nothing. -/
@[simp]
theorem restore_unfilled (buf : BorrowedBuf) :
    buf.restore buf.unfilled = buf := by
  unfold restore unfilled
  rw [List.take_append_drop]

/-- Advancing over bytes in the borrowed free space puts them. -/
theorem advance_restore (buf : BorrowedBuf) (bytes : List UInt8) :
    (buf.restore ((uninit buf.unfilled).putSlice bytes).raw).advance
        bytes.length =
      buf.putSlice bytes := by
  have raw := raw_restore_putSlice buf bytes
  unfold advance
  rw [raw]
  rfl

theorem assumeInit_eq (buf : BorrowedBuf) (count : Nat) :
    buf.assumeInit count =
      { buf with init := max (buf.filled + count) buf.init } := by
  unfold assumeInit
  by_cases grows : buf.init < buf.filled + count
  · rw [if_pos grows, Nat.max_eq_left (Nat.le_of_lt grows)]
  · rw [if_neg grows, Nat.max_eq_right (Nat.not_lt.mp grows)]

/-- So does assuming that they are initialized and filling the buffer up to
them. -/
theorem setFilled_assumeInit_restore (buf : BorrowedBuf)
    (bytes : List UInt8) :
    ((buf.restore ((uninit buf.unfilled).putSlice bytes).raw).assumeInit
        bytes.length).setFilled (buf.filled + bytes.length) =
      .ok (buf.putSlice bytes) := by
  have raw := raw_restore_putSlice buf bytes
  have initialized :
      buf.filled + bytes.length ≤
        max (buf.filled + bytes.length) buf.init :=
    Nat.le_max_left _ _
  rw [assumeInit_eq, raw]
  exact if_pos initialized

end BorrowedBuf

end Foundation
