import Hyperdriver.Foundation.BorrowedBuf

/-!
# Bridging the read traits

`TokioIo` makes a reader of one of the crates hyper and tokio a reader of the
other.  A poll lends the free space of the buffer to the inner reader as a
buffer of its own, and then moves the marks by what was filled there.

The inner reader may do what the traits allow it: deliver bytes into the buffer
it is given, or leave the buffer as it is.
-/

namespace Hyperdriver

open Foundation

namespace Bridge

structure TokioIo (T : Type) where
  inner : T
  deriving DecidableEq, Repr

/-- The type of `poll_read` in both traits. -/
abbrev PollRead (T : Type) : Type :=
  T → BorrowedBuf → Checked (Poll (Except IoError Unit) × T × BorrowedBuf)

/-- `tokio::io::AsyncRead`. -/
class AsyncRead (T : Type) where
  pollRead : PollRead T

/-- `hyper::rt::Read`. -/
class HyperRead (T : Type) where
  pollRead : PollRead T

variable {T : Type}

/-- `TokioIo` as a reader of hyper. -/
instance [AsyncRead T] : HyperRead (TokioIo T) where
  pollRead self buf := do
    let tbuf := BorrowedBuf.uninit buf.unfilled
    let (answer, inner, tbuf) ← AsyncRead.pollRead self.inner tbuf
    let buf := buf.restore tbuf.raw
    match answer with
    | .ready (.ok ()) =>
        -- The slice of filled bytes is as long as the mark.
        let n := tbuf.filled
        .ok (.ready (.ok ()), { inner }, buf.advance n)
    | other => .ok (other, { inner }, buf)

/-- `TokioIo` as a reader of tokio. -/
instance [HyperRead T] : AsyncRead (TokioIo T) where
  pollRead self tbuf := do
    let filled := tbuf.filled
    let buf := BorrowedBuf.uninit tbuf.unfilled
    let (answer, inner, buf) ← HyperRead.pollRead self.inner buf
    let tbuf := tbuf.restore buf.raw
    match answer with
    | .ready (.ok ()) =>
        let subFilled := buf.filled
        let nFilled := filled + subFilled
        let nInit := subFilled
        -- `assumeInit` counts from the filled mark, `setFilled` from the start.
        let tbuf := tbuf.assumeInit nInit
        let tbuf ← tbuf.setFilled nFilled
        .ok (.ready (.ok ()), { inner }, tbuf)
    | other => .ok (other, { inner }, tbuf)

/-! ## What readers do -/

/-- A reader fills the buffer with bytes that fit into it, or writes nothing. -/
inductive Delivers (before : BorrowedBuf) :
    Poll (Except IoError Unit) → BorrowedBuf → Prop
  | wrote {bytes : List UInt8} (fits : bytes.length ≤ before.remaining) :
      Delivers before (.ready (.ok ())) (before.putSlice bytes)
  | failed {error : IoError} : Delivers before (.ready (.error error)) before
  | waits : Delivers before .pending before

def Obeys (pollRead : PollRead T) : Prop :=
  ∀ source buf, buf.Valid →
    ∃ answer next after, pollRead source buf = .ok (answer, next, after) ∧
      Delivers buf answer after

def settle {space : Nat} (buf : BorrowedBuf) :
    Poll (Except IoError (Chunk space)) × T →
      Poll (Except IoError Unit) × T × BorrowedBuf
  | (.ready (.ok chunk), next) =>
      (.ready (.ok ()), next, buf.putSlice chunk.val)
  | (.ready (.error error), next) => (.ready (.error error), next, buf)
  | (.pending, next) => (.pending, next, buf)

/-- A reader that is polled with an amount of free space reads into a buffer. -/
def readInto [Read T] (source : T) (buf : BorrowedBuf) :
    Poll (Except IoError Unit) × T × BorrowedBuf :=
  settle buf (Read.pollRead source buf.remaining)

instance [Read T] : AsyncRead T where
  pollRead source buf := .ok (readInto source buf)

instance [Read T] : HyperRead T where
  pollRead source buf := .ok (readInto source buf)

private theorem delivers_readInto [Read T] (source : T) (buf : BorrowedBuf) :
    Delivers buf (readInto source buf).1 (readInto source buf).2.2 := by
  unfold readInto
  rcases Read.pollRead source buf.remaining with ⟨_ | error | chunk, next⟩
  · exact .waits
  · exact .failed
  · exact .wrote chunk.property

private theorem obeys_readInto [Read T] :
    Obeys fun (source : T) buf => .ok (readInto source buf) := by
  intro source buf _
  exact ⟨_, _, _, rfl, delivers_readInto source buf⟩

/-! ## One poll of a bridge -/

/-- The buffer after its free space has been lent to a reader. -/
def receive (buf : BorrowedBuf) (answer : Poll (Except IoError Unit))
    (lent : BorrowedBuf) : BorrowedBuf :=
  match answer with
  | .ready (.ok ()) => buf.putSlice lent.filledBytes
  | .ready (.error _) => buf
  | .pending => buf

section Lent

variable {buf lent : BorrowedBuf} {answer : Poll (Except IoError Unit)}
  {next : T}

/-- The bytes that were written to the lent space are appended to the buffer,
and nothing else happens to it. -/
structure Forwards (before : BorrowedBuf) (answer : Poll (Except IoError Unit))
    (lent after : BorrowedBuf) : Prop where
  valid : after.Valid
  size : after.raw.length = before.raw.length
  filled :
    answer = .ready (.ok ()) → after.filled = before.filled + lent.filled
  appended :
    answer = .ready (.ok ()) →
      after.filledBytes = before.filledBytes ++ lent.filledBytes
  unchanged : answer ≠ .ready (.ok ()) → after = before

theorem filledBytes_lent {bytes : List UInt8}
    (fits : bytes.length ≤ (BorrowedBuf.uninit buf.unfilled).remaining) :
    ((BorrowedBuf.uninit buf.unfilled).putSlice bytes).filledBytes = bytes :=
  BorrowedBuf.filledBytes_putSlice_uninit buf.unfilled fits

theorem filled_lent (bytes : List UInt8) :
    ((BorrowedBuf.uninit buf.unfilled).putSlice bytes).filled =
      bytes.length :=
  Nat.zero_add _

private theorem delivers_receive
    (delivers : Delivers (.uninit buf.unfilled) answer lent) :
    Delivers buf answer (receive buf answer lent) := by
  cases delivers with
  | wrote fits =>
      have sameRoom := BorrowedBuf.remaining_uninit_unfilled buf
      rw [receive, filledBytes_lent fits]
      exact .wrote (sameRoom ▸ fits)
  | failed => exact .failed
  | waits => exact .waits

private theorem forwards_receive
    (delivers : Delivers (.uninit buf.unfilled) answer lent)
    (valid : buf.Valid) :
    Forwards buf answer lent (receive buf answer lent) := by
  cases delivers with
  | @wrote bytes fits =>
      have written := filledBytes_lent fits
      have room : bytes.length ≤ buf.remaining :=
        BorrowedBuf.remaining_uninit_unfilled buf ▸ fits
      rw [receive, written]
      exact
        { valid := valid.putSlice room
          size := valid.length_putSlice room
          filled := fun _ =>
            congrArg (buf.filled + ·) (filled_lent bytes).symm
          appended := fun _ => by
            rw [written]
            exact valid.filledBytes_putSlice room
          unchanged := fun other => (other rfl).elim }
  | failed => exact ⟨valid, rfl, nofun, nofun, fun _ => rfl⟩
  | waits => exact ⟨valid, rfl, nofun, nofun, fun _ => rfl⟩

theorem hyper_pollRead [AsyncRead T] {self : TokioIo T}
    (polled :
      AsyncRead.pollRead self.inner (.uninit buf.unfilled) =
        .ok (answer, next, lent))
    (delivers : Delivers (.uninit buf.unfilled) answer lent) :
    HyperRead.pollRead self buf =
      .ok (answer, { inner := next }, receive buf answer lent) := by
  have unwritten : buf.restore (BorrowedBuf.uninit buf.unfilled).raw = buf :=
    buf.restore_unfilled
  cases delivers with
  | @wrote bytes fits =>
      have advanced := buf.advance_restore bytes
      rw [← @filled_lent buf] at advanced
      rw [receive, filledBytes_lent fits, ← advanced]
      simp only [HyperRead.pollRead, polled]
      rfl
  | failed =>
      simp only [HyperRead.pollRead, polled]
      exact congrArg (fun after => Except.ok (_, _, after)) unwritten
  | waits =>
      simp only [HyperRead.pollRead, polled]
      exact congrArg (fun after => Except.ok (_, _, after)) unwritten

private theorem async_pollRead [HyperRead T] {self : TokioIo T}
    (polled :
      HyperRead.pollRead self.inner (.uninit buf.unfilled) =
        .ok (answer, next, lent))
    (delivers : Delivers (.uninit buf.unfilled) answer lent) :
    AsyncRead.pollRead self buf =
      .ok (answer, { inner := next }, receive buf answer lent) := by
  have unwritten : buf.restore (BorrowedBuf.uninit buf.unfilled).raw = buf :=
    buf.restore_unfilled
  cases delivers with
  | @wrote bytes fits =>
      have set := buf.setFilled_assumeInit_restore bytes
      rw [← @filled_lent buf] at set
      rw [receive, filledBytes_lent fits]
      simp only [AsyncRead.pollRead, polled]
      exact congrArg (fun set => set >>= fun after => Except.ok (_, _, after))
        set
  | failed =>
      simp only [AsyncRead.pollRead, polled]
      exact congrArg (fun after => Except.ok (_, _, after)) unwritten
  | waits =>
      simp only [AsyncRead.pollRead, polled]
      exact congrArg (fun after => Except.ok (_, _, after)) unwritten

/-- Two bridges, one over the other, lend the free space on. -/
theorem async_pollRead_nested [AsyncRead T] {source : T}
    (polled :
      AsyncRead.pollRead source (.uninit buf.unfilled) =
        .ok (answer, next, lent))
    (delivers : Delivers (.uninit buf.unfilled) answer lent) :
    AsyncRead.pollRead (TokioIo.mk (TokioIo.mk source)) buf =
      .ok (answer, TokioIo.mk (TokioIo.mk next),
        receive buf answer lent) := by
  have inner :=
    @hyper_pollRead T (.uninit buf.unfilled) lent answer next _ ⟨source⟩
      polled delivers
  have innerDelivers :=
    @delivers_receive (.uninit buf.unfilled) lent answer delivers
  have outer :=
    @async_pollRead _ buf _ answer _ _ ⟨TokioIo.mk source⟩ inner innerDelivers
  have same :
      receive buf answer (receive (.uninit buf.unfilled) answer lent) =
        receive buf answer lent := by
    cases delivers with
    | wrote fits =>
        rw [receive, receive, receive, filledBytes_lent fits,
          filledBytes_lent fits]
    | failed => rfl
    | waits => rfl
  rw [outer, same]

private theorem readInto_eq [Read T] (source : T) {space : Nat}
    (free : buf.remaining = space) :
    readInto source buf = settle buf (Read.pollRead source space) := by
  subst free
  rfl

/-- A reader that is polled with the free space fills it as it fills a
buffer. -/
theorem readInto_lent [Read T] (source : T) (buf : BorrowedBuf) :
    ∃ answer next lent,
      readInto source (.uninit buf.unfilled) = (answer, next, lent) ∧
        Delivers (.uninit buf.unfilled) answer lent ∧
          readInto source buf = (answer, next, receive buf answer lent) := by
  have sameRoom := BorrowedBuf.remaining_uninit_unfilled buf
  rw [readInto_eq source sameRoom, readInto_eq source rfl]
  rcases Read.pollRead source buf.remaining with ⟨_ | error | chunk, next⟩
  · exact ⟨_, _, _, rfl, .waits, rfl⟩
  · exact ⟨_, _, _, rfl, .failed, rfl⟩
  · have fits := chunk.property.trans_eq sameRoom.symm
    refine ⟨_, _, _, rfl, .wrote fits, ?_⟩
    rw [receive, filledBytes_lent fits]
    rfl

private theorem nested_eq [Read T] (source : T) (buf : BorrowedBuf) :
    AsyncRead.pollRead (TokioIo.mk (TokioIo.mk source)) buf =
      .ok ((readInto source buf).1,
        TokioIo.mk (TokioIo.mk (readInto source buf).2.1),
        (readInto source buf).2.2) := by
  obtain ⟨answer, next, lent, polled, delivers, same⟩ :=
    readInto_lent source buf
  rw [same]
  exact async_pollRead_nested (congrArg Except.ok polled) delivers

end Lent

/-! ## Sequences of reads -/

/-- A caller gives each read a buffer, which may be one that it got back.  It
has seen the answers and the buffers of the reads before, the last one
first. -/
abbrev ReadCaller : Type :=
  List (Poll (Except IoError Unit) × BorrowedBuf) → BorrowedBuf

/-- The buffers of the caller are valid if those that it gets back are. -/
def ReadCaller.Careful (caller : ReadCaller) : Prop :=
  ∀ seen, (∀ answer buf, (answer, buf) ∈ seen → buf.Valid) →
    (caller seen).Valid

def readSequence [AsyncRead T] (caller : ReadCaller) (source : T) :
    Nat → Checked (List (Poll (Except IoError Unit) × BorrowedBuf) × T)
  | 0 => .ok ([], source)
  | count + 1 => do
      let (seen, source) ← readSequence caller source count
      let (answer, next, after) ← AsyncRead.pollRead source (caller seen)
      .ok ((answer, after) :: seen, next)

private theorem Delivers.valid {before after : BorrowedBuf}
    {answer : Poll (Except IoError Unit)} (valid : before.Valid)
    (delivers : Delivers before answer after) : after.Valid := by
  cases delivers with
  | wrote fits => exact valid.putSlice fits
  | failed => exact valid
  | waits => exact valid

private theorem readSequence_nested [Read T] (caller : ReadCaller) (source : T)
    (count : Nat) :
    ∃ seen final,
      readSequence caller source count = .ok (seen, final) ∧
        readSequence caller (TokioIo.mk (TokioIo.mk source)) count =
          .ok (seen, TokioIo.mk (TokioIo.mk final)) ∧
        (caller.Careful →
          ∀ answer buf, (answer, buf) ∈ seen → buf.Valid) := by
  induction count with
  | zero =>
      exact ⟨[], source, rfl, rfl, nofun⟩
  | succ count inductionHypothesis =>
      obtain ⟨seen, last, direct, bridged, valid⟩ := inductionHypothesis
      have delivers := delivers_readInto last (caller seen)
      have same := nested_eq last (caller seen)
      refine
        ⟨((readInto last (caller seen)).1, (readInto last (caller seen)).2.2) ::
            seen,
          (readInto last (caller seen)).2.1, ?_, ?_, ?_⟩
      · simp only [readSequence, direct]
        rfl
      · simp only [readSequence, bridged]
        exact congrArg
          (fun polled => polled >>= fun (answer, next, after) =>
            Except.ok ((answer, after) :: seen, next))
          same
      · intro careful answer buf member
        have earlier := valid careful
        rcases List.mem_cons.mp member with last | old
        · cases last
          exact delivers.valid (careful seen earlier)
        · exact earlier answer buf old

/-! ## Main result -/

/-- In a poll of the outer reader, the inner one is polled with the free space
of the buffer. -/
def Lends {Outer : Type} (inner : PollRead T) (outer : PollRead Outer)
    (wrap : T → Outer) : Prop :=
  ∀ source buf, buf.Valid →
    ∃ answer next lent after,
      inner source (.uninit buf.unfilled) = .ok (answer, next, lent) ∧
        outer (wrap source) buf = .ok (answer, wrap next, after) ∧
          Forwards buf answer lent after

/-- An outer reader that receives what the inner one delivers lends it the free
space. -/
theorem lends_of_receives {Outer : Type} {inner : PollRead T}
    {outer : PollRead Outer} {wrap : T → Outer} (obeys : Obeys inner)
    (receives :
      ∀ {source next buf lent answer},
        inner source (.uninit buf.unfilled) = .ok (answer, next, lent) →
          Delivers (.uninit buf.unfilled) answer lent →
            outer (wrap source) buf =
              .ok (answer, wrap next, receive buf answer lent)) :
    Lends inner outer wrap := by
  intro source buf valid
  obtain ⟨answer, next, lent, polled, delivers⟩ :=
    obeys source _ (BorrowedBuf.valid_uninit buf.unfilled)
  have forwards := forwards_receive delivers valid
  exact ⟨answer, next, lent, _, polled, receives polled delivers, forwards⟩

/-- A bridge appends to the buffer what its reader wrote to the space that it
lent, without a panic, and two bridges in a row read like the reader itself. -/
theorem tokioIo_reads_transparent :
    (∀ {T : Type} [HyperRead T], Obeys (HyperRead.pollRead : PollRead T) →
      Lends (HyperRead.pollRead : PollRead T) AsyncRead.pollRead
        TokioIo.mk) ∧
    (∀ {T : Type} [AsyncRead T], Obeys (AsyncRead.pollRead : PollRead T) →
      Lends (AsyncRead.pollRead : PollRead T) HyperRead.pollRead
          TokioIo.mk ∧
        Lends (AsyncRead.pollRead : PollRead T) AsyncRead.pollRead
          fun source => TokioIo.mk (TokioIo.mk source)) ∧
    ∀ {T : Type} [Read T] (caller : ReadCaller) (source : T) (count : Nat),
      ∃ seen final,
        readSequence caller source count = .ok (seen, final) ∧
          readSequence caller (TokioIo.mk (TokioIo.mk source)) count =
            .ok (seen, TokioIo.mk (TokioIo.mk final)) ∧
          (caller.Careful →
            ∀ answer buf, (answer, buf) ∈ seen → buf.Valid) := by
  refine ⟨?_, ?_, readSequence_nested⟩
  · intro T _ obeys
    apply lends_of_receives obeys
    exact async_pollRead
  · intro T _ obeys
    constructor
    · apply lends_of_receives obeys
      exact hyper_pollRead
    · apply lends_of_receives obeys
      exact async_pollRead_nested

/-! ## A buffer with one byte in it -/

def partlyFilled : BorrowedBuf :=
  ⟨[some 1, some 0, none, none], 1, 2⟩

def twoBytes : ScriptedSource :=
  ⟨[7, 8], []⟩

private theorem valid_partlyFilled : partlyFilled.Valid where
  filled_le := by decide
  init_le := by decide
  written := by
    intro cell member
    rcases List.mem_cons.mp member with rfl | later
    · rfl
    · cases List.mem_singleton.mp later
      rfl

theorem tokioIo_reads_transparent_partlyFilled :
    Lends (HyperRead.pollRead : PollRead ScriptedSource) AsyncRead.pollRead
        TokioIo.mk ∧
      Forwards partlyFilled (.ready (.ok ()))
        ⟨[some 7, some 8, none], 2, 2⟩
        ⟨[some 1, some 7, some 8, none], 3, 3⟩ ∧
      ∃ seen final,
        readSequence (fun _ => partlyFilled)
            (TokioIo.mk (TokioIo.mk twoBytes)) 2 =
          .ok (seen, final) := by
  have lends :
      Lends (HyperRead.pollRead : PollRead ScriptedSource) AsyncRead.pollRead
        TokioIo.mk :=
    tokioIo_reads_transparent.1 obeys_readInto
  obtain ⟨answer, next, lent, after, polled, outer, forwards⟩ :=
    lends twoBytes partlyFilled valid_partlyFilled
  have inner :
      HyperRead.pollRead twoBytes (.uninit partlyFilled.unfilled) =
        .ok (.ready (.ok ()), ⟨[], []⟩, ⟨[some 7, some 8, none], 2, 2⟩) :=
    rfl
  have bridged :
      AsyncRead.pollRead (TokioIo.mk twoBytes) partlyFilled =
        .ok (.ready (.ok ()), ⟨⟨[], []⟩⟩,
          ⟨[some 1, some 7, some 8, none], 3, 3⟩) :=
    rfl
  cases inner.symm.trans polled
  cases bridged.symm.trans outer
  obtain ⟨seen, final, _, nested, _⟩ :=
    tokioIo_reads_transparent.2.2 (fun _ => partlyFilled) twoBytes 2
  exact ⟨lends, forwards, seen, _, nested⟩

/-! ## A reader that looks at what is filled -/

structure PeekingReader where
  deriving DecidableEq, Repr

/-- The reader writes the first filled byte again, and zero where nothing is
filled. -/
instance : AsyncRead PeekingReader where
  pollRead self buf :=
    let bytes := [buf.filledBytes.headD 0].take buf.remaining
    .ok (.ready (.ok ()), self, buf.putSlice bytes)

private theorem obeys_peekingReader :
    Obeys (AsyncRead.pollRead : PollRead PeekingReader) := by
  intro source buf _
  exact ⟨_, _, _, rfl, .wrote (List.length_take_le _ _)⟩

/-- Two bridges do not read like a reader that looks at what is filled: the free
space that they lend it is a buffer of its own, in which nothing is. -/
theorem nested_reads_differ :
    ¬ ∀ (T : Type) [AsyncRead T], Obeys (AsyncRead.pollRead : PollRead T) →
        ∀ caller : ReadCaller, caller.Careful →
          ∀ (source : T) (count : Nat),
            ∃ seen final,
              readSequence caller source count = .ok (seen, final) ∧
                readSequence caller (TokioIo.mk (TokioIo.mk source)) count =
                  .ok (seen, TokioIo.mk (TokioIo.mk final)) := by
  intro transparent
  have careful : ReadCaller.Careful fun _ => partlyFilled :=
    fun _ _ => valid_partlyFilled
  obtain ⟨seen, final, direct, bridged⟩ :=
    transparent PeekingReader obeys_peekingReader (fun _ => partlyFilled)
      careful ⟨⟩ 1
  have again :
      readSequence (fun _ => partlyFilled) PeekingReader.mk 1 =
        .ok ([(.ready (.ok ()), ⟨[some 1, some 1, none, none], 2, 2⟩)],
          ⟨⟩) :=
    rfl
  have zero :
      readSequence (fun _ => partlyFilled)
          (TokioIo.mk (TokioIo.mk PeekingReader.mk)) 1 =
        .ok ([(.ready (.ok ()), ⟨[some 1, some 0, none, none], 2, 2⟩)],
          ⟨⟨⟨⟩⟩⟩) :=
    rfl
  cases again.symm.trans direct
  cases zero.symm.trans bridged

end Bridge

end Hyperdriver
