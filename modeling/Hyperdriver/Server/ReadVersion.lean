import Hyperdriver.Foundation.ReadBuf
import Hyperdriver.Server.Rewind

/-!
# Detecting the HTTP version of a connection

`ReadVersion` reads at most as many bytes as the HTTP/2 connection preface has,
decides which protocol the peer speaks, and rewinds the transport.  Its state
survives pending reads: the 24 cells it reads into, how many of them are filled,
and the verdict so far.

The loop compares the bytes of the last read with the whole rest of the preface,
not with as many bytes of it as were read.  A first read that is shorter than
the preface therefore ends the detection, whatever it delivered.
-/

namespace Hyperdriver

open Foundation
open Stream' (Seq)

universe u

namespace Server

/-- `PRI * HTTP/2.0\r\n\r\nSM\r\n\r\n`. -/
def http2Prefix : List UInt8 :=
  [80, 82, 73, 32, 42, 32, 72, 84, 84, 80, 47, 50, 46, 48, 13, 10, 13, 10,
    83, 77, 13, 10, 13, 10]

@[simp]
theorem length_http2Prefix : http2Prefix.length = 24 :=
  rfl

inductive HttpProtocol where
  | http1
  | http2
  deriving DecidableEq, Repr

/-- The detection future.  The cells below `filled` hold bytes. -/
structure ReadVersion (Io : Type u) where
  io : Option Io
  buf : List (Option UInt8)
  filled : Nat
  version : HttpProtocol
  cancelled : Bool
  size : buf.length = 24
  filled_le : filled ≤ 24
  written : ∀ cell, cell ∈ buf.take filled → cell.isSome

namespace ReadVersion

variable {Io : Type u}

def new (io : Io) : ReadVersion Io where
  io := some io
  buf := List.replicate 24 none
  filled := 0
  version := .http2
  cancelled := false
  size := rfl
  filled_le := Nat.zero_le 24
  written cell member := by
    rw [List.take_zero] at member
    cases member

def cancel (self : ReadVersion Io) : ReadVersion Io :=
  { self with cancelled := true }

/-- The read buffer over the cells, advanced past the filled ones. -/
def readBuf (self : ReadVersion Io) : ReadBuf 24 :=
  (ReadBuf.uninit self.buf self.size).advance self.filled
    (by simpa [ReadBuf.uninit] using self.filled_le)
    (by simpa [ReadBuf.uninit] using self.written)

/-- The state after a successful read into `buf`. -/
def received (self : ReadVersion Io) (io : Io) (buf : ReadBuf 24) :
    ReadVersion Io :=
  { self with
    io := some io
    buf := buf.raw
    filled := buf.filled
    size := buf.size
    filled_le := buf.filled_le_capacity
    written := fun cell member =>
      buf.written cell
        (List.take_subset_take_left buf.raw buf.filled_le member) }

abbrev Answer (Io : Type u) :=
  Poll (Except IoError (HttpProtocol × Rewind Io)) × ReadVersion Io

/-- The end of `poll`: move the transport out and rewind it. -/
def finish (self : ReadVersion Io) (buf : ReadBuf 24) :
    Checked (Answer Io) := do
  let io ← unwrap self.io
  let rewind := Rewind.new io buf.filledBytes
  return (.ready (.ok (self.version, rewind)), { self with io := none })

def readLoop [Read Io] (self : ReadVersion Io) (buf : ReadBuf 24) :
    Checked (Answer Io) :=
  if buf.filled < http2Prefix.length then
    match self.io with
    | none => .error .unwrapNone
    | some io =>
        match _answered : buf.pollRead io with
        | (.pending, io, _) => .ok (.pending, { self with io := some io })
        | (.ready (.error error), io, _) =>
            .ok (.ready (.error error), { self with io := some io })
        | (.ready (.ok ()), io, after) =>
            let self := self.received io after
            if _same : after.filled = buf.filled then
              finish { self with version := .http1 } after
            else if after.filledBytes.drop buf.filled ≠
                http2Prefix.drop buf.filled then
              finish { self with version := .http1 } after
            else
              readLoop self after
  else
    finish self buf
termination_by http2Prefix.length - buf.filled
decreasing_by
  have advanced := ReadBuf.filled_le_of_pollRead _answered
  omega

def poll [Read Io] (self : ReadVersion Io) : Checked (Answer Io) :=
  if self.cancelled then
    .ok (.ready (.error (IoError.ofKind .interrupted)), self)
  else
    self.readLoop self.readBuf

def answers [Read Io] (before : ReadVersion Io)
    (answer : Poll (Except IoError (HttpProtocol × Rewind Io)))
    (after : ReadVersion Io) : Prop :=
  before.poll = .ok (answer, after)

theorem answers_deterministic [Read Io]
    {state left right : ReadVersion Io}
    {first second : Poll (Except IoError (HttpProtocol × Rewind Io))}
    (answered : answers state first left)
    (other : answers state second right) :
    first = second ∧ left = right := by
  simpa using Except.ok.inj (answered.symm.trans other)

/-! ## One poll -/

@[simp]
theorem filled_readBuf (self : ReadVersion Io) :
    self.readBuf.filled = self.filled := by
  simp [readBuf, ReadBuf.advance, ReadBuf.uninit]

/-- A cancelled detection answers without touching its transport. -/
theorem poll_of_cancelled [Read Io] {self : ReadVersion Io}
    (cancelled : self.cancelled = true) :
    self.poll = .ok (.ready (.error (IoError.ofKind .interrupted)), self) := by
  rw [poll, if_pos cancelled]

theorem cancel_of_cancelled {self : ReadVersion Io}
    (cancelled : self.cancelled = true) : self.cancel = self := by
  cases self
  cases cancelled
  rfl

/-- The detection still owns `io` and has not received a byte. -/
structure Waiting (io : Io) (state : ReadVersion Io) : Prop where
  owned : state.io = some io
  unread : state.filled = 0
  undecided : state.version = .http2

theorem waiting_new (io : Io) : Waiting io (new io) :=
  ⟨rfl, rfl, rfl⟩

theorem Waiting.cancel {io : Io} {self : ReadVersion Io}
    (waiting : Waiting io self) : Waiting io self.cancel :=
  ⟨waiting.owned, waiting.unread, waiting.undecided⟩

theorem Waiting.pending {io next : Io} {self : ReadVersion Io}
    (waiting : Waiting io self) :
    Waiting next { self with io := some next } :=
  ⟨rfl, waiting.unread, waiting.undecided⟩

/-- The verdict after a first read that delivered `bytes`. -/
def verdict (bytes : List UInt8) : HttpProtocol :=
  if bytes = http2Prefix then .http2 else .http1

/-- One poll of a waiting detection, in terms of one read of 24 bytes. -/
inductive PollSpec [Read Io] (io : Io) (self : ReadVersion Io) :
    Poll (Except IoError (HttpProtocol × Rewind Io)) → ReadVersion Io → Prop
  | pending {next : Io} :
      Read.pollRead io 24 = (.pending, next) →
        PollSpec io self .pending { self with io := some next }
  | failed {next : Io} {error : IoError} :
      Read.pollRead io 24 = (.ready (.error error), next) →
        PollSpec io self (.ready (.error error)) { self with io := some next }
  | decided {next : Io} {chunk : Chunk 24} {after : ReadVersion Io} :
      Read.pollRead io 24 = (.ready (.ok chunk), next) →
        after.io = none →
          PollSpec io self
            (.ready (.ok (verdict chunk.val, Rewind.new next chunk.val)))
            after

private theorem finish_spec [Read Io] {io next : Io}
    {self state : ReadVersion Io} {chunk : Chunk 24} {buf : ReadBuf 24}
    (read : Read.pollRead io 24 = (.ready (.ok chunk), next))
    (delivered : buf.filledBytes = chunk.val)
    (owned : state.io = some next)
    (decided : state.version = verdict chunk.val) :
    ∃ answer after, finish state buf = .ok (answer, after) ∧
      PollSpec io self answer after := by
  refine ⟨_, { state with io := none }, ?_, PollSpec.decided read rfl⟩
  rw [finish, owned, unwrap_some, delivered, decided]
  rfl

private theorem readLoop_full [Read Io] (self : ReadVersion Io)
    {buf : ReadBuf 24} (full : buf.filled = 24) :
    self.readLoop buf = finish self buf := by
  rw [readLoop, if_neg (by simp [full])]

/-- Everything the loop can do before the first byte has been received. -/
theorem readLoop_spec [Read Io] {io : Io} {self : ReadVersion Io}
    {buf : ReadBuf 24} (waiting : Waiting io self) (empty : buf.filled = 0) :
    ∃ answer after, self.readLoop buf = .ok (answer, after) ∧
      PollSpec io self answer after := by
  have free : buf.remaining = 24 := by
    simp [ReadBuf.remaining, empty]
  have nothing : buf.filledBytes = [] :=
    List.length_eq_zero_iff.mp (by rw [ReadBuf.length_filledBytes, empty])
  rw [readLoop, if_pos (by rw [empty]; decide)]
  simp only [waiting.owned]
  rcases polled : buf.pollRead io with ⟨answer, next, after⟩
  rcases ReadBuf.pollRead_cases free polled with
    ⟨rfl, _, read⟩ | ⟨error, rfl, _, read⟩ | ⟨chunk, rfl, shape, read⟩
  · exact ⟨_, _, rfl, PollSpec.pending read⟩
  · exact ⟨_, _, rfl, PollSpec.failed read⟩
  · have delivered : after.filledBytes = chunk.val := by
      rw [shape, ReadBuf.filledBytes_putSlice, nothing, List.nil_append]
    have counted : after.filled = chunk.val.length := by
      rw [← delivered, ReadBuf.length_filledBytes]
    simp only [empty, List.drop_zero, delivered, ne_eq]
    split
    · rename_i atEnd
      have different : chunk.val ≠ http2Prefix := by
        intro equal
        rw [counted, equal] at atEnd
        cases atEnd
      exact finish_spec read delivered rfl (if_neg different).symm
    · by_cases matching : chunk.val = http2Prefix
      · have full : after.filled = 24 := by
          rw [counted, matching, length_http2Prefix]
        rw [if_neg (not_not_intro matching), readLoop_full _ full]
        exact finish_spec read delivered rfl
          (waiting.undecided.trans (if_pos matching).symm)
      · rw [if_pos matching]
        exact finish_spec read delivered rfl (if_neg matching).symm

/-- One poll of a detection that is waiting and not cancelled. -/
theorem poll_spec [Read Io] {io : Io} {self after : ReadVersion Io}
    {answer : Poll (Except IoError (HttpProtocol × Rewind Io))}
    (waiting : Waiting io self) (live : self.cancelled = false)
    (answered : answers self answer after) :
    PollSpec io self answer after := by
  obtain ⟨found, state, polled, spec⟩ :=
    readLoop_spec waiting ((filled_readBuf self).trans waiting.unread)
  have unfolded : self.poll = .ok (found, state) := by
    rw [poll, if_neg (by simp [live]), polled]
  obtain ⟨rfl, rfl⟩ := answers_deterministic unfolded answered
  exact spec

theorem poll_total [Read Io] {io : Io} {self : ReadVersion Io}
    (waiting : Waiting io self) :
    ∃ answer after, answers self answer after := by
  by_cases cancelled : self.cancelled = true
  · exact ⟨_, _, poll_of_cancelled cancelled⟩
  · obtain ⟨answer, after, polled, _⟩ :=
      readLoop_spec waiting ((filled_readBuf self).trans waiting.unread)
    exact ⟨answer, after, by rw [answers, poll, if_neg cancelled, polled]⟩

theorem Waiting.answers_pending [Read Io] {io next : Io}
    {self : ReadVersion Io} (waiting : Waiting io self)
    (live : self.cancelled = false)
    (read : Read.pollRead io 24 = (.pending, next)) :
    answers self .pending { self with io := some next } := by
  obtain ⟨answer, after, answered⟩ := poll_total waiting
  cases poll_spec waiting live answered with
  | pending other =>
      cases read.symm.trans other
      exact answered
  | failed other =>
      cases read.symm.trans other
  | decided other _ =>
      cases read.symm.trans other

theorem Waiting.answers_verdict [Read Io] {io next : Io}
    {chunk : Chunk 24} {self : ReadVersion Io} (waiting : Waiting io self)
    (live : self.cancelled = false)
    (read : Read.pollRead io 24 = (.ready (.ok chunk), next)) :
    ∃ after,
      answers self
        (.ready (.ok (verdict chunk.val, Rewind.new next chunk.val)))
        after := by
  obtain ⟨answer, after, answered⟩ := poll_total waiting
  cases poll_spec waiting live answered with
  | pending other =>
      cases read.symm.trans other
  | failed other =>
      cases read.symm.trans other
  | decided other _ =>
      cases read.symm.trans other
      exact ⟨after, answered⟩

theorem Waiting.of_answers [Read Io] {io : Io} {self after : ReadVersion Io}
    {answer : Poll (Except IoError (HttpProtocol × Rewind Io))}
    (waiting : Waiting io self) (answered : answers self answer after)
    (undecided : ∀ report, answer ≠ .ready (.ok report)) :
    ∃ next, Waiting next after := by
  by_cases cancelled : self.cancelled = true
  · obtain ⟨_, rfl⟩ :=
      answers_deterministic (poll_of_cancelled cancelled) answered
    exact ⟨io, waiting⟩
  · cases poll_spec waiting (by simpa using cancelled) answered with
    | pending _ =>
        exact ⟨_, waiting.pending⟩
    | failed _ =>
        exact ⟨_, waiting.pending⟩
    | decided _ _ =>
        exact (undecided _ rfl).elim

/-! ## A whole detection -/

/-- Until the detection completes it is waiting, and the transport it owns has
only answered `pending`. -/
theorem suspends_spec [Read Io] {io : Io} {state : ReadVersion Io}
    (suspends : Suspends answers (new io) state) :
    state.cancelled = false ∧
      ∃ current, Waiting current state ∧
        Suspends (readAnswers 24) io current := by
  refine suspends.invariant
    (fun state => state.cancelled = false ∧
      ∃ current, Waiting current state ∧
        Suspends (readAnswers 24) io current)
    ?_ ⟨rfl, io, waiting_new io, Relation.ReflTransGen.refl⟩
  rintro before after ⟨live, current, waiting, reached⟩ answered
  cases poll_spec waiting live answered with
  | pending read =>
      exact ⟨live, _, waiting.pending, reached.tail read⟩

/-- A completed detection has made one successful read of up to 24 bytes,
reports the verdict on what it delivered, and puts all of it back. -/
theorem completes_spec [Read Io] {io : Io} {final : ReadVersion Io}
    {version : HttpProtocol} {rewind : Rewind Io}
    (completes :
      Completes answers (new io) (.ok (version, rewind)) final) :
    ∃ chunk : Chunk 24,
      Completes (readAnswers 24) io (.ok chunk) rewind.inner ∧
        version = verdict chunk.val ∧
          rewind.prefixBytes = some chunk.val := by
  obtain ⟨last, suspends, ready⟩ := completes
  obtain ⟨live, current, waiting, reached⟩ := suspends_spec suspends
  cases poll_spec waiting live ready with
  | decided read _ =>
      exact ⟨_, ⟨current, reached, read⟩, rfl, rfl⟩

private theorem completes_of_waiting [Read Io] {io next : Io}
    {chunk : Chunk 24} {self : ReadVersion Io}
    (waiting : Waiting io self) (live : self.cancelled = false)
    (read : Completes (readAnswers 24) io (.ok chunk) next) :
    ∃ final,
      Completes answers self
        (.ok (verdict chunk.val, Rewind.new next chunk.val)) final := by
  obtain ⟨last, suspends, delivered⟩ := read
  induction suspends using Relation.ReflTransGen.head_induction_on
    generalizing self with
  | refl =>
      obtain ⟨after, answered⟩ := waiting.answers_verdict live delivered
      exact ⟨after, Completes.of_ready answered⟩
  | head suspended _ inductionHypothesis =>
      have answered := waiting.answers_pending live suspended
      obtain ⟨final, completes⟩ :=
        inductionHypothesis waiting.pending live
      exact ⟨final, Completes.of_pending answered completes⟩

theorem completes_of_first_read [Read Io] {io next : Io} {chunk : Chunk 24}
    (read : Completes (readAnswers 24) io (.ok chunk) next) :
    ∃ final,
      Completes answers (new io)
        (.ok (verdict chunk.val, Rewind.new next chunk.val)) final :=
  completes_of_waiting (waiting_new io) rfl read

end ReadVersion

end Server

end Hyperdriver
