import Hyperdriver.Server.ReadVersion

/-!
# What protocol sniffing delivers

The verdict of the version detection as a function of the stream and of the way
the transport delivers it, and the stream that the rewound transport delivers
afterwards.
-/

namespace Hyperdriver

open Foundation
open Stream' (Seq)

universe u v

namespace Server

namespace ReadVersion

/-! ## The verdict -/

/-- The first read of up to 24 bytes that the transport completes delivers all
24. -/
def WholeFirstRead {Io : Type u} [Read Io] (io : Io) : Prop :=
  ∃ chunk : Chunk 24, FirstRead io 24 chunk ∧ chunk.val.length = 24

/-- The verdict is `http2` exactly when the stream starts with the preface and
the first read delivers all of it. -/
theorem version_eq_http2_iff {Io : Type u} [ByteSource Io]
    {io : Io} {version : HttpProtocol} {rewind : Rewind Io}
    {final : ReadVersion Io}
    (completes :
      Completes answers (new io) (.ok (version, rewind)) final) :
    version = .http2 ↔
      StartsWith http2Prefix (ByteSource.rest io) ∧ WholeFirstRead io := by
  obtain ⟨chunk, read, rfl, _⟩ := completes_spec completes
  have split := rest_of_completes read
  have startsChunk : StartsWith chunk.val (ByteSource.rest io) :=
    ⟨_, split⟩
  unfold verdict
  constructor
  · intro decided
    have matching : chunk.val = http2Prefix := by
      by_contra different
      rw [if_neg different] at decided
      cases decided
    refine ⟨matching ▸ startsChunk, chunk, ⟨_, read⟩, ?_⟩
    rw [matching, length_http2Prefix]
  · rintro ⟨startsPrefix, whole, first, length⟩
    obtain rfl := first.unique ⟨_, read⟩
    have sameLength : whole.val.length = http2Prefix.length := by
      rw [length, length_http2Prefix]
    have isPrefix : whole.val <+: http2Prefix :=
      startsChunk.prefix_of_length_le startsPrefix sameLength.le
    have matching : whole.val = http2Prefix :=
      isPrefix.eq_of_length sameLength
    exact if_pos matching

/-- The verdict is right for the stream exactly when a stream that starts with
the preface is delivered with a first read that holds all of it, and two
deliveries of one stream get the same verdict exactly when, for such a stream,
both or neither are delivered so. -/
theorem verdict_correct_iff {Left : Type u} {Right : Type v}
    [ByteSource Left] [ByteSource Right] (left : Left) (right : Right)
    (leftVersion rightVersion : HttpProtocol)
    (leftRewind : Rewind Left) (rightRewind : Rewind Right)
    (leftFinal : ReadVersion Left) (rightFinal : ReadVersion Right)
    (leftCompletes :
      Completes answers (new left) (.ok (leftVersion, leftRewind)) leftFinal)
    (rightCompletes :
      Completes answers (new right) (.ok (rightVersion, rightRewind))
        rightFinal) :
    ((leftVersion = .http2 ↔
        StartsWith http2Prefix (ByteSource.rest left)) ↔
      (StartsWith http2Prefix (ByteSource.rest left) →
        WholeFirstRead left)) ∧
    (ByteSource.rest left = ByteSource.rest right →
      (leftVersion = rightVersion ↔
        (StartsWith http2Prefix (ByteSource.rest left) →
          (WholeFirstRead left ↔ WholeFirstRead right)))) := by
  have leftIff := version_eq_http2_iff leftCompletes
  have rightIff := version_eq_http2_iff rightCompletes
  constructor
  · rw [leftIff]
    exact and_iff_left_iff_imp
  · intro sameStream
    rw [← sameStream] at rightIff
    have sameVersion :
        leftVersion = rightVersion ↔
          (leftVersion = .http2 ↔ rightVersion = .http2) := by
      cases leftVersion <;> cases rightVersion <;> simp
    rw [sameVersion, leftIff, rightIff]
    exact and_congr_right_iff

def splitPreface : ScriptedSource :=
  ⟨http2Prefix, [.upTo 2]⟩

def wholePreface : ScriptedSource :=
  ⟨http2Prefix, [.pending, .upTo 23]⟩

private theorem read_splitPreface :
    Completes (readAnswers 24) splitPreface
      (.ok ⟨[80, 82, 73], by decide⟩) ⟨http2Prefix.drop 3, []⟩ :=
  Completes.of_ready rfl

private theorem read_wholePreface :
    Completes (readAnswers 24) wholePreface
      (.ok ⟨http2Prefix, by decide⟩) ⟨[], []⟩ :=
  Completes.of_pending rfl (Completes.of_ready rfl)

/-- The preface is reported as HTTP/1 when it arrives in two reads and as
HTTP/2 when it arrives in one. -/
theorem split_preface_reported_http1 :
    StartsWith http2Prefix (ByteSource.rest splitPreface) ∧
      ByteSource.rest splitPreface = ByteSource.rest wholePreface ∧
        (∃ rewind final,
          Completes answers (new splitPreface) (.ok (.http1, rewind))
            final) ∧
          ∃ rewind final,
            Completes answers (new wholePreface) (.ok (.http2, rewind))
              final := by
  have starts : StartsWith http2Prefix (ByteSource.rest splitPreface) :=
    (startsWith_ofList_iff _ _).mpr (List.prefix_refl _)
  obtain ⟨splitFinal, splitCompletes⟩ :=
    completes_of_first_read read_splitPreface
  obtain ⟨wholeFinal, wholeCompletes⟩ :=
    completes_of_first_read read_wholePreface
  exact ⟨starts, rfl, ⟨_, splitFinal, splitCompletes⟩,
    ⟨_, wholeFinal, wholeCompletes⟩⟩

theorem verdict_correct_wholePreface :
    ∃ version rewind final,
      Completes answers (new wholePreface) (.ok (version, rewind)) final ∧
        (version = .http2 ↔
          StartsWith http2Prefix (ByteSource.rest wholePreface)) := by
  obtain ⟨final, completes⟩ := completes_of_first_read read_wholePreface
  have whole : WholeFirstRead wholePreface :=
    ⟨_, ⟨_, read_wholePreface⟩, by decide⟩
  have correct :=
    (verdict_correct_iff wholePreface wholePreface _ _ _ _ _ _ completes
      completes).1
  exact ⟨_, _, final, completes, correct.mpr fun _ => whole⟩

/-! ## Losslessness -/

/-- Sniffing loses nothing.  A detection that is still waiting has consumed
nothing; a completed one has consumed the at most 24 bytes it put back, and any
sequence of reads of the rewound transport delivers a prefix of the original
stream, which is the whole stream once a read that offers space delivers
nothing. -/
theorem sniffing_lossless {Io : Type u} [ByteSource Io] (io : Io) :
    (∀ state, Suspends answers (new io) state →
      ∃ current, state.io = some current ∧
        ByteSource.rest current = ByteSource.rest io) ∧
    ∀ version rewind final,
      Completes answers (new io) (.ok (version, rewind)) final →
        (∃ bytes : List UInt8, rewind.prefixBytes = some bytes ∧
          bytes.length ≤ 24 ∧
            ByteSource.rest io =
              (bytes : Seq UInt8).append
                (ByteSource.rest rewind.inner)) ∧
        ∀ capacities : List Nat,
          StartsWith (readAll rewind capacities).1 (ByteSource.rest io) ∧
            ∀ (capacity : Nat) (chunk : Chunk capacity)
                (next : Rewind Io),
              Read.pollRead (readAll rewind capacities).2 capacity =
                  (.ready (.ok chunk), next) →
                0 < capacity → chunk.val = [] →
                  ByteSource.rest io =
                    ((readAll rewind capacities).1 : Seq UInt8) := by
  constructor
  · intro state suspends
    obtain ⟨_, current, waiting, reached⟩ := suspends_spec suspends
    exact ⟨current, waiting.owned, rest_of_suspends reached⟩
  · intro version rewind final completes
    obtain ⟨chunk, read, _, putBack⟩ := completes_spec completes
    have split := rest_of_completes read
    have sameStream : ByteSource.rest rewind = ByteSource.rest io := by
      rw [split, Rewind.rest_of_prefixBytes putBack]
    refine ⟨⟨chunk.val, putBack, chunk.property, split⟩, ?_⟩
    intro capacities
    rw [← sameStream]
    refine ⟨startsWith_readAll rewind capacities, ?_⟩
    intro capacity delivered next answered space empty
    exact rest_eq_of_empty_read answered space empty

/-- The preface delivered in two reads comes out of the rewound transport whole,
whatever the sizes of the later reads. -/
theorem sniffing_lossless_splitPreface :
    ∃ version rewind final,
      Completes answers (new splitPreface) (.ok (version, rewind)) final ∧
        (readAll rewind [2, 0, 5, 40]).1 = http2Prefix ∧
          ByteSource.rest splitPreface =
            ((readAll rewind [2, 0, 5, 40]).1 : Seq UInt8) := by
  obtain ⟨final, completes⟩ := completes_of_first_read read_splitPreface
  have delivered :=
    (((sniffing_lossless splitPreface).2 _ _ _ completes).2
      [2, 0, 5, 40]).2 1 ⟨[], by decide⟩ _ rfl (by decide) rfl
  exact ⟨_, _, final, completes, by decide, delivered⟩

end ReadVersion

end Server

end Hyperdriver
