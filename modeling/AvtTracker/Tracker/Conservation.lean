import AvtTracker.Foundation.FramingConservation
import AvtTracker.Tracker.FrameSplitter

/-!
# Byte conservation of the frame splitter

Whatever a connection sends and however it is cut, every received byte is
emitted in a frame, discarded while resynchronising, dropped with a buffer over
the limit, or still pending.
-/

namespace AvtTracker
namespace Tracker

open Foundation TrackerFrameSplitter

/--
What the splitter guarantees about one stretch of a run, given the bytes
received behind it.  A resync discard ends at the first terminator of a buffer
with no colon among its first eight bytes, and a dropped buffer is all that was
left when its push had extracted its frames.
-/
def Accounted (maxBufferBytes : Nat) (chunks : List Bytes)
    (pushes : List Push) (following : Bytes) : StreamSegment -> Prop
  | StreamSegment.frame bytes =>
      bytes.getLast? = some frameTerminator ∧
        exists colonIndex, colonIndex < 8 ∧
          indexOf bytes colon = some colonIndex ∧
          colonIndex + 1 + 3 ≤ bytes.length
  | StreamSegment.resync buffer length =>
      (exists terminatorIndex,
        indexOf buffer frameTerminator = some terminatorIndex ∧
          length = terminatorIndex + 1) ∧
        8 ≤ buffer.length ∧ (forall j, j < 8 -> buffer[j]? ≠ some colon) ∧
        buffer.drop length <+: following
  | StreamSegment.dropped k bytes =>
      pushes[k]?.map Push.overflowed = some true ∧
        maxBufferBytes < bytes.length ∧
        following = (chunks.drop (k + 1)).flatten

theorem accounted_of_legal {maxBufferBytes : Nat} {chunks : List Bytes}
    {pushes : List Push} {following : Bytes} {s : StreamSegment}
    (h : s.Legal trackerFraming maxBufferBytes chunks pushes following) :
    Accounted maxBufferBytes chunks pushes following s := by
  cases s with
  | frame bytes =>
      rcases h with ⟨buffer, n, hres, _, rfl⟩
      exact (take_of_complete hres).right
  | resync buffer length =>
      rcases h with ⟨hres, hidx, hfollow⟩
      rcases resolveFrameLength_desync hres with ⟨hlen, hcolon⟩
      exact ⟨hidx, hlen, hcolon, hfollow⟩
  | dropped k bytes => exact h

/--
Every run of a fresh splitter splits the bytes it received into accounted
segments, the emitted ones being the returned frames in order, followed by the
bytes still pending.
-/
theorem pushChunks_conserves (maxBufferBytes : Nat) (chunks : List Bytes) :
    exists log : List StreamSegment,
      chunks.flatten = log.flatMap StreamSegment.bytes ++
        (pushChunks { maxBufferBytes := maxBufferBytes } chunks).2.buffer ∧
      log.filterMap StreamSegment.emitted? =
        framesOf (pushChunks { maxBufferBytes := maxBufferBytes } chunks).1 ∧
      forall pre s post, log = pre ++ s :: post ->
        Accounted maxBufferBytes chunks
          (pushChunks { maxBufferBytes := maxBufferBytes } chunks).1
          (post.flatMap StreamSegment.bytes ++
            (pushChunks { maxBufferBytes := maxBufferBytes } chunks).2.buffer)
          s := by
  rcases exists_log trackerFraming maxBufferBytes chunks with
    ⟨log, hbytes, hframes, hlegal⟩
  rw [pushChunks_eq]
  refine ⟨log, hbytes, hframes, ?_⟩
  intro pre s post hlog
  subst hlog
  exact accounted_of_legal hlegal.at

end Tracker
end AvtTracker
