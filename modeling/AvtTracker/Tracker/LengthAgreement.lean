import AvtTracker.Tracker.FrameAgreement
import AvtTracker.Tracker.FrameParts

/-!
# Frames that lied about their length

The splitter distrusts a declared length that does not land on a terminator and
searches for the end of the frame instead; the parser warns when the declared
length is not the one it counts.  Both read the same head token, and they distrust
the same frames.
-/

namespace AvtTracker
namespace Tracker

open Foundation TrackerFrameSplitter

/-!
## The two ways to find the end
-/

/-- Where the frame ends by its declared length. -/
def declaredFrameLength (buffer : Bytes) (headTokenLength : Nat) : Nat :=
  headTokenLength + lengthFieldBytes + readUInt16BE buffer headTokenLength + 1

/-- The declared end holds a terminator, so the splitter trusts it. -/
def LandsOnTerminator (buffer : Bytes) (headTokenLength : Nat) : Prop :=
  declaredFrameLength buffer headTokenLength ≤ buffer.length ∧
    buffer[declaredFrameLength buffer headTokenLength - 1]? =
      some frameTerminator

/-- The frame ends at the first terminator behind its fixed-size fields, because
its declared length was not trusted. -/
def EndsBySearch (buffer : Bytes) (headTokenLength n : Nat) : Prop :=
  ¬ LandsOnTerminator buffer headTokenLength ∧
    exists terminatorIndex, n = terminatorIndex + 1 ∧
      indexOfFrom buffer frameTerminator
        (headTokenLength + lengthFieldBytes + minimumTrailingFixedBytes) =
        some terminatorIndex

section Verdict

variable {buffer : Bytes} {headTokenLength n : Nat}

/-- A complete frame ends where it declares to, or where the search finds a
terminator. -/
theorem resolveDeclaredLength_cases
    (h : resolveDeclaredLength buffer headTokenLength = Boundary.complete n) :
    (LandsOnTerminator buffer headTokenLength ∧
        n = declaredFrameLength buffer headTokenLength) ∨
      EndsBySearch buffer headTokenLength n := by
  rcases resolveDeclaredLength_verdict buffer headTokenLength with
    ⟨hhit, hcomplete⟩ | ⟨hmiss, ⟨terminatorIndex, hidx, hcomplete⟩ | ⟨_, hwait⟩⟩
  · rw [h] at hcomplete
    injection hcomplete with hn
    exact Or.inl ⟨⟨lt_length_of_getElem?_eq_some hhit, hhit⟩, hn⟩
  · rw [h] at hcomplete
    injection hcomplete with hn
    exact Or.inr ⟨fun hlands => hmiss hlands.right, terminatorIndex, hn, hidx⟩
  · rw [h] at hwait
    cases hwait

theorem endsBySearch_iff
    (h : resolveDeclaredLength buffer headTokenLength = Boundary.complete n) :
    EndsBySearch buffer headTokenLength n <->
      n ≠ declaredFrameLength buffer headTokenLength := by
  constructor
  · intro hsearch hn
    have hend := (resolveDeclaredLength_complete h).right
    rw [hn] at hend
    exact hsearch.left hend
  · intro hn
    cases resolveDeclaredLength_cases h with
    | inl hlands => exact absurd hlands.right hn
    | inr hsearch => exact hsearch

end Verdict

/-!
## Frames of a run
-/

/-- The splitter returned the frame because it found it complete in the
buffer. -/
def ReturnedFrom (s : TrackerFrameSplitter) (chunks : List Bytes)
    (buffer frame : Bytes) : Prop :=
  AsksOver trackerFraming s.maxBufferBytes s.buffer chunks buffer ∧
    Completes trackerFraming buffer frame

/-- The splitter and the parser read one head token, which ends at the index, and
the parser warns about the declared length when the splitter distrusted it. -/
structure AgreeOn (buffer frame : Bytes) (parsed : ParsedTrackerFrame)
    (colonIndex : Nat) : Prop where
  splitter : indexOf (buffer.take (min buffer.length maxHeadTokenSearchBytes))
    colon = some colonIndex
  parser : readHeadToken frame = Except.ok (buffer.take (colonIndex + 1))
  headToken :
    parsed.header.headToken = asciiText (buffer.take (colonIndex + 1))
  declaredLength :
    (exists declared expected,
        Warning.declaredLengthMismatch declared expected ∈ parsed.warnings) <->
      EndsBySearch buffer (colonIndex + 1) frame.length

section Agreement

variable {buffer frame : Bytes} {colonIndex n : Nat}

theorem readHeadToken_of_indexOf
    (hcolon : indexOf frame 0x3a = some colonIndex) (hhead : colonIndex ≤ 7) :
    readHeadToken frame = Except.ok (frame.take (colonIndex + 1)) := by
  unfold readHeadToken
  rw [hcolon]
  exact if_neg (by lia)

theorem beNat_binarySection (h : colonIndex + 3 ≤ bodyEnd frame) :
    beNat ((binarySection frame (colonIndex + 1)).take 2) =
      readUInt16BE frame (colonIndex + 1) := by
  show beNat (((frame.take (bodyEnd frame)).drop (colonIndex + 1)).take 2) =
    beNat ((frame.drop (colonIndex + 1)).take 2)
  rw [List.drop_take, List.take_take, Nat.min_eq_left (by lia)]

theorem agreeOn_of_completes {parsed : ParsedTrackerFrame}
    (h : Completes trackerFraming buffer frame)
    (hparsed : parseFrame frame = Except.ok parsed) :
    exists colonIndex, AgreeOn buffer frame parsed colonIndex := by
  rcases h with ⟨n, hres, hn, rfl⟩
  rcases take_of_complete hres with ⟨hlen, hlast, c, hhead, hcolon, _⟩
  rcases exists_envelopeAt_of_parseFrame hparsed with ⟨c', henvelope⟩
  have hsame : c' = c := by
    have hcolon' := henvelope.left
    rw [show indexOf (buffer.take n) 0x3a = some c from hcolon] at hcolon'
    exact (Option.some.inj hcolon').symm
  subst hsame
  have hprefix := List.take_prefix n buffer
  have hbuffer := indexOf_of_isPrefix hprefix hcolon
  have hfixed := henvelope.right.right
  have hbody : bodyEnd (buffer.take n) = n - 1 := by
    have hterminator : (buffer.take n).getLast? = some 0x23 := hlast
    rw [bodyEnd, if_pos hterminator, hlen]
  rw [binarySection_length, hbody] at hfixed
  have htoken : (buffer.take n).take (c' + 1) = buffer.take (c' + 1) := by
    rw [List.take_take, Nat.min_eq_left (by lia)]
  have hwait := resolveFrameLength_of_colon hbuffer hhead
  rw [trackerFraming_resolve, hwait] at hres
  rcases ite_eq_iff.mp hres with ⟨_, hc⟩ | ⟨_, hdeclared⟩
  · cases hc
  exists c'
  constructor
  · exact indexOf_window hbuffer hhead
  · rw [← htoken]
    exact readHeadToken_of_indexOf hcolon (by lia)
  · rw [parseFrame_header hparsed henvelope, ← htoken]
    rfl
  · rw [declaredLengthMismatch_mem_iff hparsed henvelope, hlen,
      endsBySearch_iff hdeclared, beNat_binarySection (by lia),
      readUInt16BE_of_isPrefix hprefix (by lia), binarySection_length, hbody]
    simp only [declaredFrameLength, lengthFieldBytes]
    lia

end Agreement

/-- For every frame a run of pushes returns and the parser does not throw on. -/
theorem declaredLengthMismatch_iff_search (s : TrackerFrameSplitter)
    (chunks : List Bytes) {frame : Bytes}
    (hframe : frame ∈ framesOf (s.pushChunks chunks).1) :
    (exists buffer, ReturnedFrom s chunks buffer frame) ∧
      forall buffer, ReturnedFrom s chunks buffer frame ->
        forall parsed, parseFrame frame = Except.ok parsed ->
          exists colonIndex, AgreeOn buffer frame parsed colonIndex := by
  constructor
  · rw [pushChunks_eq] at hframe
    exact (mem_framesOf_iff chunks s.buffer).mp hframe
  · intro buffer hreturned parsed hparsed
    exact agreeOn_of_completes hreturned.right hparsed

/-- A report without a data zone that declares 65535 bytes. -/
def overstatedFrame : Bytes :=
  [0x2b, 0x52, 0x50, 0x54, 0x3a, 0xff, 0xff] ++ List.replicate 18 0 ++ [0x23]

/-- It is returned, parsed, and distrusted by both. -/
theorem declaredLengthMismatch_iff_search_overstated :
    exists buffer parsed colonIndex,
      ReturnedFrom {} [overstatedFrame] buffer overstatedFrame ∧
        parseFrame overstatedFrame = Except.ok parsed ∧
          AgreeOn buffer overstatedFrame parsed colonIndex := by
  have hframe : overstatedFrame ∈
      framesOf (pushChunks {} [overstatedFrame]).1 := by
    decide
  have henvelope : EnvelopeAt overstatedFrame 4 := by
    unfold EnvelopeAt
    decide
  rcases parseFrame_accepts_iff.mpr ⟨4, henvelope⟩ with ⟨parsed, hparsed⟩
  rcases declaredLengthMismatch_iff_search {} [overstatedFrame] hframe with
    ⟨⟨buffer, hreturned⟩, hagree⟩
  rcases hagree buffer hreturned parsed hparsed with ⟨colonIndex, h⟩
  exact ⟨buffer, parsed, colonIndex, hreturned, hparsed, h⟩

end Tracker
end AvtTracker
