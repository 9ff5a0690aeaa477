import AvtTracker.Foundation.FramingQueries
import AvtTracker.Tracker.Envelope
import AvtTracker.Tracker.FrameSplitter

/-!
# Agreement of the splitter and the parser

The parser needs all fixed-size fields of a frame.  The search for the
terminator leaves room for them, but a declared length that lands on a
terminator is trusted however short it is.  So the parser accepts every frame of
a run exactly when the splitter meets no such length.
-/

namespace AvtTracker
namespace Tracker

open Foundation TrackerFrameSplitter

/-- A frame the parser does not throw on, which does not end before its Length
field, IMEI, device id, generated time and serial number are complete. -/
structure Parseable (frame : Bytes) : Prop where
  parses : exists parsed, parseFrame frame = Except.ok parsed
  fixedFields_complete : exists colonIndex,
    indexOf frame colon = some colonIndex ∧
      colonIndex + 1 + lengthFieldBytes + minimumTrailingFixedBytes <
        frame.length

/-- The buffer starts with a head token and a Length field that is too small for
the fixed-size fields, and the declared end of the frame holds a terminator. -/
def DeclaresTooShort (buffer : Bytes) : Prop :=
  exists colonIndex, colonIndex < 8 ∧
    indexOf buffer colon = some colonIndex ∧
    readUInt16BE buffer (colonIndex + 1) < minimumTrailingFixedBytes ∧
    buffer[colonIndex + 1 + lengthFieldBytes +
      readUInt16BE buffer (colonIndex + 1)]? = some frameTerminator

/-!
## One frame
-/

/-- The parser accepts a terminated frame exactly when it has room for the
fixed-size fields. -/
theorem parseable_iff {frame : Bytes} {colonIndex : Nat}
    (hlast : frame.getLast? = some frameTerminator)
    (hcolon : indexOf frame colon = some colonIndex) (hhead : colonIndex < 8) :
    Parseable frame <->
      colonIndex + 1 + lengthFieldBytes + minimumTrailingFixedBytes <
        frame.length := by
  have hbinary : (binarySection frame (colonIndex + 1)).length =
      frame.length - 1 - (colonIndex + 1) := by
    have hlast' : frame.getLast? = some 0x23 := hlast
    unfold binarySection
    rw [if_pos hlast', List.length_drop, List.length_take]
    lia
  constructor
  · intro h
    rcases h.fixedFields_complete with ⟨c, hc, hlong⟩
    have hsame : c = colonIndex := by
      rw [hcolon] at hc
      exact (Option.some.inj hc).symm
    rw [hsame] at hlong
    exact hlong
  · intro hlong
    refine ⟨parseFrame_accepts_iff.mpr ⟨colonIndex, hcolon, ?_, ?_⟩,
      colonIndex, hcolon, hlong⟩
    · lia
    · simp only [lengthFieldBytes, minimumTrailingFixedBytes] at hlong
      lia

/-- The frame at the start of a buffer has room for the fixed-size fields unless
the buffer declares it too short. -/
theorem complete_fits_iff {buffer : Bytes} {colonIndex n : Nat}
    (hcolon : indexOf buffer colon = some colonIndex) (hhead : colonIndex < 8)
    (hres : resolveFrameLength buffer = Boundary.complete n) :
    colonIndex + 1 + lengthFieldBytes + minimumTrailingFixedBytes < n <->
      ¬ DeclaresTooShort buffer := by
  rw [resolveFrameLength_of_colon hcolon hhead] at hres
  rcases ite_eq_iff.mp hres with ⟨_, hn⟩ | ⟨_, hres⟩
  · cases hn
  constructor
  · rintro hlong ⟨c, _, hc, hshort, hhit⟩
    have hsame : c = colonIndex := by
      rw [hcolon] at hc
      exact (Option.some.inj hc).symm
    subst hsame
    rw [resolveDeclaredLength_of_hit hhit] at hres
    injection hres with hn
    lia
  · intro hnot
    rcases resolveDeclaredLength_verdict buffer (colonIndex + 1) with
      ⟨hhit, hcomplete⟩ | ⟨_, ⟨i, hidx, hcomplete⟩ | ⟨_, hwait⟩⟩
    · rw [hres] at hcomplete
      injection hcomplete with hn
      have hlong : ¬ readUInt16BE buffer (colonIndex + 1) <
          minimumTrailingFixedBytes := by
        intro hshort
        exact hnot ⟨colonIndex, hhead, hcolon, hshort, hhit⟩
      lia
    · rw [hres] at hcomplete
      injection hcomplete with hn
      have hle := (indexOfFrom_eq_some_iff.mp hidx).left
      lia
    · rw [hres] at hwait
      cases hwait

theorem completes_of_declaresTooShort {buffer : Bytes}
    (h : DeclaresTooShort buffer) :
    exists frame, Completes trackerFraming buffer frame := by
  rcases h with ⟨colonIndex, hhead, hcolon, _, hhit⟩
  have hlt := lt_length_of_getElem?_eq_some hhit
  refine ⟨_, _, ?_, hlt, rfl⟩
  rw [trackerFraming_resolve, resolveFrameLength_of_colon hcolon hhead,
    if_neg (by lia)]
  exact resolveDeclaredLength_of_hit hhit

theorem parseable_of_completes_iff {buffer frame : Bytes}
    (h : Completes trackerFraming buffer frame) :
    Parseable frame <-> ¬ DeclaresTooShort buffer := by
  rcases h with ⟨n, hres, hn, rfl⟩
  rcases take_of_complete hres with ⟨hlen, hlast, c, hhead, hcolon, _⟩
  have hbuffer := indexOf_of_isPrefix (List.take_prefix n buffer) hcolon
  rw [parseable_iff hlast hcolon hhead, hlen]
  exact complete_fits_iff hbuffer hhead hres

/-!
## Runs of pushes
-/

/-- All frames a run of pushes returns are parseable exactly when no buffer the
extraction loop looks at declares its first frame too short. -/
theorem frames_parseable_iff (s : TrackerFrameSplitter) (chunks : List Bytes) :
    (forall frame, frame ∈ framesOf (s.pushChunks chunks).1 ->
        Parseable frame) <->
      forall buffer,
        AsksOver trackerFraming s.maxBufferBytes s.buffer chunks buffer ->
          ¬ DeclaresTooShort buffer := by
  rw [pushChunks_eq, forall_framesOf_iff]
  constructor
  · intro h buffer hasks hshort
    rcases completes_of_declaresTooShort hshort with ⟨frame, hcompletes⟩
    exact (parseable_of_completes_iff hcompletes).mp
      (h buffer hasks frame hcompletes) hshort
  · intro h buffer hasks frame hcompletes
    exact (parseable_of_completes_iff hcompletes).mpr (h buffer hasks)

/-- A head token, a Length field of zero, and a terminator. -/
def emptyFrame : Bytes :=
  [0x2b, 0x52, 0x50, 0x54, 0x3a, 0, 0, 0x23]

/-- The splitter returns it as a frame, and the parser throws on it. -/
theorem emptyFrame_rejected :
    framesOf (TrackerFrameSplitter.pushChunks {} [emptyFrame]).1 =
      [emptyFrame] ∧
    parseFrame emptyFrame = Except.error
      "Truncated frame: needed 8 more byte(s) at offset 2, only 0 available" ∧
    ¬ Parseable emptyFrame := by
  have hthrows : parseFrame emptyFrame = Except.error
      "Truncated frame: needed 8 more byte(s) at offset 2, only 0 available" :=
    rfl
  refine ⟨by decide, hthrows, ?_⟩
  intro h
  rcases h.parses with ⟨parsed, hparsed⟩
  rw [hthrows] at hparsed
  cases hparsed

end Tracker
end AvtTracker
