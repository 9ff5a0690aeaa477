import AvtTracker.Tracker.BuiltFrames
import AvtTracker.Tracker.ParserTypes

/-!
# Resynchronisation

Bytes that cannot start a frame are discarded up to the next terminator.  The
splitter looks for a head token among the first eight bytes, though, and behind
short garbage these reach into the frame that follows: its colon is found, and
garbage, terminator and frame come out as one.
-/

namespace AvtTracker
namespace Tracker

open Foundation TrackerFrameSplitter

section Garbage

variable {garbage : Bytes} {f : WireFrame} {rest : List WireFrame}

/-- What is pushed: garbage, a terminator, and frames. -/
def garbled (garbage : Bytes) (frames : List WireFrame) : Bytes :=
  garbage ++ frameTerminator :: stream frames

/-!
## Garbage that is discarded
-/

theorem indexOf_garbled (hterminator : frameTerminator ∉ garbage)
    (frames : List WireFrame) :
    indexOf (garbled garbage frames) frameTerminator =
      some garbage.length :=
  indexOf_append_cons hterminator

theorem getElem?_garbled_ne_colon (hcolon : colon ∉ garbage) {j : Nat}
    (hj : j < garbage.length + f.headLength) :
    (garbled garbage (f :: rest))[j]? ≠ some colon := by
  intro hval
  by_cases hlt : j < garbage.length
  · rw [garbled, List.getElem?_append_left hlt] at hval
    exact hcolon (List.mem_of_getElem? hval)
  · rw [garbled, List.getElem?_append_right (Nat.not_lt.mp hlt)] at hval
    cases hk : j - garbage.length with
    | zero =>
        rw [hk] at hval
        cases hval
    | succ k =>
        have hname : k < f.headName.length := by
          simp only [WireFrame.headLength] at hj
          lia
        rw [hk, List.getElem?_cons_succ, stream_cons,
          WireFrame.getElem?_headName hname] at hval
        exact f.headName_colon colon (List.mem_of_getElem? hval) rfl

/-- Long garbage hides the colon of the first frame from the splitter. -/
theorem resolve_garbled_long (hcolon : colon ∉ garbage)
    (hlong : 8 ≤ garbage.length + f.headLength) :
    resolveFrameLength (garbled garbage (f :: rest)) = Boundary.desync := by
  apply resolveFrameLength_of_no_colon
  · simp only [garbled, stream_cons, List.length_append, List.length_cons,
      WireFrame.bytes_length]
    lia
  · intro j hj
    exact getElem?_garbled_ne_colon hcolon (by lia)

/-- Behind the garbage the splitter is at the start of the frames. -/
theorem drain_garbled_of_desync {frames : List WireFrame}
    (hterminator : frameTerminator ∉ garbage)
    (htruthful : forall f, f ∈ frames -> f.Truthful)
    (hres : resolveFrameLength (garbled garbage frames) = Boundary.desync) :
    (drain trackerFraming (garbled garbage frames)).1 =
      frames.map WireFrame.bytes := by
  have hdrop : (garbled garbage frames).drop (garbage.length + 1) =
      stream frames := by
    rw [garbled, ← List.drop_drop, List.drop_left]
    rfl
  rw [drain_desync hres (indexOf_garbled hterminator frames), hdrop,
    drain_stream_of_truthful frames htruthful]

/-!
## Garbage that is swallowed
-/

theorem swallowed_length (hshort : garbage.length + f.headLength < 8) :
    (garbage ++ frameTerminator :: f.headName).length ≤ 7 := by
  simp only [WireFrame.headLength] at hshort
  simp only [List.length_append, List.length_cons]
  lia

theorem swallowed_colon (hcolon : colon ∉ garbage) :
    forall b, b ∈ garbage ++ frameTerminator :: f.headName -> b ≠ colon := by
  intro b hb
  rcases List.mem_append.mp hb with hb | hb
  · rintro rfl
    exact hcolon hb
  · rcases List.mem_cons.mp hb with rfl | hb
    · decide
    · exact f.headName_colon b hb

/-- Garbage and a terminator in front of a frame, taken for its head token. -/
def swallowed (garbage : Bytes) (f : WireFrame) (hcolon : colon ∉ garbage)
    (hshort : garbage.length + f.headLength < 8) : WireFrame where
  headName := garbage ++ frameTerminator :: f.headName
  declaredLength := f.declaredLength
  body := f.body
  headName_length := swallowed_length hshort
  headName_colon := swallowed_colon hcolon
  declaredLength_lt := f.declaredLength_lt
  body_length := f.body_length

theorem drain_garbled_short (hcolon : colon ∉ garbage)
    (hshort : garbage.length + f.headLength < 8)
    (htruthful : forall g, g ∈ f :: rest -> g.Truthful) :
    (drain trackerFraming (garbled garbage (f :: rest))).1 =
      (garbage ++ frameTerminator :: f.bytes) :: rest.map WireFrame.bytes := by
  have hbytes : (swallowed garbage f hcolon hshort).bytes =
      garbage ++ frameTerminator :: f.bytes := by
    simp [swallowed, WireFrame.bytes]
  have hstream : garbled garbage (f :: rest) =
      stream (swallowed garbage f hcolon hshort :: rest) := by
    rw [stream_cons, hbytes, garbled, stream_cons]
    simp
  rw [hstream, drain_stream_of_truthful, List.map_cons, hbytes]
  intro g hg
  rcases List.mem_cons.mp hg with rfl | hg
  · exact htruthful f List.mem_cons_self
  · exact htruthful g (List.mem_cons_of_mem f hg)

/-!
## Frames behind garbage
-/

theorem drain_garbled_nil (hcolon : colon ∉ garbage)
    (hterminator : frameTerminator ∉ garbage) :
    (drain trackerFraming (garbled garbage [])).1 = [] := by
  cases hres : resolveFrameLength (garbled garbage []) with
  | wait => rw [drain_wait hres]
  | desync =>
      apply drain_garbled_of_desync hterminator _ hres
      intro f hf
      cases hf
  | complete n =>
      rcases resolveFrameLength_complete hres with ⟨c, _, hval, _⟩
      cases List.mem_append.mp (List.mem_of_getElem? hval) with
      | inl hmem => exact absurd hmem hcolon
      | inr hmem => cases List.mem_singleton.mp hmem

/-- No frame is lost exactly when the garbage is long enough to hide the first
one from the search for a head token. -/
theorem drain_garbled_iff {frames : List WireFrame} (hcolon : colon ∉ garbage)
    (hterminator : frameTerminator ∉ garbage)
    (htruthful : forall f, f ∈ frames -> f.Truthful) :
    (drain trackerFraming (garbled garbage frames)).1 =
        frames.map WireFrame.bytes <->
      forall f, frames.head? = some f ->
        8 ≤ garbage.length + f.headLength := by
  cases frames with
  | nil =>
      rw [drain_garbled_nil hcolon hterminator]
      simp
  | cons f rest =>
      constructor
      · intro h g hg
        cases Option.some.inj hg
        apply Nat.not_lt.mp
        intro hshort
        rw [drain_garbled_short hcolon hshort htruthful, List.map_cons] at h
        have hlen := congrArg List.length (List.cons.inj h).left
        simp only [List.length_append, List.length_cons] at hlen
        lia
      · intro h
        have hlong := h f rfl
        exact drain_garbled_of_desync hterminator htruthful
          (resolve_garbled_long hcolon hlong)

end Garbage

/-- A built frame of a known kind with the right Length field. -/
structure GoodFrame (f : BuiltFrame) : Prop where
  known_head : exists kind, kind ∈ TrackerFrameKind.known ∧
    f.options.head = kind.token ++ ":"
  truthful : f.options.declaredLength = f.options.actualLength

/-- Good frames behind garbage come out exactly if there are none, or the garbage
and the first head token make up eight bytes. -/
theorem push_resync_iff (garbage : Bytes) (frames : List BuiltFrame)
    (maxBufferBytes : Nat) (hcolon : 0x3a ∉ garbage)
    (hterminator : 0x23 ∉ garbage)
    (hgood : forall f, f ∈ frames -> GoodFrame f) :
    (push { maxBufferBytes := maxBufferBytes } (garbage ++
        0x23 :: (frames.map BuiltFrame.bytes).flatten)).1.frames =
        frames.map BuiltFrame.bytes <->
      frames = [] ∨ exists f, frames.head? = some f ∧
        8 ≤ garbage.length + f.options.head.toList.length := by
  have hbytes : (frames.map BuiltFrame.wire).map WireFrame.bytes =
      frames.map BuiltFrame.bytes := by
    rw [List.map_map]
    exact List.map_congr_left (fun f _ => f.wire_bytes)
  have htruthful : forall w, w ∈ frames.map BuiltFrame.wire ->
      w.Truthful := by
    intro w hw
    rcases List.mem_map.mp hw with ⟨f, hf, rfl⟩
    exact f.wire_truthful_iff.mpr (hgood f hf).truthful
  have hdrain := drain_garbled_iff hcolon hterminator htruthful
  rw [garbled, stream, hbytes] at hdrain
  have hframes : (push { maxBufferBytes := maxBufferBytes } (garbage ++
      0x23 :: (frames.map BuiltFrame.bytes).flatten)).1.frames =
      (drain trackerFraming (garbage ++ frameTerminator ::
        (frames.map BuiltFrame.bytes).flatten)).1 := push_frames [] _
  rw [hframes, hdrain]
  cases frames with
  | nil => simp
  | cons f rest =>
      have hlen : f.wire.headLength = f.options.head.toList.length :=
        f.wire_headLength
      simp [hlen]

def goodHeartbeat : BuiltFrame where
  options :=
    { head := "+HBD:"
      imei := "356938035643809"
      dataZone := [11, 1]
      generatedAt := { time := some 1783398896000 }
      serialNumber := 7 }
  bytes := [0x2b, 0x48, 0x42, 0x44, 0x3a, 0, 20, 35, 69, 38, 3, 56, 43, 80, 9,
    0x20, 11, 1, 0x07, 0xea, 7, 7, 4, 34, 56, 0, 7, 0x23]
  head_token := by decide
  built := by decide

theorem goodHeartbeat_good : GoodFrame goodHeartbeat where
  known_head := ⟨TrackerFrameKind.hbd, by decide, rfl⟩
  truthful := rfl

/-- Ten bytes of garbage are discarded. -/
theorem push_resync_iff_heartbeat :
    (push { maxBufferBytes := 1024 } (List.replicate 10 0x58 ++
        0x23 :: ([goodHeartbeat].map BuiltFrame.bytes).flatten)).1.frames =
        [goodHeartbeat].map BuiltFrame.bytes <->
      [goodHeartbeat] = [] ∨ exists f, [goodHeartbeat].head? = some f ∧
        8 ≤ (List.replicate 10 (0x58 : UInt8)).length +
          f.options.head.toList.length :=
  push_resync_iff (List.replicate 10 0x58) [goodHeartbeat] 1024 (by decide)
    (by decide) (by
      intro f hf
      rw [List.mem_singleton.mp hf]
      exact goodHeartbeat_good)

/-- A lone terminator in front of a good frame is returned as part of it. -/
theorem push_resync_fails :
    ¬ forall (garbage : Bytes) (frames : List BuiltFrame),
      0x3a ∉ garbage -> 0x23 ∉ garbage ->
        (forall f, f ∈ frames -> GoodFrame f) ->
          (push {} (garbage ++
            0x23 :: (frames.map BuiltFrame.bytes).flatten)).1.frames =
            frames.map BuiltFrame.bytes := by
  intro h
  have hreturned := h [] [goodHeartbeat] (by decide) (by decide) (by
    intro f hf
    rw [List.mem_singleton.mp hf]
    exact goodHeartbeat_good)
  revert hreturned
  decide

end Tracker
end AvtTracker
