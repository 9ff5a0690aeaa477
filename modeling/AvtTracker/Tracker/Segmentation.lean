import AvtTracker.Tracker.WireFrame

/-!
# Segmentation of a stream of frames

A burst of frames reaches the splitter in chunks that TCP cuts anywhere.  This
module says for which streams and which cuts the pushes hand out exactly the
frames that were sent.  The splitter recognises every frame that is complete,
so all that can go wrong is a push that ends inside a frame: the splitter has
to wait there, and it does unless it finds a terminator byte behind the
fixed-size fields of the part it holds.
-/

namespace AvtTracker
namespace Tracker

open Foundation TrackerFrameSplitter WireFrame

/-- Every frame has a clear tail and a length that does no harm in front of the
frames behind it. -/
def Envelope : List WireFrame -> Prop
  | [] => True
  | f :: rest => f.ClearTail ∧ f.HarmlessLength rest ∧ Envelope rest

/-- No push ends inside a frame behind a terminator byte that lies past the
fixed-size fields of that frame. -/
def CutsClear (frames : List WireFrame) (chunks : List Bytes) : Prop :=
  forall done f rest pre post offset,
    frames = done ++ f :: rest -> chunks = pre ++ post ->
    pre.flatten.length = (stream done).length + offset ->
    offset < f.bytes.length ->
    forall j, f.searchStart ≤ j -> j < offset ->
      f.bytes[j]? ≠ some frameTerminator

variable {frames : List WireFrame} {chunks : List Bytes} {maxBufferBytes : Nat}

/-!
## Complete frames are recognised
-/

theorem recognizes_of_truthful
    (htruthful : forall f, f ∈ frames -> f.Truthful) :
    Recognizes trackerFraming (frames.map WireFrame.bytes) := by
  intro done b rest heq buf hwhole hbuf
  rcases List.map_eq_append_iff.mp heq with ⟨l1, l2, hframes, _, htail⟩
  rcases List.map_eq_cons_iff.mp htail with ⟨f, fs, hl2, rfl, rfl⟩
  have hmem : f ∈ frames := by
    rw [hframes, hl2]
    simp
  have hbuf' : buf <+: f.bytes ++ stream fs := hbuf
  exact resolve_truthful hbuf' hwhole.length_le (htruthful f hmem)

theorem HarmlessLength.miss {f : WireFrame} {rest : List WireFrame}
    {buf : Bytes} (hbuf : buf <+: stream (f :: rest))
    (hend : (stream (f :: rest))[f.declaredEnd]? ≠ some frameTerminator) :
    buf[f.declaredEnd]? ≠ some frameTerminator := by
  intro hval
  rw [getElem?_of_isPrefix hbuf (lt_length_of_getElem?_eq_some hval)] at hval
  exact hend hval

theorem Envelope.of_append {done rest : List WireFrame}
    (h : Envelope (done ++ rest)) : Envelope rest := by
  induction done with
  | nil => exact h
  | cons f done ih => exact ih h.right.right

theorem recognizes_of_envelope (henv : Envelope frames) :
    Recognizes trackerFraming (frames.map WireFrame.bytes) := by
  intro done b rest heq buf hwhole hbuf
  rcases List.map_eq_append_iff.mp heq with ⟨l1, l2, hframes, _, htail⟩
  rcases List.map_eq_cons_iff.mp htail with ⟨f, fs, hl2, rfl, rfl⟩
  rw [hframes, hl2] at henv
  rcases henv.of_append with ⟨hclear, hlength, _⟩
  have hbuf' : buf <+: f.bytes ++ stream fs := hbuf
  rcases hlength with ht | hend
  · exact resolve_truthful hbuf' hwhole.length_le ht
  · rw [stream_cons] at hend
    apply resolve_whole hbuf' hwhole.length_le hclear
    rw [← stream_cons] at hend hbuf'
    exact HarmlessLength.miss hbuf' hend

/-!
## Truthful frames

A push that ends inside a truthful frame makes the splitter wait, unless the
part it holds shows a terminator byte the fallback search can find.
-/

theorem resolve_inside {f : WireFrame} (ht : f.Truthful) {left : Bytes}
    (hpre : left <+: f.bytes) (hlen : left.length < f.bytes.length) :
    resolveFrameLength left = Boundary.wait ∨
      exists n, n ≤ left.length ∧
        resolveFrameLength left = Boundary.complete n := by
  have hmiss := truthful_miss hlen ht
  cases hidx : indexOfFrom left frameTerminator f.searchStart with
  | none =>
      exact Or.inl (resolve_incomplete hpre hmiss
        (indexOfFrom_eq_none_iff.mp hidx))
  | some i =>
      have hval := (indexOfFrom_eq_some_iff.mp hidx).right.left
      refine Or.inr ⟨i + 1, lt_length_of_getElem?_eq_some hval, ?_⟩
      have hpre' : left <+: f.bytes ++ [] := by rwa [List.append_nil]
      exact resolve_of_found hpre' hmiss hidx

theorem resolve_inside_eq_wait_iff {f : WireFrame} (ht : f.Truthful)
    {left : Bytes} (hpre : left <+: f.bytes)
    (hlen : left.length < f.bytes.length) :
    resolveFrameLength left = Boundary.wait <->
      forall j, f.searchStart ≤ j -> left[j]? ≠ some frameTerminator := by
  have hmiss := truthful_miss hlen ht
  constructor
  · intro hwait
    apply indexOfFrom_eq_none_iff.mp
    cases hidx : indexOfFrom left frameTerminator f.searchStart with
    | none => rfl
    | some i =>
        have hpre' : left <+: f.bytes ++ [] := by rwa [List.append_nil]
        have hres := resolve_of_found hpre' hmiss hidx
        rw [hwait] at hres
        cases hres
  · exact resolve_incomplete hpre hmiss

theorem received_eq {done rest : List WireFrame} {f : WireFrame}
    {received : Bytes} {offset : Nat}
    (hpre : received <+: stream (done ++ f :: rest))
    (hlen : received.length = (stream done).length + offset)
    (hoffset : offset < f.bytes.length) :
    received = stream done ++ f.bytes.take offset := by
  rw [List.prefix_iff_eq_take.mp hpre, hlen, stream_append,
    List.take_length_add_append, stream_cons,
    List.take_append_of_le_length (Nat.le_of_lt hoffset)]

/-- At clear cuts the splitter waits. -/
theorem awaitsCuts_of_cutsClear
    (htruthful : forall f, f ∈ frames -> f.Truthful)
    (h : CutsClear frames chunks) :
    AwaitsCuts trackerFraming (frames.map WireFrame.bytes) [] chunks := by
  intro done b rest left pre post heq hsplit hbytes hpre hlen
  rcases List.map_eq_append_iff.mp heq with ⟨l1, l2, hframes, rfl, htail⟩
  rcases List.map_eq_cons_iff.mp htail with ⟨f, fs, rfl, rfl, rfl⟩
  have ht : f.Truthful := htruthful f (by rw [hframes]; simp)
  apply (resolve_inside_eq_wait_iff ht hpre hlen).mpr
  intro j hj hval
  have hjlen := lt_length_of_getElem?_eq_some hval
  have hcount := congrArg List.length hbytes
  rw [List.nil_append, List.length_append] at hcount
  apply h l1 f fs pre post left.length hframes hsplit hcount hlen j hj hjlen
  rwa [← getElem?_of_isPrefix hpre hjlen]

theorem awaitsCuts_iff_cutsClear
    (htruthful : forall f, f ∈ frames -> f.Truthful)
    (hchunks : chunks.flatten = stream frames) :
    AwaitsCuts trackerFraming (frames.map WireFrame.bytes) [] chunks <->
      CutsClear frames chunks := by
  constructor
  · intro h done f rest pre post offset hframes hsplit hlen hoffset
    have ht : f.Truthful := htruthful f (by rw [hframes]; simp)
    have hflat : pre.flatten <+: stream (done ++ f :: rest) := by
      rw [← hframes, ← hchunks, hsplit, List.flatten_append]
      exact List.prefix_append _ _
    have hreceived : pre.flatten = stream done ++ f.bytes.take offset :=
      received_eq hflat hlen hoffset
    have hleft : (f.bytes.take offset).length < f.bytes.length := by
      rw [List.length_take]
      lia
    have hwait := h (done.map WireFrame.bytes) f.bytes
      (rest.map WireFrame.bytes) (f.bytes.take offset) pre post
      (by rw [hframes, List.map_append, List.map_cons]) hsplit hreceived
      (List.take_prefix _ _) hleft
    intro j hj hjo
    have hne := (resolve_inside_eq_wait_iff ht (List.take_prefix _ _)
      hleft).mp hwait j hj
    rwa [List.getElem?_take_of_lt hjo] at hne
  · exact awaitsCuts_of_cutsClear htruthful

/--
Frames with the right length come out whole, whatever bytes they hold, if and
only if no push ends inside a frame behind a terminator byte past its
fixed-size fields.
-/
theorem returnsExactly_iff_cutsClear
    (htruthful : forall f, f ∈ frames -> f.Truthful)
    (hmax : forall f, f ∈ frames -> f.bytes.length ≤ maxBufferBytes)
    (hchunks : chunks.flatten = stream frames) :
    ReturnsExactly (frames.map WireFrame.bytes)
        (pushChunks { maxBufferBytes := maxBufferBytes } chunks) <->
      CutsClear frames chunks := by
  rw [returnsExactly_iff, ← awaitsCuts_iff_cutsClear htruthful hchunks]
  apply exactRun_iff_awaitsCuts (recognizes_of_truthful htruthful)
  · refine ⟨?_, trackerFraming.resolve_nil⟩
    cases frames with
    | nil => exact Or.inl ⟨rfl, rfl⟩
    | cons f rest =>
        refine Or.inr ⟨f.bytes, rest.map WireFrame.bytes, rfl,
          List.nil_prefix, ?_⟩
        rw [bytes_length]
        exact Nat.succ_pos _
  · exact hchunks
  · intro b hb
    rcases List.mem_map.mp hb with ⟨f, hf, rfl⟩
    exact hmax f hf
  · intro b hb left hpre hlen
    rcases List.mem_map.mp hb with ⟨f, hf, rfl⟩
    exact resolve_inside (htruthful f hf) hpre hlen

/-- A heartbeat whose serial number is 0x2300: its first serial byte is a
terminator byte past the fixed-size fields. -/
def heartbeat2300 : WireFrame where
  headName := [0x2b, 0x48, 0x42, 0x44]
  declaredLength := 20
  body := [0x0d, 0x39, 0x5a, 0x18, 0x44, 0x0b, 0x16, 0x05, 0x20, 0x0b, 0x01,
    0x07, 0xea, 0x07, 0x07, 0x0c, 0x22, 0x38, 0x23, 0x00]
  headName_length := by decide
  headName_colon := by simp [colon]
  declaredLength_lt := by decide
  body_length := by decide

def heartbeat2300Chunks : List Bytes :=
  [heartbeat2300.bytes.take 26, heartbeat2300.bytes.drop 26]

theorem returnsExactly_iff_cutsClear_heartbeat2300 :
    ReturnsExactly ([heartbeat2300].map WireFrame.bytes)
        (pushChunks { maxBufferBytes := 1024 } heartbeat2300Chunks) <->
      CutsClear [heartbeat2300] heartbeat2300Chunks :=
  returnsExactly_iff_cutsClear (by simp; decide) (by simp; decide) (by decide)

/-- Cut between its serial bytes, the heartbeat loses its end. -/
theorem heartbeat2300_cut_short :
    heartbeat2300.Truthful ∧ heartbeat2300.bytes.length ≤ 1024 ∧
      heartbeat2300Chunks.flatten = stream [heartbeat2300] ∧
      framesOf (pushChunks { maxBufferBytes := 1024 }
        heartbeat2300Chunks).1 = [heartbeat2300.bytes.take 26] ∧
      ¬ ReturnsExactly ([heartbeat2300].map WireFrame.bytes)
        (pushChunks { maxBufferBytes := 1024 } heartbeat2300Chunks) := by
  refine ⟨by decide, by decide, by decide, by decide, ?_⟩
  intro h
  exact absurd h.nothing_pending (by decide)

/-!
## Frames with clear tails

Here no part of a frame shows a terminator byte the search can find, so the
splitter waits at every cut, whatever the Length fields declare.
-/

theorem resolve_inside_envelope {f : WireFrame} {rest : List WireFrame}
    (hclear : f.ClearTail) (hlength : f.HarmlessLength rest) {left : Bytes}
    (hpre : left <+: f.bytes) (hlen : left.length < f.bytes.length) :
    resolveFrameLength left = Boundary.wait := by
  have hmiss : left[f.declaredEnd]? ≠ some frameTerminator := by
    rcases hlength with ht | hend
    · exact truthful_miss hlen ht
    · apply HarmlessLength.miss _ hend
      rw [stream_cons]
      exact List.prefix_append_of_prefix hpre
  apply resolve_incomplete hpre hmiss
  intro j hj hval
  have hjlen := lt_length_of_getElem?_eq_some hval
  rw [getElem?_of_isPrefix hpre hjlen] at hval
  exact hclear j (by lia) hj hval

/--
Inside the envelope the frames come out whole however the stream is cut, even
if their Length fields are wrong.
-/
theorem returnsExactly_of_envelope (henv : Envelope frames)
    (hmax : forall f, f ∈ frames -> f.bytes.length ≤ maxBufferBytes)
    (hchunks : chunks.flatten = stream frames) :
    ReturnsExactly (frames.map WireFrame.bytes)
      (pushChunks { maxBufferBytes := maxBufferBytes } chunks) := by
  have hinside : forall done f rest, frames = done ++ f :: rest ->
      forall left : Bytes, left <+: f.bytes ->
        left.length < f.bytes.length ->
        resolveFrameLength left = Boundary.wait := by
    intro done f rest hframes left hpre hlen
    rw [hframes] at henv
    rcases henv.of_append with ⟨hclear, hlength, _⟩
    exact resolve_inside_envelope hclear hlength hpre hlen
  rw [returnsExactly_iff]
  refine (exactRun_iff_awaitsCuts (recognizes_of_envelope henv) ?_ hchunks
    ?_ ?_).mpr ?_
  · refine ⟨?_, trackerFraming.resolve_nil⟩
    cases frames with
    | nil => exact Or.inl ⟨rfl, rfl⟩
    | cons f rest =>
        refine Or.inr ⟨f.bytes, rest.map WireFrame.bytes, rfl,
          List.nil_prefix, ?_⟩
        rw [bytes_length]
        exact Nat.succ_pos _
  · intro b hb
    rcases List.mem_map.mp hb with ⟨f, hf, rfl⟩
    exact hmax f hf
  · intro b hb left hpre hlen
    rcases List.mem_map.mp hb with ⟨f, hf, rfl⟩
    rcases List.append_of_mem hf with ⟨done, rest, hframes⟩
    exact Or.inl (hinside done f rest hframes left hpre hlen)
  · intro done b rest left pre post heq _ _ hpre hlen
    rcases List.map_eq_append_iff.mp heq with ⟨l1, l2, hframes, _, htail⟩
    rcases List.map_eq_cons_iff.mp htail with ⟨f, fs, rfl, rfl, _⟩
    exact hinside l1 f fs hframes left hpre hlen

def heartbeatTotalSize : WireFrame where
  headName := [0x2b, 0x48, 0x42, 0x44]
  declaredLength := 28
  body := [0x0d, 0x39, 0x5a, 0x18, 0x44, 0x0b, 0x16, 0x05, 0x20, 0x0b, 0x01,
    0x07, 0xea, 0x07, 0x07, 0x0c, 0x22, 0x38, 0x00, 0x01]
  headName_length := by decide
  headName_colon := by simp [colon]
  declaredLength_lt := by decide
  body_length := by decide

theorem returnsExactly_of_envelope_heartbeats :
    ReturnsExactly
      ([heartbeatTotalSize, heartbeatTotalSize].map WireFrame.bytes)
      (pushChunks { maxBufferBytes := 1024 }
        [heartbeatTotalSize.bytes ++ heartbeatTotalSize.bytes.take 9,
          heartbeatTotalSize.bytes.drop 9]) :=
  returnsExactly_of_envelope
    ⟨by decide, by decide, by decide, by decide, trivial⟩
    (by simp; decide) (by decide)

end Tracker
end AvtTracker
