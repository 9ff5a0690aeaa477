import AvtTracker.Tracker.BuiltFrames

/-!
# Recovery from wrong Length fields

A burst of frames arrives in one push.  Each Length field may hold any value;
the splitter still hands out the frames one by one unless a wrong one points at
a terminator byte, be it inside its own frame or inside a later one.
-/

namespace AvtTracker
namespace Tracker

open Foundation TrackerFrameSplitter

/-!
## Streams of wire frames
-/

namespace WireFrame

variable {f : WireFrame} {rest : List WireFrame}

theorem exists_resolve_of_clearTail (hclear : f.ClearTail) :
    exists n, n ≤ (stream (f :: rest)).length ∧
      resolveFrameLength (stream (f :: rest)) = Boundary.complete n := by
  rw [stream_cons]
  by_cases hhit : (f.bytes ++ stream rest)[f.declaredEnd]? =
      some frameTerminator
  · exact ⟨f.declaredEnd + 1, lt_length_of_getElem?_eq_some hhit,
      resolve_of_hit List.prefix_rfl hhit⟩
  · have hwhole : f.bytes.length ≤ (f.bytes ++ stream rest).length := by
      rw [List.length_append]
      exact Nat.le_add_right _ _
    exact ⟨f.bytes.length, hwhole,
      resolve_whole List.prefix_rfl hwhole hclear hhit⟩

/-- The splitter finds the end of a frame with a clear tail if and only if its
declared length does no harm. -/
theorem resolve_stream_iff (hclear : f.ClearTail) :
    resolveFrameLength (stream (f :: rest)) =
        Boundary.complete f.bytes.length <->
      f.HarmlessLength rest := by
  have hwhole : f.bytes.length ≤ (f.bytes ++ stream rest).length := by
    rw [List.length_append]
    exact Nat.le_add_right _ _
  unfold HarmlessLength
  rw [stream_cons]
  constructor
  · intro hres
    by_cases hhit : (f.bytes ++ stream rest)[f.declaredEnd]? =
        some frameTerminator
    · rw [resolve_of_hit List.prefix_rfl hhit] at hres
      injection hres with hend
      exact Or.inl (declaredEnd_eq_iff.mp hend)
    · exact Or.inr hhit
  · intro hlength
    rcases hlength with ht | hmiss
    · exact resolve_truthful List.prefix_rfl hwhole ht
    · exact resolve_whole List.prefix_rfl hwhole hclear hmiss

end WireFrame

theorem drain_stream_iff (frames : List WireFrame)
    (hclear : forall f, f ∈ frames -> f.ClearTail) :
    (drain trackerFraming (stream frames)).1 =
        frames.map WireFrame.bytes <->
      forall done f rest, frames = done ++ f :: rest ->
        f.HarmlessLength rest := by
  have hmem : forall done f rest, frames = done ++ f :: rest ->
      f.ClearTail := by
    intro done f rest heq
    exact hclear f (by rw [heq]; simp)
  have hsplit : forall pre b post,
      frames.map WireFrame.bytes = pre ++ b :: post ->
      exists done f rest, frames = done ++ f :: rest ∧
        (b :: post).flatten = stream (f :: rest) ∧ b = f.bytes := by
    intro pre b post heq
    rcases List.map_eq_append_iff.mp heq with ⟨done, l, hframes, _, htail⟩
    rcases List.map_eq_cons_iff.mp htail with ⟨f, rest, rfl, rfl, rfl⟩
    exact ⟨done, f, rest, hframes, rfl, rfl⟩
  have hdrain : drain trackerFraming (frames.map WireFrame.bytes).flatten =
      (frames.map WireFrame.bytes, []) <-> _ :=
    drain_flatten_eq_iff (fun pre b post heq => by
      rcases hsplit pre b post heq with ⟨done, f, rest, hframes, hflat, _⟩
      rw [hflat]
      exact WireFrame.exists_resolve_of_clearTail (hmem done f rest hframes))
  unfold stream
  constructor
  · intro h done f rest hframes
    have hall := hdrain.mp (Prod.ext h (drain_rest_eq_nil h))
    have hres := hall (done.map WireFrame.bytes) f.bytes
      (rest.map WireFrame.bytes)
      (by rw [hframes, List.map_append, List.map_cons])
    exact (WireFrame.resolve_stream_iff (hmem done f rest hframes)).mp hres
  · intro h
    rw [hdrain.mpr]
    intro pre b post heq
    rcases hsplit pre b post heq with ⟨done, f, rest, hframes, hflat, hb⟩
    rw [hflat, hb]
    exact (WireFrame.resolve_stream_iff (hmem done f rest hframes)).mpr
      (h done f rest hframes)

/-!
## Bursts of built frames
-/

def burst (frames : List BuiltFrame) : Bytes :=
  (frames.map BuiltFrame.bytes).flatten

namespace BuiltFrame

/-- No terminator byte lies between offset head+20 and the final one. -/
def ClearTail (f : BuiltFrame) : Prop :=
  forall j, j < f.bytes.length - 1 -> f.headLength + 20 ≤ j ->
    f.bytes[j]? ≠ some 0x23

instance (f : BuiltFrame) : Decidable f.ClearTail :=
  inferInstanceAs (Decidable (forall j, j < _ -> _ -> _))

/-- The Length field is right, or the byte of the burst at the declared end is
no terminator byte, or there is no such byte. -/
def HarmlessLength (f : BuiltFrame) (rest : List BuiltFrame) : Prop :=
  f.options.declaredLength = f.options.actualLength ∨
    (burst (f :: rest))[f.headLength + 2 + f.options.declaredLength]? ≠
      some 0x23

theorem stream_wire (frames : List BuiltFrame) :
    stream (frames.map wire) = burst frames := by
  have hbytes : WireFrame.bytes ∘ wire = bytes := funext wire_bytes
  rw [stream, List.map_map, hbytes, burst]

theorem wire_clearTail {f : BuiltFrame} (h : f.ClearTail) :
    f.wire.ClearTail := by
  intro j hj hstart
  rw [wire_bytes] at hj ⊢
  apply h j hj
  simp only [WireFrame.searchStart, wire_headLength, lengthFieldBytes,
    minimumTrailingFixedBytes] at hstart
  lia

theorem wire_harmlessLength_iff (f : BuiltFrame) (rest : List BuiltFrame) :
    f.wire.HarmlessLength (rest.map wire) <-> f.HarmlessLength rest := by
  have hstream : stream (f.wire :: rest.map wire) = burst (f :: rest) :=
    stream_wire (f :: rest)
  unfold WireFrame.HarmlessLength HarmlessLength
  rw [wire_truthful_iff, hstream, WireFrame.declaredEnd, wire_headLength]
  rfl

end BuiltFrame

/--
A burst of frames with arbitrary Length fields comes out exactly if and only if
no wrong Length field points at a terminator byte of the burst.
-/
theorem push_burst_iff {frames : List BuiltFrame} (maxBufferBytes : Nat)
    (hclear : forall f, f ∈ frames -> f.ClearTail) :
    (push { maxBufferBytes := maxBufferBytes } (burst frames)).1.frames =
        frames.map BuiltFrame.bytes <->
      forall done f rest, frames = done ++ f :: rest ->
        f.HarmlessLength rest := by
  have hbytes : (frames.map BuiltFrame.wire).map WireFrame.bytes =
      frames.map BuiltFrame.bytes := by
    rw [List.map_map]
    exact List.map_congr_left (fun f _ => f.wire_bytes)
  have hdrain := drain_stream_iff (frames.map BuiltFrame.wire) (by
    intro w hw
    rcases List.mem_map.mp hw with ⟨f, hf, rfl⟩
    exact BuiltFrame.wire_clearTail (hclear f hf))
  rw [hbytes, BuiltFrame.stream_wire] at hdrain
  have hframes : (push { maxBufferBytes := maxBufferBytes }
      (burst frames)).1.frames = (drain trackerFraming (burst frames)).1 :=
    push_frames [] (burst frames)
  rw [hframes, hdrain]
  constructor
  · intro h done f rest heq
    rw [← BuiltFrame.wire_harmlessLength_iff]
    apply h (done.map BuiltFrame.wire)
    rw [heq, List.map_append, List.map_cons]
  · intro h done w rest heq
    rcases List.map_eq_append_iff.mp heq with ⟨done', l, hl, _, htail⟩
    rcases List.map_eq_cons_iff.mp htail with ⟨f, rest', rfl, rfl, rfl⟩
    exact (BuiltFrame.wire_harmlessLength_iff f rest').mpr (h done' f rest' hl)

def heartbeatOptions (declaredLength : Nat) : BuildFrameOptions where
  head := "+HBD:"
  imei := "356938035643809"
  dataZone := [11, 1]
  generatedAt := { time := some 1783398896000 }
  serialNumber := 1
  declaredLengthOverride := some declaredLength

def heartbeatBytes (declaredLength : UInt8) : Bytes :=
  [0x2b, 0x48, 0x42, 0x44, 0x3a, 0, declaredLength, 35, 69, 38, 3, 56, 43, 80,
    9, 0x20, 11, 1, 0x07, 0xea, 7, 7, 4, 34, 56, 0, 1, 0x23]

def totalSizeHeartbeat : BuiltFrame where
  options := heartbeatOptions 28
  bytes := heartbeatBytes 28
  head_token := by decide
  built := by decide

/-- A declared end inside the frame, at the 0x03 of the IMEI. -/
def shortHeartbeat : BuiltFrame where
  options := heartbeatOptions 3
  bytes := heartbeatBytes 3
  head_token := by decide
  built := by decide

/-- A declared end inside the next frame, behind the 0x23 of its IMEI. -/
def longHeartbeat : BuiltFrame where
  options := heartbeatOptions 30
  bytes := heartbeatBytes 30
  head_token := by decide
  built := by decide

theorem push_burst_iff_heartbeats :
    (push { maxBufferBytes := 1024 }
      (burst [shortHeartbeat, longHeartbeat, totalSizeHeartbeat])).1.frames =
        [heartbeatBytes 3, heartbeatBytes 30, heartbeatBytes 28] := by
  have hclear : forall f,
      f ∈ [shortHeartbeat, longHeartbeat, totalSizeHeartbeat] ->
        f.ClearTail := by
    simp only [List.mem_cons, List.not_mem_nil, or_false]
    rintro f (rfl | rfl | rfl)
    all_goals decide
  apply (push_burst_iff 1024 hclear).mpr
  intro done f rest heq
  rcases done with _ | ⟨_, _ | ⟨_, _ | ⟨_, done⟩⟩⟩
  · cases heq
    exact Or.inr (by decide)
  · cases heq
    exact Or.inr (by decide)
  · -- Nothing is behind the last frame, where its declared end is.
    cases heq
    exact Or.inr (by decide)
  · simp at heq

/-- Two heartbeats that declare their total size: the first byte of the second
one's IMEI is a terminator byte, and the frames are cut there. -/
theorem totalSizeHeartbeats_cut :
    (forall f, f ∈ [totalSizeHeartbeat, totalSizeHeartbeat] ->
      f.ClearTail) ∧
    (push { maxBufferBytes := 1024 }
      (burst [totalSizeHeartbeat, totalSizeHeartbeat])).1.frames =
        [(burst [totalSizeHeartbeat, totalSizeHeartbeat]).take 36] ∧
    (push { maxBufferBytes := 1024 }
      (burst [totalSizeHeartbeat, totalSizeHeartbeat])).1.frames ≠
        [totalSizeHeartbeat, totalSizeHeartbeat].map BuiltFrame.bytes := by
  refine ⟨by simp; decide, by decide, by decide⟩

end Tracker
end AvtTracker
