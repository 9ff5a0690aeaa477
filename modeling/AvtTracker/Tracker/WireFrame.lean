import AvtTracker.Tracker.FrameSplitter

/-!
# Frames on the wire

A well-formed frame as a structure that carries its own layout invariants, and
what {lit}`resolveFrameLength` makes of a buffer that starts with one: the whole
frame, part of it, or the frame with part of the stream behind it.
-/

namespace AvtTracker
namespace Tracker

open Foundation

/-- A frame: the head token in front of its colon, the declared length, and the
bytes between the Length field and the terminator. -/
structure WireFrame where
  headName : Bytes
  declaredLength : Nat
  body : Bytes
  headName_length : headName.length ≤ 7
  headName_colon : forall b, b ∈ headName -> b ≠ colon
  declaredLength_lt : declaredLength < 65536
  body_length : minimumTrailingFixedBytes ≤ body.length

namespace WireFrame

def headLength (f : WireFrame) : Nat :=
  f.headName.length + 1

def bytes (f : WireFrame) : Bytes :=
  f.headName ++ colon ::
    (beBytes 2 f.declaredLength ++ (f.body ++ [frameTerminator]))

/-- The Length field counts the bytes between it and the terminator. -/
def Truthful (f : WireFrame) : Prop :=
  f.declaredLength = f.body.length

instance (f : WireFrame) : Decidable f.Truthful :=
  inferInstanceAs (Decidable (_ = _))

/-- Offset at which the declared length puts the terminator. -/
def declaredEnd (f : WireFrame) : Nat :=
  f.headLength + lengthFieldBytes + f.declaredLength

/-- First offset the fallback search looks at. -/
def searchStart (f : WireFrame) : Nat :=
  f.headLength + lengthFieldBytes + minimumTrailingFixedBytes

variable {f : WireFrame}

@[simp] theorem bytes_length (f : WireFrame) :
    f.bytes.length = f.headLength + lengthFieldBytes + f.body.length + 1 := by
  simp only [bytes, headLength, lengthFieldBytes, List.length_append,
    List.length_cons, beBytes_length, List.length_nil]
  lia

theorem getElem?_headName {more : Bytes} {j : Nat}
    (hj : j < f.headName.length) :
    (f.bytes ++ more)[j]? = f.headName[j]? := by
  rw [bytes, List.append_assoc, List.getElem?_append_left hj]

theorem getElem?_terminator (f : WireFrame) (more : Bytes) :
    (f.bytes ++ more)[f.bytes.length - 1]? = some frameTerminator := by
  have hbytes : f.bytes = (f.headName ++ colon ::
      (beBytes 2 f.declaredLength ++ f.body)) ++ [frameTerminator] := by
    simp [bytes]
  rw [hbytes, List.append_assoc, List.length_append, List.length_singleton,
    Nat.add_sub_cancel, List.getElem?_append_right (Nat.le_refl _),
    Nat.sub_self]
  rfl

theorem readUInt16BE_headLength (f : WireFrame) (more : Bytes) :
    readUInt16BE (f.bytes ++ more) f.headLength = f.declaredLength := by
  have hbytes : f.bytes ++ more = (f.headName ++ [colon]) ++
      (beBytes 2 f.declaredLength ++ (f.body ++ [frameTerminator] ++ more)) := by
    simp [bytes]
  have hlen : f.headLength = (f.headName ++ [colon]).length := by
    simp [headLength]
  rw [hbytes, hlen]
  exact readUInt16BE_append _ f.declaredLength_lt _

/-!
## Resolving a buffer that starts with a frame
-/

theorem indexOf_headName (f : WireFrame) (more : Bytes) :
    indexOf (f.bytes ++ more) colon = some f.headName.length := by
  have hnot : colon ∉ f.headName := fun hmem => f.headName_colon colon hmem rfl
  rw [bytes, List.append_assoc, List.cons_append]
  exact indexOf_append_cons hnot

theorem resolve_short {buf more : Bytes} (h : buf <+: f.bytes ++ more)
    (hlen : buf.length < f.headLength + lengthFieldBytes) :
    resolveFrameLength buf = Boundary.wait := by
  have hhead := f.headName_length
  cases Nat.lt_or_ge f.headName.length buf.length with
  | inl hreached =>
      have hcolon := indexOf_isPrefix_of_lt h (indexOf_headName f more) hreached
      rw [resolveFrameLength_of_colon hcolon (Nat.lt_succ_of_le hhead)]
      exact if_pos hlen
  | inr hinside =>
      have hname : buf <+: f.headName :=
        List.prefix_of_prefix_length_le h
          (List.prefix_append_of_prefix (List.prefix_append _ _)) hinside
      apply resolveFrameLength_of_short (by lia)
      intro hmem
      exact f.headName_colon colon (hname.subset hmem) rfl

/-- Once the Length field is complete, its value and the end of the head token
are the frame's. -/
theorem resolve_declared {buf more : Bytes} (h : buf <+: f.bytes ++ more)
    (hlen : f.headLength + lengthFieldBytes ≤ buf.length) :
    resolveFrameLength buf = resolveDeclaredLength buf f.headLength ∧
      readUInt16BE buf f.headLength = f.declaredLength := by
  have hreached : f.headName.length < buf.length := by
    simp only [headLength, lengthFieldBytes] at hlen
    lia
  have hcolon := indexOf_isPrefix_of_lt h (indexOf_headName f more) hreached
  constructor
  · rw [resolveFrameLength_of_colon hcolon (Nat.lt_succ_of_le f.headName_length)]
    exact if_neg (Nat.not_lt.mpr hlen)
  · rw [← readUInt16BE_headLength f more]
    exact readUInt16BE_of_isPrefix h hlen

theorem resolve_of_hit {buf more : Bytes} (h : buf <+: f.bytes ++ more)
    (hhit : buf[f.declaredEnd]? = some frameTerminator) :
    resolveFrameLength buf = Boundary.complete (f.declaredEnd + 1) := by
  have hlt := lt_length_of_getElem?_eq_some hhit
  have hlen : f.headLength + lengthFieldBytes ≤ buf.length := by
    simp only [declaredEnd] at hlt
    lia
  rcases resolve_declared h hlen with ⟨hres, hread⟩
  rw [declaredEnd, ← hread] at hhit ⊢
  rw [hres]
  exact resolveDeclaredLength_of_hit hhit

theorem resolve_of_found {buf more : Bytes} {i : Nat}
    (h : buf <+: f.bytes ++ more)
    (hmiss : buf[f.declaredEnd]? ≠ some frameTerminator)
    (hfound : indexOfFrom buf frameTerminator f.searchStart = some i) :
    resolveFrameLength buf = Boundary.complete (i + 1) := by
  rcases indexOfFrom_eq_some_iff.mp hfound with ⟨hi, hval, _⟩
  have hlt := lt_length_of_getElem?_eq_some hval
  have hlen : f.headLength + lengthFieldBytes ≤ buf.length := by
    simp only [searchStart] at hi
    lia
  rcases resolve_declared h hlen with ⟨hres, hread⟩
  rw [declaredEnd, ← hread] at hmiss
  rw [hres]
  exact resolveDeclaredLength_of_found hmiss hfound

theorem resolve_of_none {buf more : Bytes} (h : buf <+: f.bytes ++ more)
    (hmiss : buf[f.declaredEnd]? ≠ some frameTerminator)
    (hnone : indexOfFrom buf frameTerminator f.searchStart = none) :
    resolveFrameLength buf = Boundary.wait := by
  by_cases hlen : buf.length < f.headLength + lengthFieldBytes
  · exact resolve_short h hlen
  · rcases resolve_declared h (Nat.not_lt.mp hlen) with ⟨hres, hread⟩
    rw [declaredEnd, ← hread] at hmiss
    rw [hres]
    exact resolveDeclaredLength_of_none hmiss hnone

end WireFrame

/-!
## Streams of frames
-/

def stream (frames : List WireFrame) : Bytes :=
  (frames.map WireFrame.bytes).flatten

@[simp] theorem stream_cons (f : WireFrame) (rest : List WireFrame) :
    stream (f :: rest) = f.bytes ++ stream rest := by
  simp [stream]

@[simp] theorem stream_append (done rest : List WireFrame) :
    stream (done ++ rest) = stream done ++ stream rest := by
  simp [stream]

/-- No terminator byte lies between the frame's fixed-size fields and its own
terminator. -/
def WireFrame.ClearTail (f : WireFrame) : Prop :=
  forall j, j < f.bytes.length - 1 -> f.searchStart ≤ j ->
    f.bytes[j]? ≠ some frameTerminator

instance (f : WireFrame) : Decidable f.ClearTail :=
  inferInstanceAs (Decidable (forall j, j < _ -> _ -> _))

/-- The declared length is right, or points at a byte of the stream that is no
terminator, or past the end of the stream. -/
def WireFrame.HarmlessLength (f : WireFrame) (rest : List WireFrame) : Prop :=
  f.Truthful ∨ (stream (f :: rest))[f.declaredEnd]? ≠ some frameTerminator

instance (f : WireFrame) (rest : List WireFrame) :
    Decidable (f.HarmlessLength rest) :=
  inferInstanceAs (Decidable (_ ∨ _))

namespace WireFrame

variable {f : WireFrame}

theorem declaredEnd_eq_iff :
    f.declaredEnd + 1 = f.bytes.length <-> f.Truthful := by
  rw [bytes_length]
  simp only [declaredEnd, Truthful]
  lia

/-- A buffer that holds the whole of a frame with a clear tail, and whose
declared end shows no terminator, resolves to that frame. -/
theorem resolve_whole {buf more : Bytes} (h : buf <+: f.bytes ++ more)
    (hwhole : f.bytes.length ≤ buf.length) (hclear : f.ClearTail)
    (hmiss : buf[f.declaredEnd]? ≠ some frameTerminator) :
    resolveFrameLength buf = Boundary.complete f.bytes.length := by
  have hlen := f.bytes_length
  have hbody := f.body_length
  have hfound : indexOfFrom buf frameTerminator f.searchStart =
      some (f.bytes.length - 1) := by
    refine indexOfFrom_eq_some_iff.mpr ⟨?_, ?_, ?_⟩
    · simp only [searchStart]
      lia
    · rw [getElem?_of_isPrefix h (by lia)]
      exact getElem?_terminator f more
    · intro j hj hlt
      rw [getElem?_of_isPrefix h (by lia), List.getElem?_append_left (by lia)]
      exact hclear j hlt hj
  have hres := resolve_of_found h hmiss hfound
  rwa [Nat.sub_add_cancel (by lia)] at hres

/-- A truthful frame is recognised as soon as it is complete. -/
theorem resolve_truthful {buf more : Bytes} (h : buf <+: f.bytes ++ more)
    (hwhole : f.bytes.length ≤ buf.length) (ht : f.Truthful) :
    resolveFrameLength buf = Boundary.complete f.bytes.length := by
  have hend := declaredEnd_eq_iff.mpr ht
  have hhit : buf[f.declaredEnd]? = some frameTerminator := by
    rw [getElem?_of_isPrefix h (by lia)]
    have hterm := getElem?_terminator f more
    rwa [← hend, Nat.add_sub_cancel] at hterm
  rw [resolve_of_hit h hhit, hend]

/-- Part of a frame that shows no terminator where one is looked for is not
enough to decide. -/
theorem resolve_incomplete {left : Bytes} (h : left <+: f.bytes)
    (hmiss : left[f.declaredEnd]? ≠ some frameTerminator)
    (hclear : forall j, f.searchStart ≤ j ->
      left[j]? ≠ some frameTerminator) :
    resolveFrameLength left = Boundary.wait := by
  have h' : left <+: f.bytes ++ [] := by rwa [List.append_nil]
  exact resolve_of_none h' hmiss (indexOfFrom_eq_none_iff.mpr hclear)

theorem truthful_miss {left : Bytes} (hlen : left.length < f.bytes.length)
    (ht : f.Truthful) : left[f.declaredEnd]? ≠ some frameTerminator := by
  intro hval
  have hlt := lt_length_of_getElem?_eq_some hval
  have hend := declaredEnd_eq_iff.mpr ht
  lia

end WireFrame

/-- Truthful frames are taken off the buffer one by one, whatever bytes they
hold. -/
theorem drain_stream_of_truthful (frames : List WireFrame)
    (h : forall f, f ∈ frames -> f.Truthful) :
    drain trackerFraming (stream frames) =
      (frames.map WireFrame.bytes, []) := by
  have hresolve : forall pre b post, frames.map WireFrame.bytes =
      pre ++ b :: post -> trackerFraming.resolve ((b :: post).flatten ++ []) =
        Boundary.complete b.length := by
    intro pre b post heq
    rcases List.map_eq_append_iff.mp heq with ⟨done, l, hframes, _, htail⟩
    rcases List.map_eq_cons_iff.mp htail with ⟨f, rest, rfl, rfl, rfl⟩
    have hf : f.Truthful := h f (by rw [hframes]; simp)
    have hwhole : f.bytes.length ≤ (f.bytes ++ stream rest).length := by
      rw [List.length_append]
      exact Nat.le_add_right _ _
    rw [List.append_nil, List.flatten_cons, trackerFraming_resolve]
    exact WireFrame.resolve_truthful List.prefix_rfl hwhole hf
  have hdrain := drain_flatten_append hresolve
  rw [drain_nil, List.append_nil, List.append_nil] at hdrain
  exact hdrain

end Tracker
end AvtTracker
