import AvtTracker.Foundation.FramingRuns

/-!
# The tracker's frame splitter

{lit}`TrackerFrameSplitter` buffers the bytes of one socket and extracts
complete frames.  A frame is a head token that ends at a colon, a two-byte
Length field, a body, and the terminator.  Where a frame ends is decided by
{lit}`resolveFrameLength`: the declared length is trusted if it lands on a
terminator, and otherwise the terminator is searched for behind the fixed-size
fields.
-/

namespace AvtTracker
namespace Tracker

open Foundation

/-- {lit}`FRAME_TERMINATOR`, the byte of {lit}`#`. -/
def frameTerminator : UInt8 := 0x23

/-- {lit}`COLON`, the byte that ends a head token. -/
def colon : UInt8 := 0x3a

/-- {lit}`MAX_HEAD_TOKEN_SEARCH_BYTES` -/
def maxHeadTokenSearchBytes : Nat := 8

/-- {lit}`LENGTH_FIELD_BYTES` -/
def lengthFieldBytes : Nat := 2

/-- {lit}`MINIMUM_TRAILING_FIXED_BYTES`: IMEI, device id, generated time and
serial number. -/
def minimumTrailingFixedBytes : Nat := 8 + 1 + 7 + 2

/-- The rest of {lit}`resolveFrameLength` once the Length field is buffered. -/
def resolveDeclaredLength (buffer : Bytes) (headTokenLength : Nat) :
    Boundary :=
  let lengthFieldEnd := headTokenLength + lengthFieldBytes
  let declaredLength := readUInt16BE buffer headTokenLength
  let declaredFrameLength := lengthFieldEnd + declaredLength + 1
  if declaredFrameLength ≤ buffer.length ∧
      buffer[declaredFrameLength - 1]? = some frameTerminator then
    Boundary.complete declaredFrameLength
  else
    let minimumTerminatorIndex := lengthFieldEnd + minimumTrailingFixedBytes
    if buffer.length ≤ minimumTerminatorIndex then
      Boundary.wait
    else
      match indexOfFrom buffer frameTerminator minimumTerminatorIndex with
      | none => Boundary.wait
      | some terminatorIndex => Boundary.complete (terminatorIndex + 1)

/-- {lit}`resolveFrameLength`: {lit}`undefined` is {lit}`wait` and {lit}`null`
is {lit}`desync`. -/
def resolveFrameLength (buffer : Bytes) : Boundary :=
  let searchWindow := buffer.take (min buffer.length maxHeadTokenSearchBytes)
  match indexOf searchWindow colon with
  | none =>
      if searchWindow.length < maxHeadTokenSearchBytes then Boundary.wait
      else Boundary.desync
  | some colonIndex =>
      let headTokenLength := colonIndex + 1
      if buffer.length < headTokenLength + lengthFieldBytes then Boundary.wait
      else resolveDeclaredLength buffer headTokenLength

/-!
## The verdict by Length field
-/

section DeclaredLength

variable {buffer : Bytes} {h : Nat}

theorem resolveDeclaredLength_of_hit
    (hhit : buffer[h + lengthFieldBytes + readUInt16BE buffer h]? =
      some frameTerminator) :
    resolveDeclaredLength buffer h = Boundary.complete
      (h + lengthFieldBytes + readUInt16BE buffer h + 1) := by
  have hlt := lt_length_of_getElem?_eq_some hhit
  simp only [resolveDeclaredLength]
  exact if_pos ⟨hlt, hhit⟩

theorem resolveDeclaredLength_of_found {i : Nat}
    (hmiss : buffer[h + lengthFieldBytes + readUInt16BE buffer h]? ≠
      some frameTerminator)
    (hfound : indexOfFrom buffer frameTerminator
      (h + lengthFieldBytes + minimumTrailingFixedBytes) = some i) :
    resolveDeclaredLength buffer h = Boundary.complete (i + 1) := by
  rcases indexOfFrom_eq_some_iff.mp hfound with ⟨hi, hval, _⟩
  have hlt := lt_length_of_getElem?_eq_some hval
  simp only [resolveDeclaredLength]
  rw [if_neg (fun hhit => hmiss hhit.right), if_neg (by lia), hfound]

theorem resolveDeclaredLength_of_none
    (hmiss : buffer[h + lengthFieldBytes + readUInt16BE buffer h]? ≠
      some frameTerminator)
    (hnone : indexOfFrom buffer frameTerminator
      (h + lengthFieldBytes + minimumTrailingFixedBytes) = none) :
    resolveDeclaredLength buffer h = Boundary.wait := by
  simp only [resolveDeclaredLength]
  rw [if_neg (fun hhit => hmiss hhit.right), hnone]
  exact ite_self _

theorem resolveDeclaredLength_verdict (buffer : Bytes) (h : Nat) :
    (buffer[h + lengthFieldBytes + readUInt16BE buffer h]? =
        some frameTerminator ∧
      resolveDeclaredLength buffer h = Boundary.complete
        (h + lengthFieldBytes + readUInt16BE buffer h + 1)) ∨
    (buffer[h + lengthFieldBytes + readUInt16BE buffer h]? ≠
        some frameTerminator ∧
      ((exists i, indexOfFrom buffer frameTerminator
            (h + lengthFieldBytes + minimumTrailingFixedBytes) = some i ∧
          resolveDeclaredLength buffer h = Boundary.complete (i + 1)) ∨
        (indexOfFrom buffer frameTerminator
            (h + lengthFieldBytes + minimumTrailingFixedBytes) = none ∧
          resolveDeclaredLength buffer h = Boundary.wait))) := by
  by_cases hhit : buffer[h + lengthFieldBytes + readUInt16BE buffer h]? =
      some frameTerminator
  · exact Or.inl ⟨hhit, resolveDeclaredLength_of_hit hhit⟩
  · refine Or.inr ⟨hhit, ?_⟩
    cases hidx : indexOfFrom buffer frameTerminator
        (h + lengthFieldBytes + minimumTrailingFixedBytes) with
    | none => exact Or.inr ⟨rfl, resolveDeclaredLength_of_none hhit hidx⟩
    | some i =>
        exact Or.inl ⟨i, rfl, resolveDeclaredLength_of_found hhit hidx⟩

theorem resolveDeclaredLength_complete {n : Nat}
    (hres : resolveDeclaredLength buffer h = Boundary.complete n) :
    h + 3 ≤ n ∧ n ≤ buffer.length ∧ buffer[n - 1]? = some frameTerminator := by
  rcases resolveDeclaredLength_verdict buffer h with
    ⟨hhit, hcomplete⟩ | ⟨_, ⟨i, hidx, hcomplete⟩ | ⟨_, hwait⟩⟩
  · rw [hres] at hcomplete
    injection hcomplete with hn
    subst hn
    refine ⟨?_, lt_length_of_getElem?_eq_some hhit, hhit⟩
    simp only [lengthFieldBytes]
    lia
  · rw [hres] at hcomplete
    injection hcomplete with hn
    subst hn
    rcases indexOfFrom_eq_some_iff.mp hidx with ⟨hi, hval, _⟩
    refine ⟨?_, lt_length_of_getElem?_eq_some hval, hval⟩
    simp only [lengthFieldBytes, minimumTrailingFixedBytes] at hi
    lia
  · rw [hres] at hwait
    cases hwait

theorem resolveDeclaredLength_ne_desync (buffer : Bytes) (h : Nat) :
    resolveDeclaredLength buffer h ≠ Boundary.desync := by
  intro hres
  rcases resolveDeclaredLength_verdict buffer h with
    ⟨_, hcomplete⟩ | ⟨_, ⟨_, _, hcomplete⟩ | ⟨_, hwait⟩⟩
  · rw [hres] at hcomplete
    cases hcomplete
  · rw [hres] at hcomplete
    cases hcomplete
  · rw [hres] at hwait
    cases hwait

end DeclaredLength

/-!
## The verdict by head token

Either a head token ends among the first eight bytes and leads to the Length
field, or the splitter waits for eight bytes and then gives up.
-/

theorem indexOf_window {buffer : Bytes} {colonIndex : Nat}
    (hcolon : indexOf buffer colon = some colonIndex) (hhead : colonIndex < 8) :
    indexOf (buffer.take (min buffer.length maxHeadTokenSearchBytes)) colon =
      some colonIndex := by
  have hlt := lt_length_of_getElem?_eq_some
    (indexOf_eq_some_iff.mp hcolon).left
  apply indexOf_isPrefix_of_lt (List.take_prefix _ _) hcolon
  rw [List.length_take]
  simp only [maxHeadTokenSearchBytes]
  lia

theorem resolveFrameLength_of_colon {buffer : Bytes} {colonIndex : Nat}
    (hcolon : indexOf buffer colon = some colonIndex) (hhead : colonIndex < 8) :
    resolveFrameLength buffer =
      if buffer.length < colonIndex + 1 + lengthFieldBytes then Boundary.wait
      else resolveDeclaredLength buffer (colonIndex + 1) := by
  simp only [resolveFrameLength, indexOf_window hcolon hhead]

theorem resolveFrameLength_of_short {buffer : Bytes} (hlen : buffer.length < 8)
    (h : colon ∉ buffer) : resolveFrameLength buffer = Boundary.wait := by
  have hwindow : buffer.take (min buffer.length maxHeadTokenSearchBytes) =
      buffer := by
    apply List.take_of_length_le
    simp only [maxHeadTokenSearchBytes]
    lia
  have hnone : indexOf buffer colon = none :=
    indexOf_eq_none_iff_not_mem.mpr h
  simp only [resolveFrameLength, hwindow, hnone]
  exact if_pos hlen

theorem resolveFrameLength_of_no_colon {buffer : Bytes}
    (hlen : 8 ≤ buffer.length)
    (h : forall j, j < 8 -> buffer[j]? ≠ some colon) :
    resolveFrameLength buffer = Boundary.desync := by
  have hwindow : min buffer.length maxHeadTokenSearchBytes = 8 :=
    Nat.min_eq_right hlen
  have hnone : indexOf (buffer.take 8) colon = none := by
    apply indexOf_eq_none_iff.mpr
    intro j hval
    have hlt := lt_length_of_getElem?_eq_some hval
    rw [List.length_take] at hlt
    rw [List.getElem?_take_of_lt (by lia)] at hval
    exact h j (by lia) hval
  simp only [resolveFrameLength, hwindow, hnone]
  apply if_neg
  rw [List.length_take]
  simp only [maxHeadTokenSearchBytes]
  lia

/-- What the first eight bytes can hold. -/
theorem headToken_cases (buffer : Bytes) :
    (exists colonIndex, colonIndex < 8 ∧
      indexOf buffer colon = some colonIndex) ∨
      (buffer.length < 8 ∧ colon ∉ buffer) ∨
      (8 ≤ buffer.length ∧
        forall offset, offset < 8 -> buffer[offset]? ≠ some colon) := by
  cases hidx : indexOf buffer colon with
  | none =>
      apply Or.inr
      cases Nat.lt_or_ge buffer.length 8 with
      | inl hlen =>
          exact Or.inl ⟨hlen, indexOf_eq_none_iff_not_mem.mp hidx⟩
      | inr hlen =>
          exact Or.inr ⟨hlen, fun j _ => indexOf_eq_none_iff.mp hidx j⟩
  | some colonIndex =>
      rcases indexOf_eq_some_iff.mp hidx with ⟨hval, hbefore⟩
      have hlt := lt_length_of_getElem?_eq_some hval
      cases Nat.lt_or_ge colonIndex 8 with
      | inl hhead => exact Or.inl ⟨colonIndex, hhead, rfl⟩
      | inr hhead =>
          refine Or.inr (Or.inr ⟨by lia, ?_⟩)
          intro offset hoffset
          exact hbefore offset (by lia)

/-- What a complete verdict says about the buffer: the colon lies among the
first eight bytes, and the frame is at least three bytes longer than the head
token and ends with the terminator. -/
theorem resolveFrameLength_complete {buffer : Bytes} {n : Nat}
    (hres : resolveFrameLength buffer = Boundary.complete n) :
    exists colonIndex, colonIndex < 8 ∧ buffer[colonIndex]? = some colon ∧
      (forall j, j < colonIndex -> buffer[j]? ≠ some colon) ∧
      colonIndex + 1 + 3 ≤ n ∧ n ≤ buffer.length ∧
      buffer[n - 1]? = some frameTerminator := by
  rcases headToken_cases buffer with
    ⟨c, hhead, hcolon⟩ | ⟨hlen, hnone⟩ | ⟨hlen, hnone⟩
  · rw [resolveFrameLength_of_colon hcolon hhead] at hres
    rcases indexOf_eq_some_iff.mp hcolon with ⟨hval, hbefore⟩
    rcases ite_eq_iff.mp hres with ⟨_, hwait⟩ | ⟨_, hres⟩
    · cases hwait
    · exact ⟨c, hhead, hval, hbefore, resolveDeclaredLength_complete hres⟩
  · rw [resolveFrameLength_of_short hlen hnone] at hres
    cases hres
  · rw [resolveFrameLength_of_no_colon hlen hnone] at hres
    cases hres

/-- What is handed out ends with the terminator, and its head token ends within
its first eight bytes. -/
theorem take_of_complete {buffer : Bytes} {n : Nat}
    (hres : resolveFrameLength buffer = Boundary.complete n) :
    (buffer.take n).length = n ∧
      (buffer.take n).getLast? = some frameTerminator ∧
      exists colonIndex, colonIndex < 8 ∧
        indexOf (buffer.take n) colon = some colonIndex ∧
        colonIndex + 1 + 3 ≤ (buffer.take n).length := by
  rcases resolveFrameLength_complete hres with
    ⟨c, hc, hcolon, hbefore, hlen, hn, hterm⟩
  have htake : (buffer.take n).length = n := by
    rw [List.length_take, Nat.min_eq_left hn]
  refine ⟨htake, ?_, c, hc, indexOf_eq_some_iff.mpr ⟨?_, ?_⟩, ?_⟩
  · rw [List.getLast?_eq_getElem?, htake, List.getElem?_take_of_lt (by lia)]
    exact hterm
  · rw [List.getElem?_take_of_lt (by lia)]
    exact hcolon
  · intro j hj
    rw [List.getElem?_take_of_lt (by lia)]
    exact hbefore j hj
  · rw [htake]
    exact hlen

/-- The splitter gives up on a buffer only if its first eight bytes hold no
colon. -/
theorem resolveFrameLength_desync {buffer : Bytes}
    (hres : resolveFrameLength buffer = Boundary.desync) :
    8 ≤ buffer.length ∧ forall j, j < 8 -> buffer[j]? ≠ some colon := by
  rcases headToken_cases buffer with
    ⟨c, hhead, hcolon⟩ | ⟨hlen, hnone⟩ | hnone
  · rw [resolveFrameLength_of_colon hcolon hhead] at hres
    rcases ite_eq_iff.mp hres with ⟨_, hwait⟩ | ⟨_, hres⟩
    · cases hwait
    · exact absurd hres (resolveDeclaredLength_ne_desync _ _)
  · rw [resolveFrameLength_of_short hlen hnone] at hres
    cases hres
  · exact hnone

/-!
## The splitter
-/

/-- The boundary rule of the splitter. -/
def trackerFraming : FramingRule where
  resolve := resolveFrameLength
  marker := frameTerminator
  resolve_nil := by decide
  resolve_pos := by
    intro buffer n hres
    rcases resolveFrameLength_complete hres with ⟨c, _, _, _, hn, _⟩
    lia

theorem trackerFraming_resolve :
    trackerFraming.resolve = resolveFrameLength :=
  rfl

/-- The splitter of one socket. -/
structure TrackerFrameSplitter where
  maxBufferBytes : Nat := 64 * 1024
  buffer : Bytes := []
  deriving DecidableEq, Repr

namespace TrackerFrameSplitter

/-- Feed newly received bytes in and pull out every complete frame. -/
def push (s : TrackerFrameSplitter) (chunk : Bytes) :
    Push × TrackerFrameSplitter :=
  let p := Foundation.push trackerFraming s.maxBufferBytes s.buffer chunk
  (p, { s with buffer := p.pending })

def pendingByteCount (s : TrackerFrameSplitter) : Nat :=
  s.buffer.length

def reset (s : TrackerFrameSplitter) : TrackerFrameSplitter :=
  { s with buffer := [] }

def pushChunks : TrackerFrameSplitter -> List Bytes ->
    List Push × TrackerFrameSplitter
  | s, [] => ([], s)
  | s, chunk :: chunks =>
      let p := s.push chunk
      let rest := p.2.pushChunks chunks
      (p.1 :: rest.1, rest.2)

theorem pushChunks_eq (chunks : List Bytes) :
    forall s : TrackerFrameSplitter,
      s.pushChunks chunks =
        ((pushAll trackerFraming s.maxBufferBytes s.buffer chunks).1,
          { s with buffer :=
              (pushAll trackerFraming s.maxBufferBytes s.buffer chunks).2 }) := by
  induction chunks with
  | nil => intro s; rfl
  | cons chunk chunks ih =>
      intro s
      rw [pushChunks, ih]
      rfl

/-- A run returns exactly the given frames: in order, over all its pushes,
with no overflow and nothing pending at the end. -/
structure ReturnsExactly (frames : List Bytes)
    (run : List Push × TrackerFrameSplitter) : Prop where
  frames_eq : framesOf run.1 = frames
  not_overflowed : forall p, p ∈ run.1 -> p.overflowed = false
  nothing_pending : run.2.pendingByteCount = 0

theorem returnsExactly_iff {frames chunks : List Bytes}
    {s : TrackerFrameSplitter} :
    ReturnsExactly frames (s.pushChunks chunks) <->
      ExactRun frames
        (pushAll trackerFraming s.maxBufferBytes s.buffer chunks) := by
  rw [pushChunks_eq]
  constructor
  · intro h
    exact ⟨h.frames_eq, h.not_overflowed,
      List.length_eq_zero_iff.mp h.nothing_pending⟩
  · intro h
    exact ⟨h.frames_eq, h.not_overflowed,
      List.length_eq_zero_iff.mpr h.pending_eq⟩

end TrackerFrameSplitter

end Tracker
end AvtTracker
