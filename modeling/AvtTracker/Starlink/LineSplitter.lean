import AvtTracker.Foundation.Lines
import AvtTracker.Foundation.Utf8

/-!
# The StarLink line splitter

{lit}`StarlinkLineSplitter` buffers the bytes of one socket and extracts complete
lines.  A line ends at a newline, a carriage return in front of it is stripped,
and blank lines are dropped.  However the stream is cut into chunks, the lines
are those of the whole stream.
-/

namespace AvtTracker
namespace Starlink

open Foundation

/-- {lit}`LINE_TERMINATOR`, the byte of a newline. -/
def lineTerminator : UInt8 := 0x0a

/-- {lit}`CARRIAGE_RETURN` -/
def carriageReturn : UInt8 := 0x0d

/-- The loop of {lit}`push`, bounded by the number of rounds it may take. -/
def extractLines : Nat -> Bytes -> List Utf16 -> List Utf16 × Bytes
  | 0, buffer, lines => (lines, buffer)
  | fuel + 1, buffer, lines =>
      match indexOf buffer lineTerminator with
      | none => (lines, buffer)
      | some newlineIndex =>
          let lineEnd :=
            if newlineIndex > 0 ∧
                buffer[newlineIndex - 1]? = some carriageReturn then
              newlineIndex - 1
            else newlineIndex
          let line := utf8Text (buffer.take lineEnd)
          extractLines fuel (buffer.drop (newlineIndex + 1))
            (if line.length > 0 then lines ++ [line] else lines)

/-- What one {lit}`push` returns. -/
structure LinePush where
  lines : List Utf16
  overflowed : Bool
  deriving DecidableEq, Repr

/-- The splitter of one socket. -/
structure StarlinkLineSplitter where
  maxBufferBytes : Nat := 8 * 1024
  buffer : Bytes := []
  deriving DecidableEq, Repr

namespace StarlinkLineSplitter

/-- Feed newly received bytes in and pull out every complete line. -/
def push (s : StarlinkLineSplitter) (chunk : Bytes) :
    LinePush × StarlinkLineSplitter :=
  let buffer := s.buffer ++ chunk
  let extracted := extractLines (buffer.length + 1) buffer []
  if extracted.2.length > s.maxBufferBytes then
    ({ lines := extracted.1, overflowed := true }, { s with buffer := [] })
  else
    ({ lines := extracted.1, overflowed := false },
      { s with buffer := extracted.2 })

def pendingByteCount (s : StarlinkLineSplitter) : Nat :=
  s.buffer.length

def reset (s : StarlinkLineSplitter) : StarlinkLineSplitter :=
  { s with buffer := [] }

/-- A run of pushes. -/
def pushChunks : StarlinkLineSplitter -> List Bytes ->
    List LinePush × StarlinkLineSplitter
  | s, [] => ([], s)
  | s, chunk :: chunks =>
      let p := s.push chunk
      let rest := p.2.pushChunks chunks
      (p.1 :: rest.1, rest.2)

end StarlinkLineSplitter

/-!
## The lines of a whole stream
-/

/-- A run without the carriage return it may end with. -/
def stripCarriageReturn (run : Bytes) : Bytes :=
  if run.getLast? = some carriageReturn then run.dropLast else run

/-- The text of each run, blank ones dropped. -/
def linesOfRuns (runs : List Bytes) : List Utf16 :=
  ((runs.map stripCarriageReturn).filter (fun run => run ≠ [])).map utf8Text

/-- The lines of a stream that is split at once. -/
def referenceLines (stream : Bytes) : List Utf16 :=
  linesOfRuns (terminatedRuns lineTerminator stream)

theorem linesOfRuns_append (runs more : List Bytes) :
    linesOfRuns (runs ++ more) = linesOfRuns runs ++ linesOfRuns more := by
  simp only [linesOfRuns, List.map_append, List.filter_append]

theorem utf8Text_length_pos_iff {run : Bytes} :
    (utf8Text run).length > 0 <-> run ≠ [] := by
  rw [gt_iff_lt, List.length_pos_iff, ne_eq, utf8Text_eq_nil]

theorem linesOfRuns_cons (run : Bytes) (runs : List Bytes) :
    linesOfRuns (run :: runs) =
      (if (utf8Text (stripCarriageReturn run)).length > 0 then
        [utf8Text (stripCarriageReturn run)] else []) ++
        linesOfRuns runs := by
  by_cases h : stripCarriageReturn run = []
  · simp [linesOfRuns, h]
  · rw [if_pos (utf8Text_length_pos_iff.mpr h)]
    simp [linesOfRuns, h]

/-!
## One push
-/

/-- The end of a line is found in front of its terminator, and in front of the
carriage return there may be. -/
theorem take_lineEnd (run rest : Bytes) :
    (run ++ lineTerminator :: rest).take
        (if run.length > 0 ∧ (run ++ lineTerminator :: rest)[run.length - 1]? =
            some carriageReturn then run.length - 1 else run.length) =
      stripCarriageReturn run := by
  unfold stripCarriageReturn
  by_cases hempty : run = []
  · subst hempty
    rfl
  · have hpos : 0 < run.length := List.length_pos_iff.mpr hempty
    have hlast : (run ++ lineTerminator :: rest)[run.length - 1]? =
        run.getLast? := by
      rw [List.getElem?_append_left (by lia), List.getLast?_eq_getElem?]
    rw [hlast]
    by_cases hreturn : run.getLast? = some carriageReturn
    · rw [if_pos ⟨hpos, hreturn⟩, if_pos hreturn,
        List.take_append_of_le_length (by lia), List.dropLast_eq_take]
    · rw [if_neg (fun hc => hreturn hc.right), if_neg hreturn]
      exact List.take_left

/-- The loop extracts the lines of the terminated runs and keeps the open
run. -/
theorem extractLines_eq (buffer : Bytes) :
    forall {fuel : Nat} (lines : List Utf16), buffer.length < fuel ->
      extractLines fuel buffer lines =
        (lines ++ referenceLines buffer, openRun lineTerminator buffer) := by
  induction buffer using runs_induction lineTerminator with
  | hopen buffer hmem =>
      intro fuel lines h
      rcases runs_of_not_mem hmem with ⟨hruns, hopen⟩
      have hnone := indexOf_eq_none_iff_not_mem.mpr hmem
      cases fuel with
      | zero => exact absurd h (Nat.not_lt_zero _)
      | succ fuel =>
          rw [referenceLines, hruns, hopen]
          simp [extractLines, hnone, linesOfRuns]
  | hrun run rest hnot ih =>
      intro fuel lines h
      rcases runs_append_cons hnot rest with ⟨hruns, hopen⟩
      cases fuel with
      | zero => exact absurd h (Nat.not_lt_zero _)
      | succ fuel =>
          rw [List.length_append, List.length_cons] at h
          have hrest : rest.length < fuel := by lia
          rw [referenceLines, hruns, hopen, linesOfRuns_cons]
          simp only [extractLines, indexOf_append_cons hnot, take_lineEnd,
            drop_append_cons, ih _ hrest]
          by_cases hpos : (utf8Text (stripCarriageReturn run)).length > 0
          · rw [if_pos hpos, if_pos hpos, List.append_assoc]
            rfl
          · rw [if_neg hpos, if_neg hpos]
            rfl

theorem push_eq {s : StarlinkLineSplitter} {chunk : Bytes}
    (h : (openRun lineTerminator (s.buffer ++ chunk)).length ≤
      s.maxBufferBytes) :
    s.push chunk =
      ({ lines := referenceLines (s.buffer ++ chunk), overflowed := false },
        { s with buffer := openRun lineTerminator (s.buffer ++ chunk) }) := by
  have hextract := extractLines_eq (s.buffer ++ chunk) []
    (Nat.lt_succ_self _)
  simp only [StarlinkLineSplitter.push, hextract, List.nil_append,
    if_neg (Nat.not_lt.mpr h)]

/-!
## Runs of pushes
-/

/-- Every push continues the stream seen so far: its open run is what the
splitter holds. -/
theorem pushChunks_from {maxBufferBytes : Nat} (seen : Bytes)
    (chunks : List Bytes)
    (h : forall run,
      run ∈ (seen ++ chunks.flatten).splitOn lineTerminator ->
        run.length ≤ maxBufferBytes) :
    let s : StarlinkLineSplitter :=
      { maxBufferBytes := maxBufferBytes
        buffer := openRun lineTerminator seen }
    referenceLines seen ++ (s.pushChunks chunks).1.flatMap LinePush.lines =
        referenceLines (seen ++ chunks.flatten) ∧
      (forall p, p ∈ (s.pushChunks chunks).1 -> p.overflowed = false) ∧
      (s.pushChunks chunks).2.buffer =
        openRun lineTerminator (seen ++ chunks.flatten) := by
  induction chunks generalizing seen with
  | nil =>
      rw [List.flatten_nil, List.append_nil]
      refine ⟨List.append_nil _, ?_, rfl⟩
      intro p hp
      cases hp
  | cons chunk chunks ih =>
      intro s
      rw [List.flatten_cons, ← List.append_assoc] at h ⊢
      rcases runs_append lineTerminator seen chunk with ⟨hruns, hopen⟩
      have hfits : (openRun lineTerminator (s.buffer ++ chunk)).length ≤
          s.maxBufferBytes := by
        rcases exists_run_of_openRun lineTerminator (seen ++ chunk)
          chunks.flatten with ⟨run, hmem, hle⟩
        rw [hopen] at hle
        exact Nat.le_trans hle (h run hmem)
      have hpush := push_eq hfits
      rcases ih (seen ++ chunk) h with ⟨hlines, hover, hbuffer⟩
      rw [hopen] at hlines hover hbuffer
      simp only [StarlinkLineSplitter.pushChunks, hpush, List.flatMap_cons]
      refine ⟨?_, ?_, hbuffer⟩
      · rw [← hlines, ← List.append_assoc]
        congr 1
        rw [referenceLines, referenceLines, referenceLines, hruns,
          linesOfRuns_append]
      · intro p hp
        rcases List.mem_cons.mp hp with rfl | hp
        · rfl
        · exact hover p hp

/--
If no run between newlines is over the buffer limit, the lines returned over all
pushes are the lines of the stream, no push overflows, and what stays pending is
the run behind the last newline.
-/
theorem lines_of_pushChunks (maxBufferBytes : Nat) (chunks : List Bytes)
    (h : forall run, run ∈ chunks.flatten.splitOn lineTerminator ->
      run.length ≤ maxBufferBytes) :
    let s : StarlinkLineSplitter := { maxBufferBytes := maxBufferBytes }
    (s.pushChunks chunks).1.flatMap LinePush.lines =
        referenceLines chunks.flatten ∧
      (forall p, p ∈ (s.pushChunks chunks).1 -> p.overflowed = false) ∧
      (s.pushChunks chunks).2.pendingByteCount =
        (openRun lineTerminator chunks.flatten).length := by
  rcases pushChunks_from [] chunks h with ⟨hlines, hover, hbuffer⟩
  exact ⟨hlines, hover, congrArg List.length hbuffer⟩

/-- Two lines of three bytes, cut between a carriage return and its newline and
inside a character. -/
theorem lines_of_pushChunks_cut :
    let s : StarlinkLineSplitter := { maxBufferBytes := 3 }
    let chunks : List Bytes :=
      [[0x41, 0x0d], [], [0x0a, 0xc3], [0xa9, 0x0a, 0x42]]
    (s.pushChunks chunks).1.flatMap LinePush.lines = [[0x41], [0xe9]] ∧
      (s.pushChunks chunks).2.pendingByteCount = 1 := by
  have hrun := lines_of_pushChunks 3
    [[0x41, 0x0d], [], [0x0a, 0xc3], [0xa9, 0x0a, 0x42]] (by decide)
  exact ⟨hrun.left, hrun.right.right⟩

end Starlink
end AvtTracker
