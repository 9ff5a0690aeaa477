import AvtTracker.Starlink.LineSplitter

/-!
# Lines after an overflow

A splitter over its limit drops the open line it holds, and does not remember
that it is inside one.  What follows up to the newline is taken for a line of
its own.  Here every returned line is placed in the stream, and the runs are
characterised in which all of them are complete lines.
-/

namespace AvtTracker
namespace Starlink

open Foundation

/-- A line and the offset in the stream that its bytes begin at. -/
structure PlacedLine where
  start : Nat
  text : Utf16
  deriving DecidableEq, Repr

/-- The loop of {lit}`push` again, told the offset its buffer begins at. -/
def placeLines : Nat -> Nat -> Bytes -> List PlacedLine
  | 0, _, _ => []
  | fuel + 1, offset, buffer =>
      match indexOf buffer lineTerminator with
      | none => []
      | some newlineIndex =>
          let lineEnd :=
            if newlineIndex > 0 ∧
                buffer[newlineIndex - 1]? = some carriageReturn then
              newlineIndex - 1
            else newlineIndex
          let line := utf8Text (buffer.take lineEnd)
          let rest := placeLines fuel (offset + (newlineIndex + 1))
            (buffer.drop (newlineIndex + 1))
          if line.length > 0 then { start := offset, text := line } :: rest
          else rest

namespace StarlinkLineSplitter

/-- The lines one push returns, in the stream of all bytes received: the buffer
holds the last of those received before. -/
def placedLines (s : StarlinkLineSplitter) (received : Nat) (chunk : Bytes) :
    List PlacedLine :=
  let buffer := s.buffer ++ chunk
  placeLines (buffer.length + 1) (received - s.buffer.length) buffer

/-- A fresh splitter after a run of pushes. -/
def stateAfter (maxBufferBytes : Nat) (chunks : List Bytes) :
    StarlinkLineSplitter :=
  (pushChunks { maxBufferBytes := maxBufferBytes } chunks).2

end StarlinkLineSplitter

open StarlinkLineSplitter

/-- The line begins at the start of the stream or right behind a newline, and
its text is that of the bytes up to the next newline. -/
def CompleteLine (stream : Bytes) (line : PlacedLine) : Prop :=
  exists run, RunAt lineTerminator stream line.start run ∧
    line.text = utf8Text (stripCarriageReturn run)

/-- Every push of a run returns complete lines of the stream received so far.
None of them lies in what is left of a line that a push before it dropped: a
newline was received after the drop and in front of the line. -/
structure NoFragmentReturned (maxBufferBytes : Nat) (chunks : List Bytes) :
    Prop where
  placed : forall before chunk, before ++ [chunk] <+: chunks ->
    ((stateAfter maxBufferBytes before).push chunk).1.lines =
      ((stateAfter maxBufferBytes before).placedLines
        before.flatten.length chunk).map PlacedLine.text
  complete : forall before chunk, before ++ [chunk] <+: chunks ->
    forall line,
      line ∈ (stateAfter maxBufferBytes before).placedLines
          before.flatten.length chunk ->
        CompleteLine (before ++ [chunk]).flatten line
  not_remainder : forall before chunk middle later,
    before ++ [chunk] ++ middle ++ [later] <+: chunks ->
      ((stateAfter maxBufferBytes before).push chunk).1.overflowed = true ->
        forall line,
          line ∈ (stateAfter maxBufferBytes
              (before ++ [chunk] ++ middle)).placedLines
              (before ++ [chunk] ++ middle).flatten.length later ->
            exists i, (before ++ [chunk]).flatten.length ≤ i ∧
              i < line.start ∧
              (before ++ [chunk] ++ middle ++ [later]).flatten[i]? =
                some lineTerminator

/-- Whenever a newline arrives and the splitter has lost bytes of its line, the
bytes it has left of that line are blank. -/
def RemaindersBlank (maxBufferBytes : Nat) (chunks : List Bytes) : Prop :=
  forall before chunk, before ++ [chunk] <+: chunks ->
    (stateAfter maxBufferBytes before).buffer ≠
        openRun lineTerminator before.flatten ->
      forall run,
        RunAt lineTerminator
            ((stateAfter maxBufferBytes before).buffer ++ chunk) 0 run ->
          stripCarriageReturn run = []

/-!
## The lines of one push
-/

theorem map_text_ite (offset : Nat) (line : Utf16) (lines : List Utf16)
    (rest : List PlacedLine) :
    (if line.length > 0 then lines ++ [line] else lines) ++
        rest.map PlacedLine.text =
      lines ++ (if line.length > 0 then
        { start := offset, text := line } :: rest else rest).map
          PlacedLine.text := by
  by_cases h : line.length > 0
  · rw [if_pos h, if_pos h, List.append_assoc]
    rfl
  · rw [if_neg h, if_neg h]

theorem mem_ite_cons_iff {offset : Nat} {run : Bytes} {line : PlacedLine}
    {rest : List PlacedLine} :
    line ∈ (if (utf8Text run).length > 0 then
        { start := offset, text := utf8Text run } :: rest else rest) <->
      (run ≠ [] ∧ line = { start := offset, text := utf8Text run }) ∨
        line ∈ rest := by
  by_cases h : run = []
  · rw [if_neg (fun hpos => utf8Text_length_pos_iff.mp hpos h)]
    simp [h]
  · rw [if_pos (utf8Text_length_pos_iff.mpr h), List.mem_cons]
    simp [h]

theorem extractLines_lines (fuel : Nat) :
    forall (offset : Nat) (buffer : Bytes) (lines : List Utf16),
      (extractLines fuel buffer lines).1 =
        lines ++ (placeLines fuel offset buffer).map PlacedLine.text := by
  induction fuel with
  | zero =>
      intro offset buffer lines
      exact (List.append_nil _).symm
  | succ fuel ih =>
      intro offset buffer lines
      unfold extractLines placeLines
      cases indexOf buffer lineTerminator with
      | none => exact (List.append_nil _).symm
      | some newlineIndex =>
          dsimp only
          rw [ih (offset + (newlineIndex + 1))]
          exact map_text_ite _ _ _ _

theorem push_lines (s : StarlinkLineSplitter) (chunk : Bytes) :
    (s.push chunk).1.lines =
      (extractLines ((s.buffer ++ chunk).length + 1) (s.buffer ++ chunk)
        []).1 := by
  unfold StarlinkLineSplitter.push
  by_cases h : (extractLines ((s.buffer ++ chunk).length + 1)
      (s.buffer ++ chunk) []).2.length > s.maxBufferBytes
  · simp only [if_pos h]
  · simp only [if_neg h]

theorem placedLines_text (s : StarlinkLineSplitter) (received : Nat)
    (chunk : Bytes) :
    (s.push chunk).1.lines =
      (s.placedLines received chunk).map PlacedLine.text := by
  rw [push_lines, extractLines_lines _ (received - s.buffer.length)]
  rfl

theorem mem_placeLines_iff (buffer : Bytes) :
    forall {fuel offset : Nat} {line : PlacedLine}, buffer.length < fuel ->
      (line ∈ placeLines fuel offset buffer <->
        exists start run, RunAt lineTerminator buffer start run ∧
          stripCarriageReturn run ≠ [] ∧
          line = { start := offset + start
                   text := utf8Text (stripCarriageReturn run) }) := by
  induction buffer using runs_induction lineTerminator with
  | hopen buffer hmem =>
      intro fuel offset line h
      have hnone := indexOf_eq_none_iff_not_mem.mpr hmem
      cases fuel with
      | zero => exact absurd h (Nat.not_lt_zero _)
      | succ fuel =>
          simp only [placeLines, hnone]
          constructor
          · intro hline
            cases hline
          · rintro ⟨_, _, hat, _, _⟩
            exact absurd hat.mem hmem
  | hrun run rest hnot ih =>
      intro fuel offset line h
      cases fuel with
      | zero => exact absurd h (Nat.not_lt_zero _)
      | succ fuel =>
          rw [List.length_append, List.length_cons] at h
          have hrest : rest.length < fuel := by lia
          simp only [placeLines, indexOf_append_cons hnot, take_lineEnd,
            drop_append_cons, mem_ite_cons_iff, ih hrest]
          constructor
          · rintro (⟨hblank, rfl⟩ | ⟨later, found, hat, hblank, rfl⟩)
            · exact ⟨0, run, (runAt_append_cons_iff hnot).mpr
                (Or.inl ⟨rfl, rfl⟩), hblank, rfl⟩
            · refine ⟨run.length + 1 + later, found,
                (runAt_append_cons_iff hnot).mpr (Or.inr ⟨later, rfl, hat⟩),
                hblank, ?_⟩
              rw [Nat.add_assoc]
          · rintro ⟨start, found, hat, hblank, rfl⟩
            rcases (runAt_append_cons_iff hnot).mp hat with
              ⟨rfl, rfl⟩ | ⟨later, rfl, hlater⟩
            · exact Or.inl ⟨hblank, rfl⟩
            · refine Or.inr ⟨later, found, hlater, hblank, ?_⟩
              rw [← Nat.add_assoc]

/-!
## What the splitter holds
-/

theorem push_buffer (s : StarlinkLineSplitter) (chunk : Bytes) :
    (s.push chunk).2.buffer =
      if (s.push chunk).1.overflowed then []
      else openRun lineTerminator (s.buffer ++ chunk) := by
  have hextract := extractLines_eq (s.buffer ++ chunk) []
    (Nat.lt_succ_self _)
  simp only [StarlinkLineSplitter.push, hextract]
  by_cases h : (openRun lineTerminator (s.buffer ++ chunk)).length >
      s.maxBufferBytes
  · rw [if_pos h]
    rfl
  · rw [if_neg h]
    rfl

theorem openRun_ne_nil_of_overflowed {s : StarlinkLineSplitter} {chunk : Bytes}
    (h : (s.push chunk).1.overflowed = true) :
    openRun lineTerminator (s.buffer ++ chunk) ≠ [] := by
  intro hnil
  have hfits : (openRun lineTerminator (s.buffer ++ chunk)).length ≤
      s.maxBufferBytes := by
    rw [hnil]
    exact Nat.zero_le _
  rw [push_eq hfits] at h
  cases h

theorem pushChunks_buffer_isSuffix (chunks : List Bytes) :
    forall {s : StarlinkLineSplitter}, lineTerminator ∉ s.buffer ->
      (s.pushChunks chunks).2.buffer <:+
        openRun lineTerminator (s.buffer ++ chunks.flatten) := by
  induction chunks with
  | nil =>
      intro s h
      rw [List.flatten_nil, List.append_nil, (runs_of_not_mem h).right]
      exact List.suffix_refl _
  | cons chunk chunks ih =>
      intro s h
      have hsuffix : (s.push chunk).2.buffer <:+
          openRun lineTerminator (s.buffer ++ chunk) := by
        rw [push_buffer]
        split
        · exact List.nil_suffix
        · exact List.suffix_refl _
      have hnot : lineTerminator ∉ (s.push chunk).2.buffer :=
        fun hmem => not_mem_openRun _ _ (hsuffix.subset hmem)
      rcases hsuffix.trans (openRun_isSuffix _ _) with ⟨dropped, hdropped⟩
      have hrest := openRun_isSuffix_append lineTerminator dropped
        ((s.push chunk).2.buffer ++ chunks.flatten)
      rw [← List.append_assoc, hdropped, List.append_assoc] at hrest
      exact (ih hnot).trans hrest

theorem pushChunks_append (chunks more : List Bytes) :
    forall s : StarlinkLineSplitter,
      (s.pushChunks (chunks ++ more)).2 =
        ((s.pushChunks chunks).2.pushChunks more).2 := by
  induction chunks with
  | nil => intro s; rfl
  | cons chunk chunks ih => intro s; exact ih _

/-- What the splitter holds of a stream, behind the bytes it gave up. -/
structure HoldsTail (s : StarlinkLineSplitter) (lost stream : Bytes) : Prop where
  stream_eq : stream = lost ++ s.buffer
  not_mem : lineTerminator ∉ s.buffer

theorem HoldsTail.append_left {s : StarlinkLineSplitter} {lost stream : Bytes}
    (h : HoldsTail s lost stream) (received : Bytes) :
    HoldsTail s (received ++ lost) (received ++ stream) := by
  constructor
  · rw [h.stream_eq, List.append_assoc]
  · exact h.not_mem

/-- From an empty buffer on, the splitter holds part of what it is fed. -/
theorem exists_holds {s : StarlinkLineSplitter} (h : s.buffer = [])
    (chunks : List Bytes) :
    exists lost, HoldsTail (s.pushChunks chunks).2 lost chunks.flatten := by
  have hempty : lineTerminator ∉ s.buffer := by
    rw [h]
    exact List.not_mem_nil
  have hsuffix := pushChunks_buffer_isSuffix chunks hempty
  rw [h, List.nil_append] at hsuffix
  rcases hsuffix.trans (openRun_isSuffix _ _) with ⟨lost, hlost⟩
  exact ⟨lost, hlost.symm,
    fun hmem => not_mem_openRun _ _ (hsuffix.subset hmem)⟩

/-- The splitter holds the whole open run exactly when no run is open in the
bytes it gave up. -/
theorem HoldsTail.buffer_eq_iff {s : StarlinkLineSplitter} {lost stream : Bytes}
    (h : HoldsTail s lost stream) :
    s.buffer = openRun lineTerminator stream <->
      openRun lineTerminator lost = [] := by
  rw [h.stream_eq, openRun_append_of_not_mem h.not_mem]
  exact List.self_eq_append_left

/-!
## The lines of a run
-/

theorem HoldsTail.mem_placedLines_iff {s : StarlinkLineSplitter}
    {lost stream chunk : Bytes} (h : HoldsTail s lost stream)
    {line : PlacedLine} :
    line ∈ s.placedLines stream.length chunk <->
      exists start run,
        RunAt lineTerminator (s.buffer ++ chunk) start run ∧
          stripCarriageReturn run ≠ [] ∧
          line = { start := lost.length + start
                   text := utf8Text (stripCarriageReturn run) } := by
  have hlost : stream.length - s.buffer.length = lost.length := by
    rw [h.stream_eq, List.length_append, Nat.add_sub_cancel]
  rw [← hlost]
  exact mem_placeLines_iff (s.buffer ++ chunk) (Nat.lt_succ_self _)

/-- The lines of one push are complete exactly when the splitter holds the whole
open line, or the bytes it has of it up to the newline are blank. -/
theorem HoldsTail.placedLines_complete_iff {s : StarlinkLineSplitter}
    {lost stream chunk : Bytes} (h : HoldsTail s lost stream) :
    (forall line, line ∈ s.placedLines stream.length chunk ->
        CompleteLine (stream ++ chunk) line) <->
      (s.buffer ≠ openRun lineTerminator stream ->
        forall run, RunAt lineTerminator (s.buffer ++ chunk) 0 run ->
          stripCarriageReturn run = []) := by
  have hstream : stream ++ chunk = lost ++ (s.buffer ++ chunk) := by
    rw [h.stream_eq, List.append_assoc]
  rw [hstream, ne_eq, h.buffer_eq_iff]
  constructor
  · intro hcomplete hinside run hat
    apply Classical.byContradiction
    intro hblank
    have hline := h.mem_placedLines_iff.mpr ⟨0, run, hat, hblank, rfl⟩
    rcases hcomplete _ hline with ⟨_, hplaced, _⟩
    exact hinside hplaced.openRun_eq_nil
  · intro hblank line hline
    rcases h.mem_placedLines_iff.mp hline with ⟨start, run, hat, hrun, rfl⟩
    refine ⟨run, hat.append_left ?_, rfl⟩
    rintro rfl
    apply Classical.byContradiction
    intro hinside
    exact hrun (hblank hinside run hat)

theorem exists_holds_stateAfter (maxBufferBytes : Nat) (chunks : List Bytes) :
    exists lost,
      HoldsTail (stateAfter maxBufferBytes chunks) lost chunks.flatten :=
  @exists_holds { maxBufferBytes := maxBufferBytes } rfl chunks

theorem stateAfter_append (maxBufferBytes : Nat) (chunks more : List Bytes) :
    stateAfter maxBufferBytes (chunks ++ more) =
      ((stateAfter maxBufferBytes chunks).pushChunks more).2 :=
  pushChunks_append chunks more _

theorem openRun_ne_nil_of_drop {maxBufferBytes : Nat} {before : List Bytes}
    {chunk : Bytes}
    (h : ((stateAfter maxBufferBytes before).push chunk).1.overflowed = true) :
    openRun lineTerminator (before ++ [chunk]).flatten ≠ [] := by
  rcases exists_holds_stateAfter maxBufferBytes before with ⟨lost, hholds⟩
  have hsuffix := openRun_isSuffix_append lineTerminator lost
    ((stateAfter maxBufferBytes before).buffer ++ chunk)
  rw [← List.append_assoc, ← hholds.stream_eq] at hsuffix
  rw [List.flatten_concat]
  intro hnil
  rw [hnil] at hsuffix
  exact openRun_ne_nil_of_overflowed h (List.suffix_nil.mp hsuffix)

theorem exists_holds_of_drop {maxBufferBytes : Nat} {before : List Bytes}
    {chunk : Bytes}
    (h : ((stateAfter maxBufferBytes before).push chunk).1.overflowed = true)
    (middle : List Bytes) :
    exists lost,
      HoldsTail (stateAfter maxBufferBytes (before ++ [chunk] ++ middle))
        ((before ++ [chunk]).flatten ++ lost)
        (before ++ [chunk] ++ middle).flatten := by
  have hempty :
      (stateAfter maxBufferBytes (before ++ [chunk])).buffer = [] := by
    rw [stateAfter_append]
    exact (push_buffer _ _).trans (if_pos h)
  rcases exists_holds hempty middle with ⟨lost, hholds⟩
  exists lost
  rw [stateAfter_append, @List.flatten_append _ (before ++ [chunk]) middle]
  exact hholds.append_left _

/-- A complete line that is returned after a drop begins behind a newline that
was received after it. -/
theorem exists_newline_of_complete {maxBufferBytes : Nat}
    {before middle : List Bytes} {chunk later : Bytes} {line : PlacedLine}
    (hover :
      ((stateAfter maxBufferBytes before).push chunk).1.overflowed = true)
    (hline : line ∈ (stateAfter maxBufferBytes
        (before ++ [chunk] ++ middle)).placedLines
        (before ++ [chunk] ++ middle).flatten.length later)
    (hcomplete : CompleteLine
      (before ++ [chunk] ++ middle ++ [later]).flatten line) :
    exists i, (before ++ [chunk]).flatten.length ≤ i ∧ i < line.start ∧
      (before ++ [chunk] ++ middle ++ [later]).flatten[i]? =
        some lineTerminator := by
  rcases exists_holds_of_drop hover middle with ⟨lost, hholds⟩
  rcases hholds.mem_placedLines_iff.mp hline with ⟨start, _, _, _, rfl⟩
  rcases hcomplete with ⟨run, hat, _⟩
  rw [List.append_assoc (before ++ [chunk]),
    @List.flatten_append _ (before ++ [chunk])] at hat ⊢
  apply hat.exists_terminator (openRun_ne_nil_of_drop hover)
  rw [List.length_append]
  lia

theorem lastPush_complete_iff (maxBufferBytes : Nat) (before : List Bytes)
    (chunk : Bytes) :
    (forall line,
      line ∈ (stateAfter maxBufferBytes before).placedLines
          before.flatten.length chunk ->
        CompleteLine (before ++ [chunk]).flatten line) <->
      ((stateAfter maxBufferBytes before).buffer ≠
          openRun lineTerminator before.flatten ->
        forall run,
          RunAt lineTerminator
              ((stateAfter maxBufferBytes before).buffer ++ chunk) 0 run ->
            stripCarriageReturn run = []) := by
  rcases exists_holds_stateAfter maxBufferBytes before with ⟨lost, hholds⟩
  rw [List.flatten_concat]
  exact hholds.placedLines_complete_iff

/--
Over every run, all lines returned are complete lines of the stream, and none of
them is what is left of a dropped one, if and only if what is left of every
dropped line is blank.
-/
theorem noFragmentReturned_iff (maxBufferBytes : Nat) (chunks : List Bytes) :
    NoFragmentReturned maxBufferBytes chunks <->
      RemaindersBlank maxBufferBytes chunks := by
  constructor
  · intro h before chunk hrun
    exact (lastPush_complete_iff _ before chunk).mp
      (h.complete before chunk hrun)
  · intro h
    have hcomplete : forall before chunk, before ++ [chunk] <+: chunks ->
        forall line,
          line ∈ (stateAfter maxBufferBytes before).placedLines
              before.flatten.length chunk ->
            CompleteLine (before ++ [chunk]).flatten line := by
      intro before chunk hrun
      exact (lastPush_complete_iff _ before chunk).mpr (h before chunk hrun)
    constructor
    · intro before chunk _
      exact placedLines_text _ _ _
    · exact hcomplete
    · intro before chunk middle later hrun hover line hline
      exact exists_newline_of_complete hover hline
        (hcomplete _ later hrun line hline)

/-- Four bytes of a line, of which a limit of two drops three: the last one is
returned as a line. -/
theorem remainder_returned :
    let chunks : List Bytes := [[0x41, 0x41, 0x41], [0x42, 0x0a]]
    (pushChunks { maxBufferBytes := 2 } chunks).1.flatMap LinePush.lines =
        [[0x42]] ∧
      referenceLines chunks.flatten = [[0x41, 0x41, 0x41, 0x42]] ∧
      ¬ NoFragmentReturned 2 chunks := by
  refine ⟨by decide, by decide, ?_⟩
  intro h
  have hline : CompleteLine [0x41, 0x41, 0x41, 0x42, 0x0a]
      { start := 3, text := [0x42] } :=
    h.complete [[0x41, 0x41, 0x41]] [0x42, 0x0a] (List.prefix_refl _) _
      (by decide)
  rcases hline with ⟨run, hat, htext⟩
  have hruns : terminatedRuns lineTerminator
      [0x41, 0x41, 0x41, 0x42, 0x0a] = [[0x41, 0x41, 0x41, 0x42]] := by decide
  have hmem := mem_terminatedRuns_iff.mpr ⟨_, hat⟩
  rw [hruns, List.mem_singleton] at hmem
  subst hmem
  exact absurd htext (by decide)

end Starlink
end AvtTracker
