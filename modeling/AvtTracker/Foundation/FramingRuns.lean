import AvtTracker.Foundation.Framing

/-!
# Framing over successive pushes

A connection delivers its stream in chunks.  Each push drains the buffered
bytes together with the new chunk and keeps the rest, unless the rest is over
the buffer limit.  This module relates the frames handed out over a whole run
of pushes to the frames the stream was concatenated from.
-/

namespace AvtTracker
namespace Foundation

/-- What one push hands out and keeps. -/
structure Push where
  frames : List Bytes
  overflowed : Bool
  pending : Bytes
  deriving DecidableEq, Repr

/-- Drain the pending bytes and the chunk, dropping a rest over the limit. -/
def push (R : FramingRule) (maxBufferBytes : Nat) (pending chunk : Bytes) :
    Push :=
  let drained := drain R (pending ++ chunk)
  if drained.2.length > maxBufferBytes then
    { frames := drained.1, overflowed := true, pending := [] }
  else
    { frames := drained.1, overflowed := false, pending := drained.2 }

def pushAll (R : FramingRule) (maxBufferBytes : Nat) :
    Bytes -> List Bytes -> List Push × Bytes
  | pending, [] => ([], pending)
  | pending, chunk :: chunks =>
      let p := push R maxBufferBytes pending chunk
      let rest := pushAll R maxBufferBytes p.pending chunks
      (p :: rest.1, rest.2)

/-- The frames handed out over a run of pushes. -/
def framesOf (pushes : List Push) : List Bytes :=
  pushes.flatMap Push.frames

/-- A run hands out exactly the given frames, overflows nowhere and ends with
an empty buffer. -/
structure ExactRun (frames : List Bytes) (run : List Push × Bytes) : Prop where
  frames_eq : framesOf run.1 = frames
  not_overflowed : forall p, p ∈ run.1 -> p.overflowed = false
  pending_eq : run.2 = []

variable {R : FramingRule} {maxBufferBytes : Nat}

theorem push_of_drain {pending chunk left : Bytes} {done : List Bytes}
    (h : drain R (pending ++ chunk) = (done, left))
    (hmax : left.length ≤ maxBufferBytes) :
    push R maxBufferBytes pending chunk =
      { frames := done, overflowed := false, pending := left } := by
  have hnot : ¬ left.length > maxBufferBytes := Nat.not_lt.mpr hmax
  simp only [push, h, if_neg hnot]

theorem push_frames (pending chunk : Bytes) :
    (push R maxBufferBytes pending chunk).frames =
      (drain R (pending ++ chunk)).1 := by
  unfold push
  by_cases h : (drain R (pending ++ chunk)).2.length > maxBufferBytes
  · simp only [if_pos h]
  · simp only [if_neg h]

theorem framesOf_pushAll_cons (pending chunk : Bytes) (chunks : List Bytes) :
    framesOf (pushAll R maxBufferBytes pending (chunk :: chunks)).1 =
      (push R maxBufferBytes pending chunk).frames ++
        framesOf (pushAll R maxBufferBytes
          (push R maxBufferBytes pending chunk).pending chunks).1 :=
  rfl

theorem exactRun_cons {done frames : List Bytes} {p : Push}
    {run : List Push × Bytes} (hp : p.frames = done)
    (hover : p.overflowed = false) :
    ExactRun (done ++ frames) (p :: run.1, run.2) <-> ExactRun frames run := by
  constructor
  · intro h
    refine ⟨?_, fun q hq => h.not_overflowed q (List.mem_cons_of_mem _ hq),
      h.pending_eq⟩
    have hframes := h.frames_eq
    simp only [framesOf, List.flatMap_cons, hp] at hframes
    exact List.append_cancel_left hframes
  · intro h
    refine ⟨?_, ?_, h.pending_eq⟩
    · simp only [framesOf, List.flatMap_cons, hp]
      rw [← h.frames_eq]
      rfl
    · intro q hq
      cases hq with
      | head => exact hover
      | tail _ hq => exact h.not_overflowed q hq

/-!
## Streams with known boundaries

{lit}`Recognizes` says that wherever a frame of the list starts, the rule finds
its end as soon as the whole frame is buffered, no matter how much of the rest
of the stream is buffered behind it.
-/

/-- The rule finds the end of every frame of the list once it is complete. -/
def Recognizes (R : FramingRule) (frames : List Bytes) : Prop :=
  forall done f rest, frames = done ++ f :: rest ->
    forall buf : Bytes, f <+: buf -> buf <+: (f :: rest).flatten ->
      R.resolve buf = Boundary.complete f.length

theorem Recognizes.of_append {done rest : List Bytes}
    (h : Recognizes R (done ++ rest)) : Recognizes R rest := by
  intro done' f rest' heq buf hf hbuf
  exact h (done ++ done') f rest' (by rw [heq, List.append_assoc]) buf hf hbuf

theorem drain_flatten_append {done : List Bytes} {left : Bytes}
    (h : forall pre f post, done = pre ++ f :: post ->
      R.resolve ((f :: post).flatten ++ left) = Boundary.complete f.length) :
    drain R (done.flatten ++ left) =
      (done ++ (drain R left).1, (drain R left).2) := by
  induction done with
  | nil => rfl
  | cons f post ih =>
      have hres := h [] f post rfl
      have hlen : f.length ≤ ((f :: post).flatten ++ left).length := by
        simp only [List.flatten_cons, List.length_append]
        lia
      rw [drain_complete hres hlen]
      have hdrop : ((f :: post).flatten ++ left).drop f.length =
          post.flatten ++ left := by
        rw [List.flatten_cons, List.append_assoc, List.drop_left]
      have htake : ((f :: post).flatten ++ left).take f.length = f := by
        rw [List.flatten_cons, List.append_assoc, List.take_left]
      rw [hdrop, htake, ih (fun pre g post' heq =>
        h (f :: pre) g post' (by rw [heq, List.cons_append]))]
      rfl

/-- A stream of complete frames drains to exactly those frames if and only if
the rule finds the end of each of them in front of the frames behind it. -/
theorem drain_flatten_eq_iff {frames : List Bytes}
    (h : forall pre f post, frames = pre ++ f :: post ->
      exists n, n ≤ (f :: post).flatten.length ∧
        R.resolve (f :: post).flatten = Boundary.complete n) :
    drain R frames.flatten = (frames, []) <->
      forall pre f post, frames = pre ++ f :: post ->
        R.resolve (f :: post).flatten = Boundary.complete f.length := by
  constructor
  · intro hdrain
    induction frames with
    | nil =>
        intro pre f post heq
        simp at heq
    | cons g tail ih =>
        rcases h [] g tail rfl with ⟨n, hn, hres⟩
        rw [drain_complete hres hn] at hdrain
        injection hdrain with hframes hleft
        injection hframes with hhead htail
        have hlen : n = g.length := by
          rw [← hhead, List.length_take, Nat.min_eq_left hn]
        have hdrop : (g :: tail).flatten.drop n = tail.flatten := by
          rw [hlen, List.flatten_cons, List.drop_left]
        rw [hdrop] at htail hleft
        have hrest := ih
          (fun pre f post heq =>
            h (g :: pre) f post (by rw [heq, List.cons_append]))
          (Prod.ext htail hleft)
        intro pre f post heq
        cases pre with
        | nil =>
            injection heq with hg ht
            subst hg; subst ht
            rw [hres, hlen]
        | cons x pre =>
            injection heq with _ ht
            exact hrest pre f post ht
  · intro hall
    have hdrain : drain R (frames.flatten ++ []) = _ :=
      drain_flatten_append (fun pre f post heq => by
        rw [List.append_nil]
        exact hall pre f post heq)
    simpa using hdrain

theorem emitted_length_le (log : List Segment) :
    (log.filterMap Segment.emitted?).flatten.length ≤
      (log.flatMap Segment.bytes).length := by
  induction log with
  | nil => exact Nat.le_refl _
  | cons segment log ih =>
      rw [List.flatMap_cons, List.length_append, List.filterMap_cons]
      cases segment with
      | frame bytes =>
          simp only [Segment.emitted?, Segment.bytes, List.flatten_cons,
            List.length_append]
          lia
      | resync buffer length =>
          simp only [Segment.emitted?]
          lia

theorem drain_rest_eq_nil {frames : List Bytes}
    (h : (drain R frames.flatten).1 = frames) :
    (drain R frames.flatten).2 = [] := by
  rcases exists_drains R frames.flatten with ⟨log, hrun, hlog⟩
  have hbytes := congrArg List.length hrun.bytes_append
  have hle := emitted_length_le log
  rw [hlog, h] at hle
  rw [List.length_append] at hbytes
  exact List.length_eq_zero_iff.mp (by lia)

/-!
## Cuts

The bytes received after some pushes end inside one frame of the stream.
{lit}`IsCut` names the frames completed before that point, the frames still
open, and the part of the first open frame that has arrived.
-/

/-- {lit}`buf` ends {lit}`left` bytes into the first frame of {lit}`rest`. -/
structure IsCut (frames done rest : List Bytes) (buf left : Bytes) : Prop where
  frames_eq : frames = done ++ rest
  buf_eq : buf = done.flatten ++ left
  inside : (rest = [] ∧ left = []) ∨
    exists f tail, rest = f :: tail ∧ left <+: f ∧ left.length < f.length

theorem exists_isCut {frames : List Bytes} :
    forall {buf : Bytes}, buf <+: frames.flatten ->
      exists done rest left, IsCut frames done rest buf left := by
  induction frames with
  | nil =>
      intro buf hbuf
      have hnil : buf = [] := by simpa using hbuf
      exact ⟨[], [], [], rfl, by rw [hnil]; rfl, Or.inl ⟨rfl, rfl⟩⟩
  | cons f tail ih =>
      intro buf hbuf
      by_cases hlt : buf.length < f.length
      · have hpre : buf <+: f :=
          List.prefix_of_prefix_length_le hbuf
            (List.prefix_append f tail.flatten) (Nat.le_of_lt hlt)
        exact ⟨[], f :: tail, buf, rfl, rfl,
          Or.inr ⟨f, tail, rfl, hpre, hlt⟩⟩
      · have hpre : f <+: buf :=
          List.prefix_of_prefix_length_le
            (List.prefix_append f tail.flatten) hbuf (Nat.not_lt.mp hlt)
        rcases hpre with ⟨rest, hrest⟩
        have htail : rest <+: tail.flatten := by
          rw [← hrest, List.flatten_cons] at hbuf
          exact (List.prefix_append_right_inj f).mp hbuf
        rcases ih htail with ⟨done, open', left, hcut⟩
        refine ⟨f :: done, open', left, ?_, ?_, hcut.inside⟩
        · rw [hcut.frames_eq, List.cons_append]
        · rw [← hrest, hcut.buf_eq, List.flatten_cons, List.append_assoc]

theorem IsCut.left_isPrefix {frames done rest : List Bytes} {buf left : Bytes}
    (h : IsCut frames done rest buf left) : left <+: rest.flatten := by
  rcases h.inside with ⟨_, hleft⟩ | ⟨f, tail, hrest, hpre, _⟩
  · rw [hleft]
    exact List.nil_prefix
  · rw [hrest, List.flatten_cons]
    exact List.prefix_append_of_prefix hpre

/-- Draining up to a cut hands out the completed frames and then whatever the
rule makes of the open one. -/
theorem IsCut.drain_eq {frames done rest : List Bytes} {buf left : Bytes}
    (h : IsCut frames done rest buf left) (hrec : Recognizes R frames) :
    drain R buf = (done ++ (drain R left).1, (drain R left).2) := by
  rw [h.buf_eq]
  apply drain_flatten_append
  intro pre f post hdone
  have hframes : frames = pre ++ f :: (post ++ rest) := by
    rw [h.frames_eq, hdone, List.append_assoc, List.cons_append]
  apply hrec pre f (post ++ rest) hframes
  · rw [List.flatten_cons, List.append_assoc]
    exact List.prefix_append _ _
  · rw [List.flatten_cons, List.flatten_cons, List.flatten_append,
      List.append_assoc]
    exact (List.prefix_append_right_inj f).mpr
      ((List.prefix_append_right_inj post.flatten).mpr h.left_isPrefix)

/-!
## Runs over a stream with known boundaries
-/

/-- Wherever a push ends inside a frame, the rule waits for the rest of it. -/
def AwaitsCuts (R : FramingRule) (frames : List Bytes) (pending : Bytes)
    (chunks : List Bytes) : Prop :=
  forall done f rest left pre post,
    frames = done ++ f :: rest -> chunks = pre ++ post ->
    pending ++ pre.flatten = done.flatten ++ left ->
    left <+: f -> left.length < f.length ->
    R.resolve left = Boundary.wait

/-- The buffer holds part of the first remaining frame, and the rule waits. -/
structure Waiting (R : FramingRule) (frames : List Bytes) (pending : Bytes) :
    Prop where
  inside : (frames = [] ∧ pending = []) ∨
    exists f tail, frames = f :: tail ∧ pending <+: f ∧
      pending.length < f.length
  waits : R.resolve pending = Boundary.wait

theorem Waiting.waits_at {frames done rest : List Bytes}
    {pending f left : Bytes} (h : Waiting R frames pending)
    (hframes : frames = done ++ f :: rest)
    (hbytes : pending = done.flatten ++ left) : R.resolve left = Boundary.wait := by
  rcases h.inside with ⟨hnil, _⟩ | ⟨g, gs, hg, _, hglen⟩
  · rw [hnil] at hframes
    simp at hframes
  · cases done with
    | nil =>
        have hleft : left = pending := by simpa using hbytes.symm
        rw [hleft]
        exact h.waits
    | cons x xs =>
        rw [hg, List.cons_append] at hframes
        injection hframes with hx _
        have hcount := congrArg List.length hbytes
        simp only [List.flatten_cons, List.length_append, ← hx] at hcount
        lia

/-- A cut reached after the first chunk lies behind the frames that chunk
completed. -/
theorem cut_behind {done rest done' rest' : List Bytes} {f' : Bytes}
    {left left' more : Bytes}
    (hframes : done ++ rest = done' ++ f' :: rest')
    (hbytes : done.flatten ++ left ++ more = done'.flatten ++ left')
    (hlen : left'.length < f'.length) :
    exists done'', rest = done'' ++ f' :: rest' ∧
      left ++ more = done''.flatten ++ left' := by
  rcases List.append_eq_append_iff.mp hframes with
    ⟨mid, hdone', hrest⟩ | ⟨mid, hdone, hrest⟩
  · refine ⟨mid, hrest, ?_⟩
    rw [hdone', List.flatten_append, List.append_assoc,
      List.append_assoc] at hbytes
    exact List.append_cancel_left hbytes
  · cases mid with
    | nil =>
        have hdone' : done = done' := by simpa using hdone
        refine ⟨[], by simpa using hrest.symm, ?_⟩
        rw [hdone', List.append_assoc] at hbytes
        simpa using List.append_cancel_left hbytes
    | cons g mid =>
        injection hrest with hg _
        rw [hdone, List.flatten_append, List.flatten_cons, List.append_assoc,
          List.append_assoc] at hbytes
        have hcount := congrArg List.length (List.append_cancel_left hbytes)
        simp only [List.length_append, ← hg] at hcount
        lia

theorem awaitsCuts_cons {done rest : List Bytes} {pending chunk left : Bytes}
    {chunks : List Bytes} (hwait : Waiting R (done ++ rest) pending)
    (hcut : pending ++ chunk = done.flatten ++ left) :
    AwaitsCuts R (done ++ rest) pending (chunk :: chunks) <->
      AwaitsCuts R rest left chunks := by
  constructor
  · intro h done' f' rest' left' pre post hframes hchunks hbytes hpre hlen
    apply h (done ++ done') f' rest' left' (chunk :: pre) post
    · rw [hframes, List.append_assoc]
    · rw [hchunks, List.cons_append]
    · rw [List.flatten_cons, ← List.append_assoc, hcut, List.append_assoc,
        hbytes, List.flatten_append, List.append_assoc]
    · exact hpre
    · exact hlen
  · intro h done' f' rest' left' pre post hframes hchunks hbytes hpre hlen
    cases pre with
    | nil =>
        rw [List.flatten_nil, List.append_nil] at hbytes
        exact hwait.waits_at hframes hbytes
    | cons c pre =>
        rw [List.cons_append] at hchunks
        injection hchunks with hc hchunks
        rw [List.flatten_cons, ← hc, ← List.append_assoc, hcut] at hbytes
        rcases cut_behind hframes hbytes hlen with ⟨done'', hrest, hmore⟩
        exact h done'' f' rest' left' pre post hrest hchunks hmore hpre hlen

theorem not_exactRun_of_early {done tail : List Bytes} {f left : Bytes}
    {p : Push} {run : List Push × Bytes} {n : Nat} {more : List Bytes}
    (hn : n ≤ left.length) (hlen : left.length < f.length)
    (hp : p.frames = done ++ left.take n :: more) :
    ¬ ExactRun (done ++ f :: tail) (p :: run.1, run.2) := by
  intro h
  have hframes := h.frames_eq
  simp only [framesOf, List.flatMap_cons, hp, List.append_assoc,
    List.cons_append] at hframes
  have hcons := List.append_cancel_left hframes
  injection hcons with hhead _
  have hcount := congrArg List.length hhead
  rw [List.length_take, Nat.min_eq_left hn] at hcount
  lia

/-- In front of a complete frame the rule either waits or ends it early. -/
def WaitsOrEarly (R : FramingRule) (frames : List Bytes) : Prop :=
  forall f, f ∈ frames -> forall left : Bytes, left <+: f ->
    left.length < f.length ->
      R.resolve left = Boundary.wait ∨
        exists n, n ≤ left.length ∧ R.resolve left = Boundary.complete n

/-- At a cut the rule waits, with a buffer that fits, or it ends the open frame
early. -/
theorem IsCut.waiting_or_early {frames done rest : List Bytes}
    {buf left : Bytes} (h : IsCut frames done rest buf left)
    (hmax : forall f, f ∈ rest -> f.length ≤ maxBufferBytes)
    (hrule : WaitsOrEarly R rest) :
    (left.length ≤ maxBufferBytes ∧ Waiting R rest left) ∨
      exists f tail n, rest = f :: tail ∧ left <+: f ∧
        left.length < f.length ∧ n ≤ left.length ∧
        R.resolve left = Boundary.complete n := by
  rcases h.inside with ⟨hnil, hleft⟩ | ⟨f, tail, hopen, hpre, hlen⟩
  · subst hleft
    exact Or.inl ⟨Nat.zero_le _, Or.inl ⟨hnil, rfl⟩, R.resolve_nil⟩
  · have hmem : f ∈ rest := by
      rw [hopen]
      exact List.mem_cons_self
    rcases hrule f hmem left hpre hlen with hwaits | ⟨n, hn, hearly⟩
    · exact Or.inl ⟨Nat.le_trans (Nat.le_of_lt hlen) (hmax f hmem),
        Or.inr ⟨f, tail, hopen, hpre, hlen⟩, hwaits⟩
    · exact Or.inr ⟨f, tail, n, hopen, hpre, hlen, hn, hearly⟩

theorem exactRun_iff_awaitsCuts_nil {frames : List Bytes} {pending : Bytes}
    (hwait : Waiting R frames pending) (hbytes : pending = frames.flatten) :
    ExactRun frames (pushAll R maxBufferBytes pending []) <->
      AwaitsCuts R frames pending [] := by
  rcases hwait.inside with ⟨hframes, hpending⟩ | ⟨f, tail, hframes, _, hlen⟩
  · subst hframes; subst hpending
    constructor
    · intro _ done f rest left pre post heq
      simp at heq
    · intro _
      exact ⟨rfl, fun p hp => by simp [pushAll] at hp, rfl⟩
  · have hcount := congrArg List.length hbytes
    rw [hframes, List.flatten_cons, List.length_append] at hcount
    lia

/--
Over a stream whose frame boundaries the rule recognises, the pushes hand out
exactly the frames of the stream if and only if the rule waits at every point
where a push ends inside a frame.
-/
theorem exactRun_iff_awaitsCuts {chunks : List Bytes} :
    forall {frames : List Bytes} {pending : Bytes},
      Recognizes R frames -> Waiting R frames pending ->
      pending ++ chunks.flatten = frames.flatten ->
      (forall f, f ∈ frames -> f.length ≤ maxBufferBytes) ->
      WaitsOrEarly R frames ->
      (ExactRun frames (pushAll R maxBufferBytes pending chunks) <->
        AwaitsCuts R frames pending chunks) := by
  induction chunks with
  | nil =>
      intro frames pending _ hwait hbytes _ _
      rw [List.flatten_nil, List.append_nil] at hbytes
      exact exactRun_iff_awaitsCuts_nil hwait hbytes
  | cons chunk chunks ih =>
      intro frames pending hrec hwait hbytes hmax hrule
      have hreceived : pending ++ chunk <+: frames.flatten := by
        rw [← hbytes, List.flatten_cons, ← List.append_assoc]
        exact List.prefix_append _ _
      rcases exists_isCut hreceived with ⟨done, rest, left, hcut⟩
      have hdrain := hcut.drain_eq hrec
      have hrest : left ++ chunks.flatten = rest.flatten := by
        rw [List.flatten_cons, ← List.append_assoc, hcut.buf_eq,
          hcut.frames_eq, List.flatten_append, List.append_assoc] at hbytes
        exact List.append_cancel_left hbytes
      have hframes := hcut.frames_eq
      subst hframes
      have hmax' : forall f, f ∈ rest -> f.length ≤ maxBufferBytes :=
        fun f hf => hmax f (List.mem_append_right done hf)
      have hrule' : WaitsOrEarly R rest :=
        fun f hf => hrule f (List.mem_append_right done hf)
      rcases hcut.waiting_or_early hmax' hrule' with
        ⟨hfits, hwaiting⟩ | ⟨f, tail, n, hopen, hpre, hlen, hn, hearly⟩
      · rw [drain_wait hwaiting.waits, List.append_nil] at hdrain
        have hp := push_of_drain hdrain hfits
        have hnext := ih hrec.of_append hwaiting hrest hmax' hrule'
        rw [pushAll, hp, awaitsCuts_cons hwait hcut.buf_eq, ← hnext]
        exact exactRun_cons rfl rfl
      · subst hopen
        rw [drain_complete hearly hn] at hdrain
        have hp : (push R maxBufferBytes pending chunk).frames =
            done ++ left.take n :: (drain R (left.drop n)).1 := by
          rw [push_frames, hdrain]
        constructor
        · intro h
          exact absurd h (not_exactRun_of_early hn hlen hp)
        · intro h
          have hw := h done f tail left [chunk] chunks rfl rfl
            (by simpa using hcut.buf_eq) hpre hlen
          rw [hw] at hearly
          cases hearly

end Foundation
end AvtTracker
