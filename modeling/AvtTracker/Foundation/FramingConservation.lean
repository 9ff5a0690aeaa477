import AvtTracker.Foundation.FramingRuns

/-!
# Byte conservation of a framing run

Over a whole run of pushes every received byte has exactly one fate: it was
emitted in a frame, discarded up to a marker, dropped with a buffer over the
limit, or is still pending.  The log built here lists the fates in stream
order.
-/

namespace AvtTracker
namespace Foundation

/-- One stretch of the stream of a whole run. -/
inductive StreamSegment where
  | frame (bytes : Bytes)
  | resync (buffer : Bytes) (length : Nat)
  | dropped (push : Nat) (bytes : Bytes)
  deriving DecidableEq, Repr

namespace StreamSegment

def bytes : StreamSegment -> Bytes
  | frame bs => bs
  | resync buffer length => buffer.take length
  | dropped _ bs => bs

def emitted? : StreamSegment -> Option Bytes
  | frame bs => some bs
  | resync _ _ => none
  | dropped _ _ => none

/-- A segment taken by the extraction loop, as part of the run's log. -/
def ofSegment : Segment -> StreamSegment
  | Segment.frame bs => frame bs
  | Segment.resync buffer length => resync buffer length

theorem bytes_ofSegment (s : Segment) : (ofSegment s).bytes = s.bytes := by
  cases s <;> rfl

theorem emitted?_ofSegment (s : Segment) :
    (ofSegment s).emitted? = s.emitted? := by
  cases s <;> rfl

/--
What entitles the run to a segment, given the bytes that follow it in the
stream.  A frame was complete by the rule; a discard ends at the first marker
of a buffer the rule rejected; a dropped buffer was over the limit and reaches
to the end of what its push had received.
-/
def Legal (R : FramingRule) (maxBufferBytes : Nat) (chunks : List Bytes)
    (pushes : List Push) (following : Bytes) : StreamSegment -> Prop
  | frame bs => exists buf n, R.resolve buf = Boundary.complete n ∧
      n ≤ buf.length ∧ bs = buf.take n
  | resync buffer length => R.resolve buffer = Boundary.desync ∧
      (exists i, indexOf buffer R.marker = some i ∧ length = i + 1) ∧
      buffer.drop length <+: following
  | dropped k bs => pushes[k]?.map Push.overflowed = some true ∧
      maxBufferBytes < bs.length ∧ following = (chunks.drop (k + 1)).flatten

end StreamSegment

/-- Every segment of a log is legal in front of the bytes behind it. -/
def LegalLog (R : FramingRule) (maxBufferBytes : Nat) (chunks : List Bytes)
    (pushes : List Push) : List StreamSegment -> Bytes -> Prop
  | [], _ => True
  | s :: log, tail =>
      s.Legal R maxBufferBytes chunks pushes
        (log.flatMap StreamSegment.bytes ++ tail) ∧
      LegalLog R maxBufferBytes chunks pushes log tail

variable {R : FramingRule} {maxBufferBytes : Nat}

theorem LegalLog.at {chunks : List Bytes} {pushes : List Push} {tail : Bytes}
    {s : StreamSegment} {post : List StreamSegment} :
    forall {pre : List StreamSegment},
      LegalLog R maxBufferBytes chunks pushes (pre ++ s :: post) tail ->
      s.Legal R maxBufferBytes chunks pushes
        (post.flatMap StreamSegment.bytes ++ tail)
  | [], h => h.left
  | _ :: _, h => LegalLog.at h.right

theorem legalLog_of_drains {chunks : List Bytes} {pushes : List Push}
    {buf left tail : Bytes} {log : List Segment} {more : List StreamSegment}
    (hdrains : Drains R buf log left)
    (hmore : LegalLog R maxBufferBytes chunks pushes more tail)
    (hleft : left <+: more.flatMap StreamSegment.bytes ++ tail) :
    LegalLog R maxBufferBytes chunks pushes
      (log.map StreamSegment.ofSegment ++ more) tail := by
  induction hdrains with
  | wait _ => exact hmore
  | short _ _ => exact hmore
  | stuck _ _ => exact hmore
  | frame hres hn _ ih =>
      exact ⟨⟨_, _, hres, hn, rfl⟩, ih hleft⟩
  | resync hres hidx hrun ih =>
      refine ⟨⟨hres, ⟨_, hidx, rfl⟩, ?_⟩, ih hleft⟩
      rw [hrun.bytes_append, List.append_eq, List.flatMap_append,
        List.flatMap_map, List.append_assoc]
      simp only [StreamSegment.bytes_ofSegment]
      exact (List.prefix_append_right_inj _).mpr hleft

theorem flatMap_bytes_ofSegment (log : List Segment) :
    (log.map StreamSegment.ofSegment).flatMap StreamSegment.bytes =
      log.flatMap Segment.bytes := by
  rw [List.flatMap_map]
  simp only [StreamSegment.bytes_ofSegment]

theorem filterMap_emitted?_ofSegment (log : List Segment) :
    (log.map StreamSegment.ofSegment).filterMap StreamSegment.emitted? =
      log.filterMap Segment.emitted? := by
  rw [List.filterMap_map]
  exact congrArg (fun g => log.filterMap g)
    (funext StreamSegment.emitted?_ofSegment)

/-- One push is explained by a drain and, on overflow, one dropped buffer. -/
theorem exists_push_log (R : FramingRule) (maxBufferBytes : Nat)
    (pending chunk : Bytes) :
    exists (log : List Segment) (left : Bytes),
      Drains R (pending ++ chunk) log left ∧
        log.filterMap Segment.emitted? =
          (push R maxBufferBytes pending chunk).frames ∧
        (((push R maxBufferBytes pending chunk).overflowed = true ∧
            maxBufferBytes < left.length ∧
            (push R maxBufferBytes pending chunk).pending = []) ∨
          (push R maxBufferBytes pending chunk).overflowed = false ∧
            (push R maxBufferBytes pending chunk).pending = left) := by
  rcases exists_drains R (pending ++ chunk) with ⟨log, hrun, hframes⟩
  refine ⟨log, _, hrun, ?_, ?_⟩
  · rw [push_frames, hframes]
  · unfold push
    by_cases h : (drain R (pending ++ chunk)).2.length > maxBufferBytes
    · simp only [if_pos h]
      exact Or.inl ⟨trivial, h, trivial⟩
    · simp only [if_neg h]
      exact Or.inr ⟨trivial, trivial⟩

theorem exists_log_from (chunks : List Bytes) :
    forall (pending : Bytes) (consumed : List Bytes) (pushed : List Push),
      consumed.length = pushed.length ->
      exists log : List StreamSegment,
        pending ++ chunks.flatten =
          log.flatMap StreamSegment.bytes ++
            (pushAll R maxBufferBytes pending chunks).2 ∧
        log.filterMap StreamSegment.emitted? =
          framesOf (pushAll R maxBufferBytes pending chunks).1 ∧
        LegalLog R maxBufferBytes (consumed ++ chunks)
          (pushed ++ (pushAll R maxBufferBytes pending chunks).1) log
          (pushAll R maxBufferBytes pending chunks).2 := by
  induction chunks with
  | nil =>
      intro pending consumed pushed _
      exact ⟨[], by simp [pushAll], by simp [pushAll, framesOf], trivial⟩
  | cons chunk chunks ih =>
      intro pending consumed pushed hlen
      let p := push R maxBufferBytes pending chunk
      rcases ih p.pending (consumed ++ [chunk]) (pushed ++ [p])
        (by simp [hlen]) with ⟨more, hbytes, hframes, hlegal⟩
      rw [List.append_assoc, List.append_assoc] at hlegal
      rcases exists_push_log R maxBufferBytes pending chunk with
        ⟨log, left, hrun, hemit, hout⟩
      have hbuf := hrun.bytes_append
      have hp : (pushed ++ (pushAll R maxBufferBytes pending
          (chunk :: chunks)).1)[consumed.length]? = some p := by
        rw [hlen, List.getElem?_append_right (Nat.le_refl _), Nat.sub_self]
        rfl
      have hlast : (consumed ++ chunk :: chunks).drop (consumed.length + 1) =
          chunks := drop_append_cons consumed chunks chunk
      have hfinal : (pushAll R maxBufferBytes pending (chunk :: chunks)).2 =
          (pushAll R maxBufferBytes p.pending chunks).2 := rfl
      rw [framesOf_pushAll_cons, ← hframes, hfinal, List.flatten_cons,
        ← List.append_assoc, hbuf, List.append_assoc]
      rcases hout with ⟨hover, hmax, hpending⟩ | ⟨_, hpending⟩
      · -- The rest of the buffer is dropped behind the extracted segments.
        have hnil : p.pending = [] := hpending
        have hchunks : chunks.flatten = more.flatMap StreamSegment.bytes ++
            (pushAll R maxBufferBytes p.pending chunks).2 := by
          rw [← hbytes, hnil, List.nil_append]
        refine ⟨log.map StreamSegment.ofSegment ++
          StreamSegment.dropped consumed.length left :: more, ?_, ?_, ?_⟩
        · rw [hchunks, List.flatMap_append, flatMap_bytes_ofSegment,
            List.flatMap_cons, List.append_assoc, List.append_assoc]
          rfl
        · rw [List.filterMap_append, filterMap_emitted?_ofSegment, hemit]
          rfl
        · apply legalLog_of_drains hrun
          · refine ⟨⟨?_, hmax, ?_⟩, hlegal⟩
            · rw [hp]
              exact congrArg some hover
            · rw [hlast, hchunks]
          · exact List.prefix_append_of_prefix (List.prefix_append _ _)
      · have hleft : p.pending = left := hpending
        rw [← hleft, hbytes]
        refine ⟨log.map StreamSegment.ofSegment ++ more, ?_, ?_, ?_⟩
        · rw [List.flatMap_append, flatMap_bytes_ofSegment, List.append_assoc]
        · rw [List.filterMap_append, filterMap_emitted?_ofSegment, hemit]
        · apply legalLog_of_drains hrun hlegal
          rw [← hbytes, hleft]
          exact List.prefix_append _ _

/-- Every run of pushes on an empty buffer has a legal log that accounts for
all received bytes and emits exactly the frames handed out. -/
theorem exists_log (R : FramingRule) (maxBufferBytes : Nat)
    (chunks : List Bytes) :
    exists log : List StreamSegment,
      chunks.flatten =
        log.flatMap StreamSegment.bytes ++
          (pushAll R maxBufferBytes [] chunks).2 ∧
      log.filterMap StreamSegment.emitted? =
        framesOf (pushAll R maxBufferBytes [] chunks).1 ∧
      LegalLog R maxBufferBytes chunks (pushAll R maxBufferBytes [] chunks).1
        log (pushAll R maxBufferBytes [] chunks).2 := by
  have hlog := @exists_log_from R maxBufferBytes chunks [] [] [] rfl
  simpa using hlog

/-!
## Frames in the stream
-/

/-- The frames are disjoint stretches of the stream, in its order. -/
inductive LaidOut : List Bytes -> Bytes -> Prop where
  | done (rest : Bytes) : LaidOut [] rest
  | next (gap frame : Bytes) {frames : List Bytes} {rest : Bytes} :
      LaidOut frames rest -> LaidOut (frame :: frames) (gap ++ frame ++ rest)

theorem LaidOut.skip {frames : List Bytes} {stream : Bytes}
    (h : LaidOut frames stream) (gap : Bytes) :
    LaidOut frames (gap ++ stream) := by
  cases h with
  | done => exact LaidOut.done _
  | next between frame hrest =>
      rw [← List.append_assoc, ← List.append_assoc]
      exact LaidOut.next (gap ++ between) frame hrest

theorem laidOut_log (log : List StreamSegment) (tail : Bytes) :
    LaidOut (log.filterMap StreamSegment.emitted?)
      (log.flatMap StreamSegment.bytes ++ tail) := by
  induction log with
  | nil => exact LaidOut.done _
  | cons segment log ih =>
      rw [List.flatMap_cons, List.append_assoc]
      cases segment with
      | frame bytes => exact LaidOut.next [] bytes ih
      | resync buffer length => exact ih.skip _
      | dropped k bytes => exact ih.skip _

theorem laidOut_pushAll (R : FramingRule) (maxBufferBytes : Nat)
    (chunks : List Bytes) :
    LaidOut (framesOf (pushAll R maxBufferBytes [] chunks).1)
      chunks.flatten := by
  rcases exists_log R maxBufferBytes chunks with ⟨log, hbytes, hframes, _⟩
  rw [← hframes, hbytes]
  exact laidOut_log log _

end Foundation
end AvtTracker
