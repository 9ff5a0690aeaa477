import AvtTracker.Foundation.FramingRuns

/-!
# Queries of the extraction loop

The extraction loop asks its rule about one buffer after the other.  A frame is
handed out exactly when the rule finds it complete in a buffer the loop asks
about, so a property of all frames is a property of these buffers.
-/

namespace AvtTracker
namespace Foundation

/-- Draining the first buffer, the loop asks the rule about the second. -/
inductive Asks (R : FramingRule) : Bytes -> Bytes -> Prop where
  | first (buf : Bytes) : Asks R buf buf
  | frame {buf asked : Bytes} {n : Nat} :
      R.resolve buf = Boundary.complete n -> n ≤ buf.length ->
      Asks R (buf.drop n) asked -> Asks R buf asked
  | resync {buf asked : Bytes} {i : Nat} :
      R.resolve buf = Boundary.desync -> indexOf buf R.marker = some i ->
      Asks R (buf.drop (i + 1)) asked -> Asks R buf asked

/-- The buffers the loop asks about over a run of pushes. -/
def AsksOver (R : FramingRule) (maxBufferBytes : Nat) :
    Bytes -> List Bytes -> Bytes -> Prop
  | _, [], _ => False
  | pending, chunk :: chunks, asked =>
      Asks R (pending ++ chunk) asked ∨
        AsksOver R maxBufferBytes
          (push R maxBufferBytes pending chunk).pending chunks asked

variable {R : FramingRule} {maxBufferBytes : Nat}

/-- The rule finds a frame complete at the start of a buffer. -/
def Completes (R : FramingRule) (asked frame : Bytes) : Prop :=
  exists n, R.resolve asked = Boundary.complete n ∧ n ≤ asked.length ∧
    frame = asked.take n

theorem exists_asks_of_drains {buf left : Bytes} {log : List Segment}
    (h : Drains R buf log left) :
    forall frame, frame ∈ log.filterMap Segment.emitted? ->
      exists asked, Asks R buf asked ∧ Completes R asked frame := by
  induction h with
  | wait _ =>
      intro frame hframe
      cases hframe
  | short _ _ =>
      intro frame hframe
      cases hframe
  | stuck _ _ =>
      intro frame hframe
      cases hframe
  | frame hres hn _ ih =>
      intro frame hframe
      rcases List.mem_cons.mp hframe with rfl | hframe
      · exact ⟨_, Asks.first _, _, hres, hn, rfl⟩
      · rcases ih frame hframe with ⟨asked, hasks, hcompletes⟩
        exact ⟨asked, Asks.frame hres hn hasks, hcompletes⟩
  | resync hres hidx _ ih =>
      intro frame hframe
      rcases ih frame hframe with ⟨asked, hasks, hcompletes⟩
      exact ⟨asked, Asks.resync hres hidx hasks, hcompletes⟩

theorem mem_drain_of_asks {buf asked frame : Bytes} (h : Asks R buf asked)
    (hcompletes : Completes R asked frame) : frame ∈ (drain R buf).1 := by
  induction h with
  | first buf =>
      rcases hcompletes with ⟨n, hres, hn, hframe⟩
      rw [drain_complete hres hn, hframe]
      exact List.mem_cons_self
  | frame hres hn _ ih =>
      rw [drain_complete hres hn]
      exact List.mem_cons_of_mem _ (ih hcompletes)
  | resync hres hidx _ ih =>
      rw [drain_desync hres hidx]
      exact ih hcompletes

/-- One drain hands out what the rule finds complete in the buffers it is asked
about. -/
theorem mem_drain_iff {buf frame : Bytes} :
    frame ∈ (drain R buf).1 <->
      exists asked, Asks R buf asked ∧ Completes R asked frame := by
  constructor
  · intro hframe
    rcases exists_drains R buf with ⟨log, hrun, hlog⟩
    rw [← hlog] at hframe
    exact exists_asks_of_drains hrun frame hframe
  · rintro ⟨asked, hasks, hcompletes⟩
    exact mem_drain_of_asks hasks hcompletes

theorem mem_framesOf_iff {frame : Bytes} (chunks : List Bytes) :
    forall pending : Bytes,
      frame ∈ framesOf (pushAll R maxBufferBytes pending chunks).1 <->
        exists asked, AsksOver R maxBufferBytes pending chunks asked ∧
          Completes R asked frame := by
  induction chunks with
  | nil =>
      intro pending
      constructor
      · intro hframe
        cases hframe
      · rintro ⟨asked, hasks, _⟩
        cases hasks
  | cons chunk chunks ih =>
      intro pending
      rw [framesOf_pushAll_cons, List.mem_append, push_frames, mem_drain_iff,
        ih]
      constructor
      · rintro (⟨asked, hasks, hcompletes⟩ | ⟨asked, hasks, hcompletes⟩)
        · exact ⟨asked, Or.inl hasks, hcompletes⟩
        · exact ⟨asked, Or.inr hasks, hcompletes⟩
      · rintro ⟨asked, hasks | hasks, hcompletes⟩
        · exact Or.inl ⟨asked, hasks, hcompletes⟩
        · exact Or.inr ⟨asked, hasks, hcompletes⟩

/-- A property of all frames of a run is one of the buffers it asks about. -/
theorem forall_framesOf_iff {P : Bytes -> Prop} {pending : Bytes}
    {chunks : List Bytes} :
    (forall frame,
        frame ∈ framesOf (pushAll R maxBufferBytes pending chunks).1 ->
          P frame) <->
      forall asked, AsksOver R maxBufferBytes pending chunks asked ->
        forall frame, Completes R asked frame -> P frame := by
  constructor
  · intro h asked hasks frame hcompletes
    exact h frame ((mem_framesOf_iff chunks pending).mpr
      ⟨asked, hasks, hcompletes⟩)
  · intro h frame hframe
    rcases (mem_framesOf_iff chunks pending).mp hframe with
      ⟨asked, hasks, hcompletes⟩
    exact h asked hasks frame hcompletes

end Foundation
end AvtTracker
