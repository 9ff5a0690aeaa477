import AvtTracker.Foundation.FramingRuns

/-!
# What a drain leaves

The extraction loop stops at a buffer it cannot advance on.  Such a buffer is
settled: another drain takes nothing off it.  What is pending after a push is
settled and within the limit, whatever the pushes before it were.
-/

namespace AvtTracker
namespace Foundation

/-- The extraction loop cannot advance on a buffer. -/
inductive Settled (R : FramingRule) (buf : Bytes) : Prop where
  | wait : R.resolve buf = Boundary.wait -> Settled R buf
  | short {n : Nat} :
      R.resolve buf = Boundary.complete n -> buf.length < n -> Settled R buf
  | stuck :
      R.resolve buf = Boundary.desync -> indexOf buf R.marker = none ->
      Settled R buf

/-- The rule finds no frame that is longer than the buffer. -/
def CompletesBuffered (R : FramingRule) : Prop :=
  forall buf n, R.resolve buf = Boundary.complete n -> n ≤ buf.length

variable {R : FramingRule} {maxBufferBytes : Nat}

theorem settled_nil : Settled R [] :=
  Settled.wait R.resolve_nil

theorem Drains.settled {buf left : Bytes} {log : List Segment}
    (h : Drains R buf log left) : Settled R left := by
  induction h with
  | wait hres => exact Settled.wait hres
  | short hres hlen => exact Settled.short hres hlen
  | stuck hres hidx => exact Settled.stuck hres hidx
  | frame _ _ _ ih => exact ih
  | resync _ _ _ ih => exact ih

theorem drain_settled (buf : Bytes) : Settled R (drain R buf).2 := by
  rcases exists_drains R buf with ⟨log, hrun, _⟩
  exact hrun.settled

theorem drain_of_settled {buf : Bytes} (h : Settled R buf) :
    drain R buf = ([], buf) := by
  cases h with
  | wait hres => exact drain_wait hres
  | short hres hlen => exact drain_short hres hlen
  | stuck hres hidx => exact drain_stuck hres hidx

theorem settled_iff_drain {buf : Bytes} :
    Settled R buf <-> drain R buf = ([], buf) := by
  constructor
  · exact drain_of_settled
  · intro h
    have hleft := @drain_settled R buf
    rw [h] at hleft
    exact hleft

/-- If no frame is found before it is buffered, the loop never stops for the
rest of one. -/
theorem CompletesBuffered.settled_iff (hR : CompletesBuffered R) {buf : Bytes} :
    Settled R buf <->
      R.resolve buf = Boundary.wait ∨
        R.resolve buf = Boundary.desync ∧ indexOf buf R.marker = none := by
  constructor
  · intro h
    cases h with
    | wait hres => exact Or.inl hres
    | short hres hlen => exact absurd (hR buf _ hres) (Nat.not_le.mpr hlen)
    | stuck hres hidx => exact Or.inr ⟨hres, hidx⟩
  · rintro (hres | ⟨hres, hidx⟩)
    · exact Settled.wait hres
    · exact Settled.stuck hres hidx

/-!
## Pending bytes
-/

/-- Pending bytes that are within the limit and settled. -/
structure AtRest (R : FramingRule) (maxBufferBytes : Nat) (pending : Bytes) :
    Prop where
  length_le : pending.length ≤ maxBufferBytes
  settled : Settled R pending

theorem push_atRest (pending chunk : Bytes) :
    AtRest R maxBufferBytes (push R maxBufferBytes pending chunk).pending := by
  unfold push
  by_cases h : (drain R (pending ++ chunk)).2.length > maxBufferBytes
  · simp only [if_pos h]
    exact ⟨Nat.zero_le _, settled_nil⟩
  · simp only [if_neg h]
    exact ⟨Nat.not_lt.mp h, drain_settled _⟩

theorem push_nil_of_atRest {pending : Bytes}
    (h : AtRest R maxBufferBytes pending) :
    push R maxBufferBytes pending [] =
      { frames := [], overflowed := false, pending := pending } := by
  apply push_of_drain
  · rw [List.append_nil]
    exact settled_iff_drain.mp h.settled
  · exact h.length_le

theorem pushAll_append (chunks more : List Bytes) :
    forall pending : Bytes,
      pushAll R maxBufferBytes pending (chunks ++ more) =
        ((pushAll R maxBufferBytes pending chunks).1 ++
            (pushAll R maxBufferBytes
              (pushAll R maxBufferBytes pending chunks).2 more).1,
          (pushAll R maxBufferBytes
            (pushAll R maxBufferBytes pending chunks).2 more).2) := by
  induction chunks with
  | nil => intro pending; rfl
  | cons chunk chunks ih =>
      intro pending
      rw [List.cons_append, pushAll, ih]
      rfl

theorem pushAll_atRest (pending : Bytes) (chunks : List Bytes)
    (chunk : Bytes) :
    AtRest R maxBufferBytes
      (pushAll R maxBufferBytes pending (chunks ++ [chunk])).2 := by
  rw [pushAll_append]
  exact push_atRest _ chunk

end Foundation
end AvtTracker
