import AvtTracker.Foundation.Bytes

/-!
# Incremental framing

A stream splitter buffers the bytes of a connection and repeatedly asks a
boundary rule whether the buffer starts with a complete frame.  The rule may
also ask for more bytes, or report that the buffer cannot start with a frame at
all, in which case the bytes up to the next marker are discarded.

This module develops that loop for an arbitrary rule: what one drain of the
buffer consumes, and when the frames handed out over many pushes are exactly
the frames the stream was built from, whatever way it was cut into chunks.
-/

namespace AvtTracker
namespace Foundation

/-- Verdict of a boundary rule on the bytes buffered so far. -/
inductive Boundary where
  | wait
  | desync
  | complete (length : Nat)
  deriving DecidableEq, Repr

/-- A boundary rule together with the marker a desynchronised stream restarts
after. -/
structure FramingRule where
  resolve : Bytes -> Boundary
  marker : UInt8
  resolve_nil : resolve [] = Boundary.wait
  resolve_pos : forall {buf : Bytes} {n : Nat},
    resolve buf = Boundary.complete n -> 0 < n

/-!
## Draining a buffer

The loop runs on fuel.  Every round consumes at least one byte, so a buffer's
length is enough fuel and the loop satisfies its defining equations.
-/

/-- The extraction loop, bounded by the number of rounds it may take. -/
def drainFueled (R : FramingRule) : Nat -> Bytes -> List Bytes × Bytes
  | 0, buf => ([], buf)
  | fuel + 1, buf =>
      match R.resolve buf with
      | Boundary.wait => ([], buf)
      | Boundary.desync =>
          match indexOf buf R.marker with
          | none => ([], buf)
          | some i => drainFueled R fuel (buf.drop (i + 1))
      | Boundary.complete n =>
          if buf.length < n then ([], buf)
          else
            let rest := drainFueled R fuel (buf.drop n)
            (buf.take n :: rest.1, rest.2)

/-- Every frame that can be taken off the buffer, and what is left of it. -/
def drain (R : FramingRule) (buf : Bytes) : List Bytes × Bytes :=
  drainFueled R (buf.length + 1) buf

variable {R : FramingRule}

theorem drainFueled_eq_drain {fuel : Nat} {buf : Bytes}
    (h : buf.length < fuel) : drainFueled R fuel buf = drain R buf := by
  suffices hgen : forall f1 f2 (b : Bytes), b.length < f1 -> b.length < f2 ->
      drainFueled R f1 b = drainFueled R f2 b from
    hgen _ _ buf h (Nat.lt_succ_self _)
  intro f1
  induction f1 with
  | zero => intro f2 b h1; lia
  | succ f1 ih =>
      intro f2 b h1 h2
      cases f2 with
      | zero => lia
      | succ f2 =>
          unfold drainFueled
          cases hres : R.resolve b with
          | wait => rfl
          | desync =>
              cases hidx : indexOf b R.marker with
              | none => rfl
              | some i =>
                  have hlt := lt_length_of_getElem?_eq_some
                    (indexOf_eq_some_iff.mp hidx).left
                  apply ih <;> rw [List.length_drop] <;> lia
          | complete n =>
              have hpos := R.resolve_pos hres
              by_cases hlen : b.length < n
              · simp only [if_pos hlen]
              · have hrest := ih f2 (b.drop n)
                  (by rw [List.length_drop]; lia)
                  (by rw [List.length_drop]; lia)
                simp only [if_neg hlen, hrest]

theorem drain_wait {buf : Bytes} (h : R.resolve buf = Boundary.wait) :
    drain R buf = ([], buf) := by
  simp only [drain, drainFueled, h]

theorem drain_complete {buf : Bytes} {n : Nat}
    (h : R.resolve buf = Boundary.complete n) (hlen : n ≤ buf.length) :
    drain R buf =
      (buf.take n :: (drain R (buf.drop n)).1, (drain R (buf.drop n)).2) := by
  have hpos := R.resolve_pos h
  have hrest : drainFueled R buf.length (buf.drop n) = drain R (buf.drop n) :=
    drainFueled_eq_drain (by rw [List.length_drop]; lia)
  rw [← hrest, drain, drainFueled, h]
  simp only [if_neg (Nat.not_lt.mpr hlen)]

theorem drain_short {buf : Bytes} {n : Nat}
    (h : R.resolve buf = Boundary.complete n) (hlen : buf.length < n) :
    drain R buf = ([], buf) := by
  rw [drain, drainFueled, h]
  simp only [if_pos hlen]

theorem drain_desync {buf : Bytes} {i : Nat}
    (h : R.resolve buf = Boundary.desync)
    (hidx : indexOf buf R.marker = some i) :
    drain R buf = drain R (buf.drop (i + 1)) := by
  have hlt := lt_length_of_getElem?_eq_some (indexOf_eq_some_iff.mp hidx).left
  have hrest : drainFueled R buf.length (buf.drop (i + 1)) =
      drain R (buf.drop (i + 1)) :=
    drainFueled_eq_drain (by rw [List.length_drop]; lia)
  rw [← hrest, drain, drainFueled, h]
  simp only [hidx]

theorem drain_stuck {buf : Bytes}
    (h : R.resolve buf = Boundary.desync)
    (hidx : indexOf buf R.marker = none) :
    drain R buf = ([], buf) := by
  rw [drain, drainFueled, h]
  simp only [hidx]

@[simp] theorem drain_nil : drain R [] = ([], []) :=
  drain_wait R.resolve_nil

/-!
## Consumed segments

A drain explains every byte it takes off the buffer: each one belongs to an
emitted frame or to a discarded run that ends at the marker.
-/

/-- One stretch of bytes taken off a buffer.  A discard also names the whole
buffer it was taken from. -/
inductive Segment where
  | frame (bytes : Bytes)
  | resync (buffer : Bytes) (length : Nat)
  deriving DecidableEq, Repr

def Segment.bytes : Segment -> Bytes
  | Segment.frame bs => bs
  | Segment.resync buffer length => buffer.take length

def Segment.emitted? : Segment -> Option Bytes
  | Segment.frame bs => some bs
  | Segment.resync _ _ => none

/-- The runs of the extraction loop: each step takes a segment off the front,
and the run ends on a buffer the loop cannot advance on. -/
inductive Drains (R : FramingRule) : Bytes -> List Segment -> Bytes -> Prop where
  | wait {buf : Bytes} :
      R.resolve buf = Boundary.wait -> Drains R buf [] buf
  | short {buf : Bytes} {n : Nat} :
      R.resolve buf = Boundary.complete n -> buf.length < n ->
      Drains R buf [] buf
  | stuck {buf : Bytes} :
      R.resolve buf = Boundary.desync -> indexOf buf R.marker = none ->
      Drains R buf [] buf
  | frame {buf left : Bytes} {n : Nat} {log : List Segment} :
      R.resolve buf = Boundary.complete n -> n ≤ buf.length ->
      Drains R (buf.drop n) log left ->
      Drains R buf (Segment.frame (buf.take n) :: log) left
  | resync {buf left : Bytes} {i : Nat} {log : List Segment} :
      R.resolve buf = Boundary.desync -> indexOf buf R.marker = some i ->
      Drains R (buf.drop (i + 1)) log left ->
      Drains R buf (Segment.resync buf (i + 1) :: log) left

/-- Every drain is a run, and emits exactly the frames of that run. -/
theorem exists_drains (R : FramingRule) (buf : Bytes) :
    exists log : List Segment,
      Drains R buf log (drain R buf).2 ∧
        log.filterMap Segment.emitted? = (drain R buf).1 := by
  induction hlen : buf.length using Nat.strongRecOn generalizing buf with
  | ind len ih =>
      cases hres : R.resolve buf with
      | wait =>
          rw [drain_wait hres]
          exact ⟨[], Drains.wait hres, rfl⟩
      | desync =>
          cases hidx : indexOf buf R.marker with
          | none =>
              rw [drain_stuck hres hidx]
              exact ⟨[], Drains.stuck hres hidx, rfl⟩
          | some i =>
              have hlt := lt_length_of_getElem?_eq_some
                (indexOf_eq_some_iff.mp hidx).left
              rcases ih (buf.drop (i + 1)).length
                (by rw [List.length_drop]; lia) (buf.drop (i + 1)) rfl with
                ⟨log, hrun, hframes⟩
              rw [drain_desync hres hidx]
              exact ⟨_, Drains.resync hres hidx hrun, hframes⟩
      | complete n =>
          have hpos := R.resolve_pos hres
          by_cases hshort : buf.length < n
          · rw [drain_short hres hshort]
            exact ⟨[], Drains.short hres hshort, rfl⟩
          · rcases ih (buf.drop n).length
              (by rw [List.length_drop]; lia) (buf.drop n) rfl with
              ⟨log, hrun, hframes⟩
            have hn := Nat.not_lt.mp hshort
            rw [drain_complete hres hn]
            refine ⟨_, Drains.frame hres hn hrun, ?_⟩
            simp [Segment.emitted?, hframes]

/-- No byte is lost: the segments and the rest make up the buffer. -/
theorem Drains.bytes_append {buf left : Bytes} {log : List Segment}
    (h : Drains R buf log left) :
    buf = log.flatMap Segment.bytes ++ left := by
  induction h with
  | wait _ => rfl
  | short _ _ => rfl
  | stuck _ _ => rfl
  | frame _ _ _ ih =>
      rw [List.flatMap_cons, List.append_assoc, ← ih]
      exact (List.take_append_drop _ _).symm
  | resync _ _ _ ih =>
      rw [List.flatMap_cons, List.append_assoc, ← ih]
      exact (List.take_append_drop _ _).symm

end Foundation
end AvtTracker
