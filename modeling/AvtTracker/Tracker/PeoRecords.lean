import AvtTracker.Tracker.AsciiFields

/-!
# Fence records

A fence is a list of numbers: id, mode, start and end, the coordinates of its
points, and four trailer values.  A record is decoded to a fence exactly when its
fields hold these numbers one after the other and the loop over its points, which
counts in doubles, has as many rounds.
-/

namespace AvtTracker
namespace Tracker

open Foundation

def PeoFencePoint.numbers (point : PeoFencePoint) : List Rat :=
  [point.longitude, point.latitude]

def pointNumbers (points : List PeoFencePoint) : List Rat :=
  points.flatMap PeoFencePoint.numbers

namespace PeoFenceStatus

def head (fence : PeoFenceStatus) : List Rat :=
  [fence.peoId, fence.mode, fence.startPoint, fence.endPoint]

def trailer (fence : PeoFenceStatus) : List Rat :=
  [fence.checkIntervalSeconds, fence.overSpeedAlarmMode,
    fence.overSpeedThresholdKmh, fence.overSpeedDurationSeconds]

def numbers (fence : PeoFenceStatus) : List Rat :=
  fence.head ++ (pointNumbers fence.points ++ fence.trailer)

def pointCount (fence : PeoFenceStatus) : JsNumber :=
  pointCountOf fence.startPoint fence.endPoint

end PeoFenceStatus

/-- A loop from zero on below the count has so many rounds. -/
structure Rounds (count : JsNumber) (n : Nat) : Prop where
  runs : forall p, p < n -> (JsNumber.finite (p : Nat)).lt count = true
  ends : (JsNumber.finite (n : Nat)).lt count = false

/-- There are as many points as its start and end ask for. -/
structure PeoFenceStatus.Counts (fence : PeoFenceStatus) : Prop where
  accepted : fence.pointCount.lt 0 = false
  rounds : Rounds fence.pointCount fence.points.length

/-- The fields hold the numbers one after the other. -/
def Spells (fields : List String) (values : List Rat) : Prop :=
  forall (j : Nat) (v : Rat), values[j]? = some v -> number fields[j]? = some v

/-!
## Reading numbers
-/

section Spells

variable {fields : List String} {values more : List Rat} {v : Rat}

theorem spells_nil (fields : List String) : Spells fields [] := by
  intro j v h
  cases h

theorem spells_cons_iff :
    Spells fields (v :: values) <->
      number fields[0]? = some v ∧ Spells fields.tail values := by
  constructor
  · intro h
    constructor
    · exact h 0 v rfl
    · intro j w hw
      rw [List.getElem?_tail]
      exact h (j + 1) w hw
  · intro h j w hw
    cases j with
    | zero =>
        rw [← Option.some.inj hw]
        exact h.left
    | succ j =>
        rw [← List.getElem?_tail]
        exact h.right j w hw

theorem spells_append_iff :
    Spells fields (values ++ more) <->
      Spells fields values ∧ Spells (fields.drop values.length) more := by
  induction values generalizing fields with
  | nil =>
      constructor
      · intro h
        exact ⟨spells_nil fields, h⟩
      · intro h
        exact h.right
  | cons v values ih =>
      rw [List.cons_append, spells_cons_iff, spells_cons_iff, ih,
        List.drop_tail, and_assoc]
      rfl

theorem spells_four_iff {a b c d : Rat} :
    Spells fields [a, b, c, d] <->
      number fields[0]? = some a ∧ number fields[1]? = some b ∧
        number fields[2]? = some c ∧ number fields[3]? = some d := by
  simp only [spells_cons_iff, List.getElem?_tail, spells_nil, and_true]

theorem Spells.length_le (h : Spells fields values) :
    values.length ≤ fields.length := by
  cases hk : values.length with
  | zero => exact Nat.zero_le _
  | succ k =>
      apply Nat.not_lt.mp
      intro hlt
      have hlast : k < values.length := by lia
      have hread := h k values[k] (List.getElem?_eq_getElem hlast)
      rw [List.getElem?_eq_none (by lia)] at hread
      cases hread

end Spells

/-!
## Points
-/

section Points

variable {count : JsNumber} {p : Nat} {fields : List String}

theorem Rounds.unique {m n : Nat} (h : Rounds count n) (h' : Rounds count m) :
    n = m := by
  rcases Nat.lt_trichotomy n m with hlt | heq | hlt
  · have hc := h'.runs n hlt
    rw [h.ends] at hc
    cases hc
  · exact heq
  · have hc := h.runs m hlt
    rw [h'.ends] at hc
    cases hc

theorem rounds_natCast (n : Nat) : Rounds (JsNumber.finite n) n := by
  constructor
  · intro p hp
    exact decide_eq_true (Nat.cast_lt.mpr hp)
  · exact decide_eq_false (lt_irrefl _)

theorem readPoints_done (h : (JsNumber.finite p).lt count = false) :
    readPoints count p fields = Except.ok [] := by
  unfold readPoints
  split
  · exact if_neg (by simp [h])
  · exact if_neg (by simp [h])

theorem readPoints_cons_iff (h : (JsNumber.finite p).lt count = true)
    {point : PeoFencePoint} {points : List PeoFencePoint} :
    readPoints count p fields = Except.ok (point :: points) <->
      Spells fields point.numbers ∧
        readPoints count (p + 1) (fields.drop 2) = Except.ok points := by
  have hshort : forall short : List String, short.length < 2 ->
      ¬ Spells short point.numbers := by
    intro short hlen hreads
    have hle := hreads.length_le
    simp only [PeoFencePoint.numbers, List.length_cons] at hle
    lia
  cases fields with
  | nil =>
      have hnone := hshort [] (by decide)
      simp [readPoints, h, hnone]
  | cons longitude fields =>
      cases fields with
      | nil =>
          have hnone := hshort [longitude] (Nat.lt_succ_self 1)
          simp [readPoints, h, hnone]
      | cons latitude fields =>
          rw [PeoFencePoint.numbers, spells_cons_iff, spells_cons_iff,
            readPoints, if_pos h]
          show _ <-> (number (some longitude) = some point.longitude ∧
            number (some latitude) = some point.latitude ∧ _) ∧
              readPoints count (p + 1) fields = Except.ok points
          cases hlon : number (some longitude) with
          | none => simp
          | some lon =>
              cases hlat : number (some latitude) with
              | none => simp
              | some lat =>
                  cases hrest : readPoints count (p + 1) fields with
                  | error q => simp [bind, Except.bind]
                  | ok rest =>
                      cases point
                      simp [bind, Except.bind, pure, Except.pure, spells_nil,
                        and_assoc]

theorem readPoints_nil_iff :
    readPoints count p fields = Except.ok [] <->
      (JsNumber.finite p).lt count = false := by
  constructor
  · intro h
    apply Bool.eq_false_iff.mpr
    intro hlt
    unfold readPoints at h
    split at h
    · rw [if_pos hlt] at h
      split at h
      · cases hrest : readPoints count (p + 1) _ with
        | error q =>
            rw [hrest] at h
            cases h
        | ok rest =>
            rw [hrest] at h
            cases h
      · cases h
    · rw [if_pos hlt] at h
      cases h
  · exact readPoints_done

/-- As many points are read as are asked for, and they are what the fields
hold. -/
theorem readPoints_eq_ok_iff {points : List PeoFencePoint} :
    readPoints count p fields = Except.ok points <->
      Spells fields (pointNumbers points) ∧
        (forall k, k < points.length ->
          (JsNumber.finite (p + k : Nat)).lt count = true) ∧
        (JsNumber.finite (p + points.length : Nat)).lt count = false := by
  induction points generalizing p fields with
  | nil =>
      rw [readPoints_nil_iff]
      simp [pointNumbers, spells_nil]
  | cons point points ih =>
      have hnumbers : pointNumbers (point :: points) =
          point.numbers ++ pointNumbers points := rfl
      have hend : p + (point :: points).length = p + 1 + points.length := by
        rw [List.length_cons]
        lia
      cases h : (JsNumber.finite p).lt count with
      | true =>
          rw [readPoints_cons_iff h, ih, hnumbers, spells_append_iff, hend]
          show _ <-> (_ ∧ Spells (fields.drop 2) _) ∧ _
          constructor
          · intro ⟨hpoint, hpoints, hruns, hends⟩
            refine ⟨⟨hpoint, hpoints⟩, ?_, hends⟩
            intro k hk
            cases k with
            | zero => exact h
            | succ k =>
                rw [show p + (k + 1) = p + 1 + k by lia]
                exact hruns k (Nat.lt_of_succ_lt_succ hk)
          · intro ⟨⟨hpoint, hpoints⟩, hruns, hends⟩
            refine ⟨hpoint, hpoints, ?_, hends⟩
            intro k hk
            rw [show p + 1 + k = p + (k + 1) by lia]
            exact hruns (k + 1) (Nat.succ_lt_succ hk)
      | false =>
          rw [readPoints_done h]
          constructor
          · intro hc
            cases hc
          · intro ⟨_, hruns, _⟩
            have hc := hruns 0 (Nat.succ_pos _)
            rw [Nat.add_zero, h] at hc
            cases hc

theorem readPoints_zero_eq_ok_iff {points : List PeoFencePoint} :
    readPoints count 0 fields = Except.ok points <->
      Spells fields (pointNumbers points) ∧ Rounds count points.length := by
  rw [readPoints_eq_ok_iff]
  simp only [Nat.zero_add]
  constructor
  · intro ⟨hpoints, hruns, hends⟩
    exact ⟨hpoints, hruns, hends⟩
  · intro ⟨hpoints, hrounds⟩
    exact ⟨hpoints, hrounds.runs, hrounds.ends⟩

end Points

/-!
## Records
-/

section Records

variable {fields : List String} {fence : PeoFenceStatus} {i : Nat}

theorem pointNumbers_length (points : List PeoFencePoint) :
    (pointNumbers points).length = 2 * points.length := by
  induction points with
  | nil => rfl
  | cons point points ih =>
      have hcons : pointNumbers (point :: points) =
          point.numbers ++ pointNumbers points := rfl
      rw [hcons, List.length_append, ih, List.length_cons]
      simp only [PeoFencePoint.numbers, List.length_cons, List.length_nil]
      lia

theorem PeoFenceStatus.numbers_length (fence : PeoFenceStatus) :
    fence.numbers.length = fence.fieldCount := by
  simp only [numbers, head, trailer, fieldCount, List.length_append,
    pointNumbers_length, List.length_cons, List.length_nil]
  lia

theorem spells_fence_iff :
    Spells fields fence.numbers <->
      Spells fields fence.head ∧
        Spells (fields.drop 4) (pointNumbers fence.points) ∧
          Spells (fields.drop (4 + 2 * fence.points.length)) fence.trailer := by
  rw [PeoFenceStatus.numbers, spells_append_iff, spells_append_iff,
    List.drop_drop, pointNumbers_length]
  rfl

theorem parsePeoFence_of_spells (hreads : Spells fields fence.numbers)
    (hcounts : fence.Counts) : parsePeoFence i fields = Except.ok fence := by
  rcases spells_fence_iff.mp hreads with ⟨hhead, hpoints, htrailer⟩
  rcases spells_four_iff.mp hhead with ⟨hid, hmode, hstart, hend⟩
  rcases spells_four_iff.mp htrailer with ⟨hinterval, hmodes, hspeed, hduration⟩
  have hcount : ¬ (pointCountOf fence.startPoint fence.endPoint).lt 0 = true :=
    Bool.eq_false_iff.mp hcounts.accepted
  have hread : readPoints (pointCountOf fence.startPoint fence.endPoint) 0
      (fields.drop 4) = Except.ok fence.points :=
    readPoints_zero_eq_ok_iff.mpr ⟨hpoints, hcounts.rounds⟩
  simp only [parsePeoFence, hid, hmode, hstart, hend, if_neg hcount, hread,
    hinterval, hmodes, hspeed, hduration]

theorem spells_of_parsePeoFence
    (h : parsePeoFence i fields = Except.ok fence) :
    Spells fields fence.numbers ∧ fence.Counts := by
  unfold parsePeoFence at h
  split at h
  · next hid hmode hstart hend =>
      rcases ite_eq_iff.mp h with ⟨_, hc⟩ | ⟨hcount, h⟩
      · cases hc
      · split at h
        · cases h
        · next points hpoints =>
            dsimp only at h
            split at h
            · next hinterval halarm hspeed hduration =>
                cases h
                rcases readPoints_zero_eq_ok_iff.mp hpoints with
                  ⟨hreads, hrounds⟩
                constructor
                · apply spells_fence_iff.mpr
                  exact ⟨spells_four_iff.mpr ⟨hid, hmode, hstart, hend⟩, hreads,
                    spells_four_iff.mpr ⟨hinterval, halarm, hspeed, hduration⟩⟩
                · exact ⟨Bool.eq_false_iff.mpr hcount, hrounds⟩
            · cases h
  · cases h

end Records

end Tracker
end AvtTracker
