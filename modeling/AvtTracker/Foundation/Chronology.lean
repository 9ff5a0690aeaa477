import AvtTracker.Foundation.Upserts
import Mathlib.Order.BoundedOrder.Basic

/-!
# Chronology

Records that are stored one after the other, each with a time of its own.  The
time of the last record stored never goes back exactly when the records are
stored in the order of their times, and then the last record of a kind is a
latest one.
-/

namespace AvtTracker
namespace Foundation

variable {ρ τ α : Type}

theorem lastSome_map (value : ρ -> Option α) (records : List ρ) :
    lastSome (records.map value) =
      ((records.filter (fun r => (value r).isSome)).getLast?).bind value := by
  induction records using List.reverseRecOn with
  | nil => rfl
  | append_singleton records r ih =>
      rw [List.map_append, List.map_singleton, lastSome_snoc,
        List.filter_append, ih]
      cases hr : value r with
      | none =>
          have hskip : [r].filter (fun r => (value r).isSome) = [] := by
            simp [hr]
          rw [hskip, List.append_nil]
          rfl
      | some a =>
          have hkeep : [r].filter (fun r => (value r).isSome) = [r] := by
            simp [hr]
          rw [hkeep, List.getLast?_concat, Option.bind_some, hr]
          rfl

section Times

variable [Preorder τ] (time : ρ -> τ)

/-- A record of a kind that no other of that kind is later than. -/
structure IsLatest (kind : ρ -> Prop) (records : List ρ) (latest : ρ) :
    Prop where
  mem : latest ∈ records
  of_kind : kind latest
  le : forall r, r ∈ records -> kind r -> time r ≤ time latest

/-- The records are stored in the order of their times. -/
def Chronological (records : List ρ) : Prop :=
  records.Pairwise (fun r r' => time r ≤ time r')

instance [DecidableRel (α := τ) (· ≤ ·)] (records : List ρ) :
    Decidable (Chronological time records) :=
  inferInstanceAs (Decidable (List.Pairwise _ records))

variable {time}

theorem Chronological.le_last {records : List ρ} {last : ρ}
    (h : Chronological time (records ++ [last])) {r : ρ}
    (hr : r ∈ records ++ [last]) : time r ≤ time last := by
  rcases List.mem_append.mp hr with hr | hr
  · exact (List.pairwise_append.mp h).right.right r hr last
      List.mem_cons_self
  · rw [List.mem_singleton.mp hr]

theorem Chronological.isLatest_getLast {records : List ρ}
    (h : Chronological time records) (kind : ρ -> Bool) {latest : ρ}
    (hlast : (records.filter kind).getLast? = some latest) :
    IsLatest time (fun r => kind r = true) records latest := by
  rcases List.getLast?_eq_some_iff.mp hlast with ⟨before, hbefore⟩
  have hmem : latest ∈ records.filter kind := by
    rw [hbefore]
    exact List.mem_append_right _ List.mem_cons_self
  have hsorted : Chronological time (before ++ [latest]) := by
    rw [← hbefore]
    exact List.Pairwise.filter kind h
  constructor
  · exact (List.mem_filter.mp hmem).left
  · exact (List.mem_filter.mp hmem).right
  · intro r hr hkind
    apply hsorted.le_last
    rw [← hbefore]
    exact List.mem_filter.mpr ⟨hr, hkind⟩

variable [OrderBot τ]

/-- The time of the last record, {lit}`⊥` when there is none. -/
def lastTime (time : ρ -> τ) (records : List ρ) : τ :=
  (records.getLast?.map time).getD ⊥

theorem lastTime_concat (records : List ρ) (r : ρ) :
    lastTime time (records ++ [r]) = time r := by
  unfold lastTime
  rw [List.getLast?_concat]
  rfl

/-- The time of the last record never goes back exactly when the records are
stored in the order of their times. -/
theorem chronological_iff {records : List ρ} :
    Chronological time records <->
      forall earlier later, earlier <+: later -> later <+: records ->
        lastTime time earlier ≤ lastTime time later := by
  constructor
  · intro h earlier later hearlier hlater
    have hsorted : Chronological time later :=
      List.Pairwise.sublist hlater.sublist h
    rcases List.eq_nil_or_concat' earlier with rfl | ⟨front, r, rfl⟩
    · exact bot_le
    have hmem : r ∈ later :=
      hearlier.subset (List.mem_append_right _ List.mem_cons_self)
    rcases List.eq_nil_or_concat' later with rfl | ⟨front', r', rfl⟩
    · cases hmem
    · rw [lastTime_concat, lastTime_concat]
      exact hsorted.le_last hmem
  · intro h
    induction records using List.reverseRecOn with
    | nil => exact List.Pairwise.nil
    | append_singleton records r ih =>
        have hfront : Chronological time records := by
          apply ih
          intro earlier later hearlier hlater
          exact h earlier later hearlier
            (hlater.trans (List.prefix_append _ _))
        apply List.pairwise_append.mpr
        refine ⟨hfront, List.pairwise_singleton _ _, ?_⟩
        intro a ha b hb
        rw [List.mem_singleton.mp hb]
        rcases List.append_of_mem ha with ⟨front, back, hsplit⟩
        have hmono := h (front ++ [a]) (records ++ [r]) ?_ List.prefix_rfl
        · rwa [lastTime_concat, lastTime_concat] at hmono
        · rw [hsplit]
          exact ⟨back ++ [r], by simp⟩

end Times

end Foundation
end AvtTracker
