import AvtTracker.Foundation.Runs
import Mathlib.Algebra.GroupWithZero.Nat

/-!
# Systems that settle

Some events of a system only work off what others have started.  If each of them
lowers the amount of work left, and one of them can happen until there is none,
then the system cannot get stuck before its work is done, nor be kept from
finishing by the order in which these events come.
-/

namespace AvtTracker
namespace Foundation

open EventSystem

variable {State Event : Type}

/-- Internal events work off the work left in the states of an invariant. -/
structure Settling (M : EventSystem State Event) where
  Inv : State -> Prop
  Internal : Event -> Prop
  work : State -> Nat
  kept : forall s e, Inv s -> M.Enabled s e -> Internal e -> Inv (M.step s e)
  decreases : forall s e, Inv s -> M.Enabled s e -> Internal e ->
    work (M.step s e) < work s
  progress : forall s, Inv s -> work s ≠ 0 ->
    exists e, Internal e ∧ M.Enabled s e

namespace Settling

variable {M : EventSystem State Event} (S : Settling M)

/-- Only internal events. -/
def InternalOnly (events : List Event) : Prop :=
  forall e, e ∈ events -> S.Internal e

theorem kept_run {events : List Event} :
    forall {s : State}, S.Inv s -> M.LegalFrom s events ->
      S.InternalOnly events -> S.Inv (M.stateFrom s events) := by
  induction events with
  | nil => exact fun hs _ _ => hs
  | cons e events ih =>
      intro s hs hlegal honly
      exact ih (S.kept s e hs hlegal.left (honly e List.mem_cons_self))
        hlegal.right (fun e' he' => honly e' (List.mem_cons_of_mem _ he'))

/-- Every internal event pays for itself. -/
theorem length_add_work_le {events : List Event} :
    forall {s : State}, S.Inv s -> M.LegalFrom s events ->
      S.InternalOnly events ->
        events.length + S.work (M.stateFrom s events) ≤ S.work s := by
  induction events with
  | nil =>
      intro s _ _ _
      exact Nat.le_of_eq (Nat.zero_add _)
  | cons e events ih =>
      intro s hs hlegal honly
      have hinternal := honly e List.mem_cons_self
      have hless := S.decreases s e hs hlegal.left hinternal
      have hrest := ih (S.kept s e hs hlegal.left hinternal) hlegal.right
        (fun e' he' => honly e' (List.mem_cons_of_mem _ he'))
      change events.length + S.work (M.stateFrom s (e :: events)) ≤
        S.work (M.step s e) at hrest
      rw [List.length_cons]
      lia

theorem work_eq_zero_of_stuck {s : State} (hs : S.Inv s)
    (h : forall e, S.Internal e -> ¬ M.Enabled s e) : S.work s = 0 := by
  apply Classical.byContradiction
  intro hwork
  rcases S.progress s hs hwork with ⟨e, hinternal, henabled⟩
  exact h e hinternal henabled

/-- The work can be finished from everywhere. -/
theorem exists_settled (n : Nat) :
    forall {s : State}, S.Inv s -> S.work s ≤ n ->
      exists events, S.InternalOnly events ∧ M.LegalFrom s events ∧
        S.work (M.stateFrom s events) = 0 := by
  induction n with
  | zero =>
      intro s _ hwork
      refine ⟨[], ?_, trivial, Nat.le_zero.mp hwork⟩
      intro e he
      cases he
  | succ n ih =>
      intro s hs hwork
      by_cases hdone : S.work s = 0
      · refine ⟨[], ?_, trivial, hdone⟩
        intro e he
        cases he
      · rcases S.progress s hs hdone with ⟨e, hinternal, henabled⟩
        have hless := S.decreases s e hs henabled hinternal
        rcases ih (S.kept s e hs henabled hinternal) (by lia) with
          ⟨events, honly, hlegal, hzero⟩
        refine ⟨e :: events, ?_, ⟨henabled, hlegal⟩, hzero⟩
        intro e' he'
        rcases List.mem_cons.mp he' with rfl | he'
        · exact hinternal
        · exact honly e' he'

/-- What is started can be finished; no internal run takes more events than
there was work, and one that cannot go on has finished it. -/
theorem settles {s : State} (hs : S.Inv s) :
    (exists events, S.InternalOnly events ∧ M.LegalFrom s events ∧
        S.work (M.stateFrom s events) = 0) ∧
      forall events, S.InternalOnly events -> M.LegalFrom s events ->
        events.length ≤ S.work s ∧
          ((forall e, S.Internal e -> ¬ M.Enabled (M.stateFrom s events) e) ->
            S.work (M.stateFrom s events) = 0) := by
  refine ⟨S.exists_settled _ hs (Nat.le_refl _), ?_⟩
  intro events honly hlegal
  refine ⟨Nat.le_trans (Nat.le_add_right _ _)
    (S.length_add_work_le hs hlegal honly), fun hstuck => ?_⟩
  exact S.work_eq_zero_of_stuck (S.kept_run hs hlegal honly) hstuck

end Settling

/-!
## Work in a list of jobs
-/

section Jobs

variable {α : Type} (work : α -> Nat)

theorem sum_modify_lt {jobs : List α} {i : Nat} {f : α -> α} {job : α}
    (hjob : jobs[i]? = some job) (hless : work (f job) < work job) :
    ((jobs.modify i f).map work).sum < (jobs.map work).sum := by
  induction jobs generalizing i with
  | nil => cases hjob
  | cons first jobs ih =>
      cases i with
      | zero =>
          cases hjob
          rw [List.modify_zero_cons, List.map_cons, List.sum_cons, List.map_cons,
            List.sum_cons]
          lia
      | succ i =>
          rw [List.modify_succ_cons, List.map_cons, List.sum_cons, List.map_cons,
            List.sum_cons]
          have hrest := ih hjob
          lia

theorem exists_job_of_work {jobs : List α} (h : (jobs.map work).sum ≠ 0) :
    exists (i : Nat) (job : α), jobs[i]? = some job ∧ work job ≠ 0 := by
  rcases List.sum_pos_iff_exists_pos_nat.mp (Nat.pos_of_ne_zero h) with
    ⟨n, hn, hpos⟩
  rcases List.mem_map.mp hn with ⟨job, hjob, rfl⟩
  rcases List.mem_iff_getElem?.mp hjob with ⟨i, hi⟩
  exact ⟨i, job, hi, Nat.ne_of_gt hpos⟩

theorem filterMap_modify_perm {β : Type} {result : α -> Option β}
    {jobs : List α} {i : Nat} {f : α -> α} {job : α} {b : β}
    (hjob : jobs[i]? = some job) (hbefore : result job = none)
    (hafter : result (f job) = some b) :
    ((jobs.modify i f).filterMap result).Perm (b :: jobs.filterMap result) := by
  induction jobs generalizing i with
  | nil => cases hjob
  | cons first jobs ih =>
      cases i with
      | zero =>
          cases hjob
          rw [List.modify_zero_cons, List.filterMap_cons_some hafter,
            List.filterMap_cons_none hbefore]
      | succ i =>
          rw [List.modify_succ_cons]
          have hrest := ih hjob
          cases hfirst : result first with
          | none =>
              rw [List.filterMap_cons_none hfirst,
                List.filterMap_cons_none hfirst]
              exact hrest
          | some c =>
              rw [List.filterMap_cons_some hfirst,
                List.filterMap_cons_some hfirst]
              exact (hrest.cons c).trans (List.Perm.swap b c _)

end Jobs

end Foundation
end AvtTracker
