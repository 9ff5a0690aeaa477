import Mathlib.Data.List.Forall2
import Mathlib.Tactic.Common

/-!
# Runs that differ in one event

A state is looked at through its members.  A step is memberwise when what it
makes of a member depends on that member alone; then two runs whose events differ
only where they leave a member alone end with the same value of it.
-/

namespace AvtTracker
namespace Foundation

section Isolation

variable {State Event Member : Type} {Value : Member -> Type}

/-- What a step makes of a member depends on that member alone. -/
def Memberwise (view : forall m : Member, State -> Value m)
    (step : State -> Event -> State) : Prop :=
  forall (m : Member) (s t : State) (e : Event),
    view m s = view m t -> view m (step s e) = view m (step t e)

/-- The event leaves the member as it is. -/
def Leaves (view : forall m : Member, State -> Value m)
    (step : State -> Event -> State) (e : Event) (m : Member) : Prop :=
  forall s : State, view m (step s e) = view m s

variable {view : forall m : Member, State -> Value m}
  {step : State -> Event -> State}

theorem view_foldl_of_forall₂ (hstep : Memberwise view step) {m : Member}
    {events events' : List Event}
    (h : List.Forall₂ (fun e e' =>
      e = e' ∨ Leaves view step e m ∧ Leaves view step e' m) events events') :
    forall {s t : State}, view m s = view m t ->
      view m (events.foldl step s) = view m (events'.foldl step t) := by
  induction h with
  | nil =>
      intro s t hst
      exact hst
  | cons hhead _ ih =>
      intro s t hst
      apply ih
      cases hhead with
      | inl heq =>
          rw [heq]
          exact hstep m s t _ hst
      | inr hleaves =>
          rw [hleaves.left s, hleaves.right t]
          exact hst

theorem view_foldl_of_agree (hstep : Memberwise view step) {m : Member}
    {events events' : List Event} (j : Nat)
    (hlen : events.length = events'.length)
    (hagree : forall i, i ≠ j -> events[i]? = events'[i]?)
    (hleft : forall e, events[j]? = some e -> Leaves view step e m)
    (hright : forall e, events'[j]? = some e -> Leaves view step e m)
    (s : State) :
    view m (events.foldl step s) = view m (events'.foldl step s) := by
  refine view_foldl_of_forall₂ hstep ?_ rfl
  refine List.forall₂_iff_get.mpr ⟨hlen, ?_⟩
  intro i h h'
  by_cases hij : i = j
  · apply Or.inr
    subst hij
    exact ⟨hleft _ (List.getElem?_eq_getElem h),
      hright _ (List.getElem?_eq_getElem h')⟩
  · apply Or.inl
    have heq := hagree i hij
    rw [List.getElem?_eq_getElem h, List.getElem?_eq_getElem h'] at heq
    exact Option.some.inj heq

end Isolation

end Foundation
end AvtTracker
