import Mathlib.Data.List.Infix

/-!
# Runs of event-driven systems

A system reacts to one event after the other.  Not every event can happen in
every state: a history is legal if each of its events could happen when it did.

This module develops invariants of legal histories, the histories throughout
which a property holds, and projections of one system on another.
-/

namespace AvtTracker
namespace Foundation

/-- A system with a handler that runs to its end at every event. -/
structure EventSystem (State Event : Type) where
  initial : State
  Enabled : State -> Event -> Prop
  step : State -> Event -> State

namespace EventSystem

variable {State Event : Type} (M : EventSystem State Event)

def stateFrom (s : State) (events : List Event) : State :=
  events.foldl M.step s

def stateAfter (history : List Event) : State :=
  M.stateFrom M.initial history

def LegalFrom : State -> List Event -> Prop
  | _, [] => True
  | s, e :: events => M.Enabled s e ∧ LegalFrom (M.step s e) events

def Legal (history : List Event) : Prop :=
  M.LegalFrom M.initial history

/-- A legal history of the system. -/
structure Run where
  history : List Event
  legal : M.Legal history

instance decidableLegalFrom [forall s e, Decidable (M.Enabled s e)] :
    forall s events, Decidable (M.LegalFrom s events)
  | _, [] => inferInstanceAs (Decidable True)
  | s, e :: events =>
      haveI := decidableLegalFrom (M.step s e) events
      inferInstanceAs (Decidable (_ ∧ _))

instance [forall s e, Decidable (M.Enabled s e)] (history : List Event) :
    Decidable (M.Legal history) :=
  inferInstanceAs (Decidable (M.LegalFrom _ _))

/-- The same system where only some of the events happen. -/
def only (Allowed : Event -> Prop) : EventSystem State Event :=
  { M with Enabled := fun s e => M.Enabled s e ∧ Allowed e }

instance [forall s e, Decidable (M.Enabled s e)] {Allowed : Event -> Prop}
    [forall e, Decidable (Allowed e)] (s : State) (e : Event) :
    Decidable ((M.only Allowed).Enabled s e) :=
  inferInstanceAs (Decidable (M.Enabled s e ∧ Allowed e))

variable {M}

theorem stateFrom_append (s : State) (events more : List Event) :
    M.stateFrom s (events ++ more) =
      M.stateFrom (M.stateFrom s events) more :=
  List.foldl_append

theorem legalFrom_append {events more : List Event} :
    forall {s : State}, M.LegalFrom s (events ++ more) <->
      M.LegalFrom s events ∧ M.LegalFrom (M.stateFrom s events) more := by
  induction events with
  | nil => intro s; exact (and_iff_right trivial).symm
  | cons e events ih =>
      intro s
      exact (and_congr_right fun _ => ih).trans and_assoc.symm

@[simp] theorem stateAfter_snoc (history : List Event) (e : Event) :
    M.stateAfter (history ++ [e]) = M.step (M.stateAfter history) e :=
  stateFrom_append _ _ _

theorem legal_snoc {history : List Event} {e : Event} :
    M.Legal (history ++ [e]) <->
      M.Legal history ∧ M.Enabled (M.stateAfter history) e := by
  unfold Legal
  rw [legalFrom_append]
  exact and_congr_right fun _ => and_iff_left trivial

theorem legalFrom_of_only {Allowed : Event -> Prop} {events : List Event} :
    forall {s : State}, (M.only Allowed).LegalFrom s events ->
      M.LegalFrom s events := by
  induction events with
  | nil => intro s _; trivial
  | cons e events ih => intro s h; exact ⟨h.left.left, ih h.right⟩

theorem legal_of_only {Allowed : Event -> Prop} {history : List Event}
    (h : (M.only Allowed).Legal history) : M.Legal history :=
  legalFrom_of_only h

/-!
## Properties of histories
-/

/-- Invariant rule: what holds at the start and is kept by every event that can
happen holds after every legal history. -/
@[elab_as_elim]
theorem invariant {Inv : List Event -> Prop} (hnil : Inv [])
    (hstep : forall history e, M.Legal history ->
      M.Enabled (M.stateAfter history) e -> Inv history ->
        Inv (history ++ [e]))
    {history : List Event} (h : M.Legal history) : Inv history := by
  induction history using List.reverseRecOn with
  | nil => exact hnil
  | append_singleton history e ih =>
      rcases legal_snoc.mp h with ⟨hlegal, henabled⟩
      exact hstep history e hlegal henabled (ih hlegal)

/-- Simulation rule: if every event of a system takes the projected state
through a legal sequence of events of another one with the same labels, so does
every legal history. -/
theorem exists_labelled_run {State' Event' Label : Type}
    {N : EventSystem State' Event'} (project : State -> State')
    (label : Event -> Option Label) (label' : Event' -> Option Label)
    (hinitial : project M.initial = N.initial)
    (hstep : forall s e, M.Enabled s e ->
      exists events, N.LegalFrom (project s) events ∧
        N.stateFrom (project s) events = project (M.step s e) ∧
          events.filterMap label' = [e].filterMap label)
    {history : List Event} (h : M.Legal history) :
    exists trace, N.Legal trace ∧
      N.stateAfter trace = project (M.stateAfter history) ∧
        trace.filterMap label' = history.filterMap label := by
  refine invariant ?_ ?_ h
  · exact ⟨[], trivial, hinitial.symm, rfl⟩
  · intro history e _ henabled ih
    rcases ih with ⟨trace, hlegal, hstate, hlabels⟩
    rcases hstep (M.stateAfter history) e henabled with
      ⟨events, hmore, hnext, hnew⟩
    rw [← hstate] at hmore hnext
    refine ⟨trace ++ events, legalFrom_append.mpr ⟨hlegal, hmore⟩, ?_, ?_⟩
    · rw [stateAfter_snoc, ← hnext]
      exact stateFrom_append _ _ _
    · rw [List.filterMap_append, List.filterMap_append, hlabels, hnew]

/-- The rule where nothing is asked of the labels. -/
theorem exists_projected_run {State' Event' : Type}
    {N : EventSystem State' Event'} (project : State -> State')
    (hinitial : project M.initial = N.initial)
    (hstep : forall s e, M.Enabled s e ->
      exists events, N.LegalFrom (project s) events ∧
        N.stateFrom (project s) events = project (M.step s e))
    {history : List Event} (h : M.Legal history) :
    exists trace, N.Legal trace ∧
      N.stateAfter trace = project (M.stateAfter history) := by
  have hunlabelled : forall s e, M.Enabled s e ->
      exists events, N.LegalFrom (project s) events ∧
        N.stateFrom (project s) events = project (M.step s e) ∧
          events.filterMap (fun _ => none) =
            [e].filterMap (fun _ => (none : Option Unit)) := by
    intro s e henabled
    rcases hstep s e henabled with ⟨events, hlegal, hstate⟩
    refine ⟨events, hlegal, hstate, ?_⟩
    rw [List.filterMap_eq_nil_iff.mpr (fun _ _ => rfl)]
    rfl
  rcases exists_labelled_run project (fun _ => none) (fun _ => none) hinitial
    hunlabelled h with ⟨trace, hlegal, hstate, _⟩
  exact ⟨trace, hlegal, hstate⟩

/-- Component rule: if some events of a system are those of another one on a part
of the state, and the others leave that part alone, then the former make up a
legal history. -/
theorem legal_component {State' Event' : Type} {N : EventSystem State' Event'}
    (project : State -> State') (part : Event -> Option Event')
    (hinitial : project M.initial = N.initial)
    (hother : forall s e, M.Enabled s e -> part e = none ->
      project (M.step s e) = project s)
    (hpart : forall s e e', M.Enabled s e -> part e = some e' ->
      N.Enabled (project s) e' ∧ project (M.step s e) = N.step (project s) e')
    {history : List Event} (h : M.Legal history) :
    N.Legal (history.filterMap part) ∧
      N.stateAfter (history.filterMap part) =
        project (M.stateAfter history) := by
  refine invariant ?_ ?_ h
  · exact ⟨trivial, hinitial.symm⟩
  · intro history e _ henabled ih
    rw [List.filterMap_append, stateAfter_snoc]
    cases he : part e with
    | none =>
        rw [List.filterMap_cons_none he, List.filterMap_nil, List.append_nil,
          hother _ e henabled he]
        exact ih
    | some e' =>
        rcases hpart _ e e' henabled he with ⟨hnext, hstep⟩
        rw [List.filterMap_cons_some he, List.filterMap_nil, stateAfter_snoc,
          hstep, ih.right]
        refine ⟨legal_snoc.mpr ⟨ih.left, ?_⟩, rfl⟩
        rw [ih.right]
        exact hnext

theorem legal_of_prefix {seen history : List Event} (hseen : seen <+: history)
    (h : M.Legal history) : M.Legal seen := by
  rcases hseen with ⟨later, rfl⟩
  exact (legalFrom_append.mp h).left

theorem log_prefix {α : Type} (log : State -> List α)
    (hstep : forall history e, M.Legal history ->
      M.Enabled (M.stateAfter history) e ->
        log (M.stateAfter history) <+: log (M.step (M.stateAfter history) e))
    {seen history : List Event} (hseen : seen <+: history)
    (h : M.Legal history) :
    log (M.stateAfter seen) <+: log (M.stateAfter history) := by
  rcases hseen with ⟨later, rfl⟩
  induction later using List.reverseRecOn with
  | nil => rw [List.append_nil]
  | append_singleton later e ih =>
      rw [← List.append_assoc] at h ⊢
      rcases legal_snoc.mp h with ⟨hlegal, henabled⟩
      rw [stateAfter_snoc]
      exact (ih hlegal).trans (hstep _ e hlegal henabled)

/-- A property holds at every moment of a history. -/
def Throughout (Good : List Event -> Prop) (history : List Event) : Prop :=
  forall seen, seen <+: history -> Good seen

theorem throughout_snoc {Good : List Event -> Prop} {history : List Event}
    {e : Event} :
    Throughout Good (history ++ [e]) <->
      Throughout Good history ∧ Good (history ++ [e]) := by
  constructor
  · intro h
    exact ⟨fun seen hseen => h seen (hseen.trans (List.prefix_append _ _)),
      h _ List.prefix_rfl⟩
  · intro h seen hseen
    rcases List.prefix_concat_iff.mp hseen with heq | hseen
    · rw [heq]
      exact h.right
    · exact h.left seen hseen

/-- A condition on the state and the event is met at every event. -/
def EveryStep (M : EventSystem State Event)
    (Harmless : State -> Event -> Prop) (history : List Event) : Prop :=
  forall seen e later, history = seen ++ e :: later ->
    Harmless (M.stateAfter seen) e

theorem everyStep_nil {Harmless : State -> Event -> Prop} :
    M.EveryStep Harmless [] := by
  intro seen e later h
  simp at h

theorem everyStep_snoc {Harmless : State -> Event -> Prop}
    {history : List Event} {e : Event} :
    M.EveryStep Harmless (history ++ [e]) <->
      M.EveryStep Harmless history ∧ Harmless (M.stateAfter history) e := by
  constructor
  · intro h
    refine ⟨?_, h history e [] rfl⟩
    intro seen e' later heq
    exact h seen e' (later ++ [e]) (by rw [heq]; simp)
  · rintro ⟨h, hlast⟩ seen e' later heq
    rcases List.eq_nil_or_concat later with rfl | ⟨later, e'', rfl⟩
    · rcases List.append_inj' heq rfl with ⟨rfl, hsame⟩
      rcases List.cons.inj hsame with ⟨rfl, _⟩
      exact hlast
    · have hsplit : history ++ [e] = (seen ++ e' :: later) ++ [e''] := by
        rw [heq]
        simp
      rcases List.append_inj' hsplit rfl with ⟨hhistory, _⟩
      exact h seen e' later hhistory

/-- If the steps that keep a property are known, so are the histories
throughout which it holds. -/
theorem throughout_iff_everyStep {Good : List Event -> Prop}
    {Harmless : State -> Event -> Prop} (hnil : Good [])
    (hstep : forall history e, M.Legal history ->
      M.Enabled (M.stateAfter history) e -> Throughout Good history ->
        (Good (history ++ [e]) <-> Harmless (M.stateAfter history) e))
    {history : List Event} (h : M.Legal history) :
    Throughout Good history <-> M.EveryStep Harmless history := by
  induction history using List.reverseRecOn with
  | nil =>
      refine iff_of_true ?_ everyStep_nil
      intro seen hseen
      rw [List.prefix_nil.mp hseen]
      exact hnil
  | append_singleton history e ih =>
      rcases legal_snoc.mp h with ⟨hlegal, henabled⟩
      rw [throughout_snoc, everyStep_snoc, ih hlegal]
      refine and_congr_right fun hsteps => ?_
      exact hstep history e hlegal henabled ((ih hlegal).mpr hsteps)

end EventSystem

end Foundation
end AvtTracker
