import AvtTracker.Foundation.Runs
import AvtTracker.Foundation.Upserts

/-!
# Concurrent saves

A store with a table of owners and a table of rows.  Saving a row takes two
statements: its owner is upserted first, and then the row is inserted.  Owners
are also patched on their own.  Each statement is atomic, and those of different
saves come in any order.

Whatever the order, the table of owners is what the applied patches make of it
one after the other, every row is saved once, and no row is without its owner.
-/

namespace AvtTracker
namespace Foundation

/-- A patch of an owner that nobody waits for. -/
structure PatchJob (Patch : Type) where
  patch : Patch
  inFlight : Bool := true

/-- How far the saving of a row has got: there is none, its owner is being
upserted, it is being inserted, or it was inserted or given up. -/
inductive SaveJobPhase where
  | nothing
  | upserting
  | saving
  | saved
  | rejected
  deriving DecidableEq, Repr

structure SaveJob (Patch Row : Type) where
  content : Option (Patch × Row)
  phase : SaveJobPhase

/-- A save waits for its first statement, if there is anything to save. -/
def SaveJob.start {Patch Row : Type} (content : Option (Patch × Row)) :
    SaveJob Patch Row where
  content := content
  phase := if content.isSome then SaveJobPhase.upserting
    else SaveJobPhase.nothing

/-- What is behind the two tables: which patches are fired on their own, and
which are saved with a row, whose owner they are for. -/
structure SaveSpec (Key Owner Patch Row : Type) where
  upserts : Upserts Key Owner Patch
  ownerOf : Row -> Key
  Fired : Patch -> Prop
  Saved : Patch -> Row -> Prop
  keyOf_saved : forall patch row, Saved patch row ->
    upserts.keyOf patch = ownerOf row

structure SaveStore (Key Owner Patch Row : Type) where
  patches : List (PatchJob Patch) := []
  saves : List (SaveJob Patch Row) := []
  owners : AList (fun _ : Key => Owner) := ∅
  rows : List (Nat × Row) := []

inductive SaveEvent (Patch Row : Type) where
  | patch (patch : Patch)
  | save (content : Option (Patch × Row))
  | patchSettled (j : Nat) (accepted : Bool)
  | upsertSettled (i : Nat) (accepted : Bool)
  | saveSettled (i : Nat) (accepted : Bool)

namespace SaveStore

variable {Key Owner Patch Row : Type}

def phaseOf (s : SaveStore Key Owner Patch Row) (i : Nat) :
    Option SaveJobPhase :=
  (s.saves[i]?).map SaveJob.phase

def setPhase (s : SaveStore Key Owner Patch Row) (i : Nat)
    (phase : SaveJobPhase) : SaveStore Key Owner Patch Row :=
  { s with saves := s.saves.modify i (fun job =>
      { job with phase := phase }) }

section Settling

variable [DecidableEq Key] (S : SaveSpec Key Owner Patch Row)

def settlePatch (s : SaveStore Key Owner Patch Row) (j : Nat)
    (accepted : Bool) : SaveStore Key Owner Patch Row :=
  match s.patches[j]? with
  | none => s
  | some job =>
      { s with
        patches := s.patches.modify j (fun job =>
          { job with inFlight := false })
        owners := if accepted then S.upserts.upsert s.owners job.patch
          else s.owners }

def settleUpsert (s : SaveStore Key Owner Patch Row) (i : Nat)
    (accepted : Bool) : SaveStore Key Owner Patch Row :=
  match (s.saves[i]?).bind SaveJob.content with
  | none => s
  | some content =>
      if accepted then
        { s.setPhase i SaveJobPhase.saving with
          owners := S.upserts.upsert s.owners content.1 }
      else s.setPhase i SaveJobPhase.rejected

def settleSave (s : SaveStore Key Owner Patch Row) (i : Nat)
    (accepted : Bool) : SaveStore Key Owner Patch Row :=
  match (s.saves[i]?).bind SaveJob.content with
  | none => s
  | some content =>
      if accepted then
        { s.setPhase i SaveJobPhase.saved with
          rows := s.rows ++ [(i, content.2)] }
      else s.setPhase i SaveJobPhase.rejected

end Settling

end SaveStore

namespace SaveSpec

variable {Key Owner Patch Row : Type} [DecidableEq Key]
variable (S : SaveSpec Key Owner Patch Row)

/-- Every job takes its statements one by one. -/
def Enabled (s : SaveStore Key Owner Patch Row) : SaveEvent Patch Row -> Prop
  | SaveEvent.patch patch => S.Fired patch
  | SaveEvent.save content =>
      forall patch row, content = some (patch, row) -> S.Saved patch row
  | SaveEvent.patchSettled j _ => (s.patches[j]?).any PatchJob.inFlight = true
  | SaveEvent.upsertSettled i _ => s.phaseOf i = some SaveJobPhase.upserting
  | SaveEvent.saveSettled i _ => s.phaseOf i = some SaveJobPhase.saving

def store : EventSystem (SaveStore Key Owner Patch Row)
    (SaveEvent Patch Row) where
  initial := {}
  Enabled := S.Enabled
  step s
    | SaveEvent.patch patch =>
        { s with patches := s.patches ++ [{ patch := patch }] }
    | SaveEvent.save content =>
        { s with saves := s.saves ++ [SaveJob.start content] }
    | SaveEvent.patchSettled j accepted => s.settlePatch S j accepted
    | SaveEvent.upsertSettled i accepted => s.settleUpsert S i accepted
    | SaveEvent.saveSettled i accepted => s.settleSave i accepted

end SaveSpec

/-- A statement that patches an owner: one of its own, or that of a save. -/
inductive Upserter where
  | patch (j : Nat)
  | save (i : Nat)
  deriving DecidableEq, Repr

/-- The statement about an owner that the event says was applied. -/
def SaveEvent.applied? {Patch Row : Type} :
    SaveEvent Patch Row -> Option Upserter
  | patchSettled j accepted => if accepted then some (Upserter.patch j) else none
  | upsertSettled i accepted => if accepted then some (Upserter.save i) else none
  | _ => none

/-!
## Views of jobs

A server keeps more about a job than the database needs.
-/

section Views

variable {α β : Type} {f : α -> α} {view : α -> β}

theorem map_modify {g : β -> β} (h : forall a, view (f a) = g (view a)) (i : Nat)
    (xs : List α) : (xs.modify i f).map view = (xs.map view).modify i g := by
  apply List.ext_getElem?
  intro k
  rw [List.getElem?_map, List.getElem?_modify, List.getElem?_modify,
    List.getElem?_map]
  cases xs[k]? with
  | none => rfl
  | some a =>
      by_cases hk : i = k
      · simp [hk, h]
      · simp [hk]

theorem map_modify_same {i : Nat} {xs : List α}
    (h : forall a, xs[i]? = some a -> view (f a) = view a) :
    (xs.modify i f).map view = xs.map view := by
  apply List.ext_getElem?
  intro k
  rw [List.getElem?_map, List.getElem?_modify, List.getElem?_map]
  by_cases hk : i = k
  · subst hk
    cases ha : xs[i]? with
    | none => rfl
    | some a => simp [h a ha]
  · simp [hk]

end Views

/-!
## Starting jobs
-/

section Starting

variable {Key Owner Patch Row : Type} [DecidableEq Key]
variable (S : SaveSpec Key Owner Patch Row)

/-- A patch that has just been fired. -/
def SaveSpec.FreshPatch (job : PatchJob Patch) : Prop :=
  job.inFlight = true ∧ S.Fired job.patch

/-- A save that has just been started. -/
def SaveSpec.FreshSave (job : SaveJob Patch Row) : Prop :=
  job = SaveJob.start job.content ∧
    forall patch row, job.content = some (patch, row) -> S.Saved patch row

theorem SaveSpec.run_patches {patches : List (PatchJob Patch)}
    (hfired : forall job, job ∈ patches -> S.FreshPatch job) :
    forall s : SaveStore Key Owner Patch Row,
      S.store.LegalFrom s
          (patches.map (fun job => SaveEvent.patch job.patch)) ∧
        S.store.stateFrom s
            (patches.map (fun job => SaveEvent.patch job.patch)) =
          { s with patches := s.patches ++ patches } := by
  induction patches with
  | nil =>
      intro s
      rw [List.append_nil]
      exact ⟨trivial, rfl⟩
  | cons job patches ih =>
      intro s
      have hfresh := hfired job List.mem_cons_self
      have hself : job = { patch := job.patch } := by
        cases job
        exact congrArg (PatchJob.mk _) hfresh.left
      rcases ih (fun other hother => hfired other
        (List.mem_cons_of_mem job hother))
        { s with patches := s.patches ++ [{ patch := job.patch }] } with
        ⟨hlegal, hstate⟩
      refine ⟨⟨hfresh.right, hlegal⟩, hstate.trans ?_⟩
      rw [← hself, List.append_assoc]
      rfl

theorem SaveSpec.run_saves {saves : List (SaveJob Patch Row)}
    (hstarted : forall job, job ∈ saves -> S.FreshSave job) :
    forall s : SaveStore Key Owner Patch Row,
      S.store.LegalFrom s (saves.map (fun job => SaveEvent.save job.content)) ∧
        S.store.stateFrom s
            (saves.map (fun job => SaveEvent.save job.content)) =
          { s with saves := s.saves ++ saves } := by
  induction saves with
  | nil =>
      intro s
      rw [List.append_nil]
      exact ⟨trivial, rfl⟩
  | cons job saves ih =>
      intro s
      have hfresh := hstarted job List.mem_cons_self
      rcases ih (fun other hother => hstarted other
        (List.mem_cons_of_mem job hother))
        { s with saves := s.saves ++ [SaveJob.start job.content] } with
        ⟨hlegal, hstate⟩
      refine ⟨⟨hfresh.right, hlegal⟩, hstate.trans ?_⟩
      rw [← hfresh.left, List.append_assoc]
      rfl

/-- Jobs that are only started are started by events of the store. -/
theorem SaveSpec.exists_started (s : SaveStore Key Owner Patch Row)
    {patches : List (PatchJob Patch)} {saves : List (SaveJob Patch Row)}
    (hfired : forall job, job ∈ patches -> S.FreshPatch job)
    (hstarted : forall job, job ∈ saves -> S.FreshSave job) :
    exists events, S.store.LegalFrom s events ∧
      S.store.stateFrom s events =
        { s with
          patches := s.patches ++ patches
          saves := s.saves ++ saves } ∧
      events.filterMap SaveEvent.applied? = [] := by
  rcases S.run_patches hfired s with ⟨hlegal, hstate⟩
  rcases S.run_saves hstarted { s with patches := s.patches ++ patches } with
    ⟨hmore, hnext⟩
  rw [← hstate] at hmore hnext
  refine ⟨_, EventSystem.legalFrom_append.mpr ⟨hlegal, hmore⟩, ?_, ?_⟩
  · rw [EventSystem.stateFrom_append, hnext, hstate]
  · rw [List.filterMap_append, List.filterMap_map, List.filterMap_map]
    exact List.append_eq_nil_iff.mpr
      ⟨List.filterMap_eq_nil_iff.mpr fun _ _ => rfl,
        List.filterMap_eq_nil_iff.mpr fun _ _ => rfl⟩

end Starting

/-!
## Serial order
-/

namespace SaveStore

variable {Key Owner Patch Row : Type}

def patchOf (s : SaveStore Key Owner Patch Row) : Upserter -> Option Patch
  | Upserter.patch j => (s.patches[j]?).map PatchJob.patch
  | Upserter.save i =>
      ((s.saves[i]?).bind SaveJob.content).map Prod.fst

def Settled (s : SaveStore Key Owner Patch Row) : Upserter -> Prop
  | Upserter.patch j => (s.patches[j]?).map PatchJob.inFlight = some false
  | Upserter.save i => exists phase, s.phaseOf i = some phase ∧
      phase ≠ SaveJobPhase.nothing ∧ phase ≠ SaveJobPhase.upserting

/-- The owner of the row has been upserted, and its save not given up. -/
def Applied (s : SaveStore Key Owner Patch Row) (i : Nat) : Prop :=
  s.phaseOf i = some SaveJobPhase.saving ∨
    s.phaseOf i = some SaveJobPhase.saved

/-- Jobs and rows belong together. -/
structure RowsSaved (S : SaveSpec Key Owner Patch Row)
    (s : SaveStore Key Owner Patch Row) : Prop where
  waiting : forall (i : Nat) (job : SaveJob Patch Row),
    s.saves[i]? = some job ->
      (job.content = none <-> job.phase = SaveJobPhase.nothing)
  rows : forall (i : Nat) (row : Row), (i, row) ∈ s.rows <->
    exists patch, s.saves[i]? =
      some { content := some (patch, row), phase := SaveJobPhase.saved }
  rows_once : (s.rows.map Prod.fst).Nodup
  fired : forall (j : Nat) (job : PatchJob Patch),
    s.patches[j]? = some job -> S.Fired job.patch
  sourced : forall (i : Nat) (job : SaveJob Patch Row) (patch : Patch)
    (row : Row), s.saves[i]? = some job -> job.content = some (patch, row) ->
      S.Saved patch row

variable [DecidableEq Key]

/-- The order lists the applied statements as they were applied: one after the
other they make the table of owners. -/
structure Serial (S : SaveSpec Key Owner Patch Row)
    (s : SaveStore Key Owner Patch Row) (order : List Upserter) : Prop where
  owners : s.owners = S.upserts.upsertAll (order.filterMap s.patchOf)
  once : order.Nodup
  settled : forall u, u ∈ order -> s.Settled u
  applied : forall i, s.Applied i -> Upserter.save i ∈ order

/-!
## Steps
-/

section Steps

variable {S : SaveSpec Key Owner Patch Row}
variable {s s' : SaveStore Key Owner Patch Row} {order : List Upserter}

omit [DecidableEq Key] in
theorem filterMap_patchOf (hsettled : forall u, u ∈ order -> s.Settled u)
    (hpatch : forall u, s.Settled u -> s'.patchOf u = s.patchOf u) :
    order.filterMap s'.patchOf = order.filterMap s.patchOf :=
  List.filterMap_congr fun u hu => hpatch u (hsettled u hu)

theorem Serial.keep (h : Serial S s order)
    (hsettled : forall u, s.Settled u -> s'.Settled u)
    (hpatch : forall u, s.Settled u -> s'.patchOf u = s.patchOf u)
    (howners : s'.owners = s.owners)
    (happlied : forall i, s'.Applied i -> s.Applied i) :
    Serial S s' order where
  owners := by
    rw [howners, filterMap_patchOf h.settled hpatch]
    exact h.owners
  once := h.once
  settled u hu := hsettled u (h.settled u hu)
  applied i hi := h.applied i (happlied i hi)

theorem Serial.apply (h : Serial S s order) {u : Upserter} {patch : Patch}
    (hsettled : forall u', s'.Settled u' <-> s.Settled u' ∨ u' = u)
    (hnew : ¬ s.Settled u)
    (hpatch : forall u, s'.patchOf u = s.patchOf u)
    (hpatchOf : s.patchOf u = some patch)
    (howners : s'.owners = S.upserts.upsert s.owners patch)
    (happlied : forall i, s'.Applied i ->
      s.Applied i ∨ Upserter.save i = u) :
    Serial S s' (order ++ [u]) := by
  constructor
  · rw [howners, List.filterMap_append,
      filterMap_patchOf h.settled (fun u _ => hpatch u),
      List.filterMap_cons_some ((hpatch u).trans hpatchOf), h.owners]
    exact (List.foldl_append : _ = S.upserts.upsert _ patch).symm
  · refine List.nodup_append.mpr ⟨h.once, List.nodup_singleton u, ?_⟩
    rintro u' hu' v hv rfl
    rw [List.mem_singleton.mp hv] at hu'
    exact hnew (h.settled u hu')
  · intro u' hu'
    apply (hsettled u').mpr
    rcases List.mem_append.mp hu' with hu' | hu'
    · exact Or.inl (h.settled u' hu')
    · exact Or.inr (List.mem_singleton.mp hu')
  · intro i hi
    rcases happlied i hi with hold | hsame
    · exact List.mem_append_left _ (h.applied i hold)
    · rw [hsame]
      exact List.mem_append_right _ (List.mem_singleton.mpr rfl)

/-!
New jobs are at the ends of their lists.
-/

theorem getElem?_snoc {α : Type} (xs : List α) (x : α) (k : Nat) :
    (xs ++ [x])[k]? = if k = xs.length then some x else xs[k]? := by
  by_cases hk : k = xs.length
  · rw [if_pos hk, hk]
    exact List.getElem?_concat_length
  · rw [if_neg hk]
    by_cases hlt : k < xs.length
    · exact List.getElem?_append_left hlt
    · rw [List.getElem?_eq_none (Nat.not_lt.mp hlt), List.getElem?_eq_none]
      rw [List.length_append, List.length_singleton]
      lia

theorem getElem?_snoc_of_some {α : Type} {xs : List α} {x y : α} {k : Nat}
    (h : xs[k]? = some y) : (xs ++ [x])[k]? = some y := by
  rw [getElem?_snoc, if_neg]
  · exact h
  · rintro rfl
    rw [List.getElem?_eq_none (Nat.le_refl _)] at h
    cases h

theorem Serial.patch (h : Serial S s order) (patch : Patch) :
    Serial S { s with patches := s.patches ++ [{ patch := patch }] } order := by
  refine h.keep ?_ ?_ rfl (fun i hi => hi)
  · intro u hu
    cases u with
    | save i => exact hu
    | patch j =>
        rcases Option.map_eq_some_iff.mp hu with ⟨job, hjob, hsettled⟩
        exact Option.map_eq_some_iff.mpr
          ⟨job, getElem?_snoc_of_some hjob, hsettled⟩
  · intro u hu
    cases u with
    | save i => rfl
    | patch j =>
        rcases Option.map_eq_some_iff.mp hu with ⟨job, hjob, _⟩
        exact congrArg (Option.map PatchJob.patch)
          ((getElem?_snoc_of_some hjob).trans hjob.symm)

omit [DecidableEq Key] in
theorem phaseOf_save (content : Option (Patch × Row)) (i : Nat) :
    SaveStore.phaseOf
        { s with saves := s.saves ++ [SaveJob.start content] } i =
      if i = s.saves.length then some (SaveJob.start content).phase
      else s.phaseOf i := by
  show ((s.saves ++ [_])[i]?).map SaveJob.phase = _
  rw [getElem?_snoc]
  by_cases hi : i = s.saves.length
  · rw [if_pos hi, if_pos hi]
    rfl
  · rw [if_neg hi, if_neg hi]
    rfl

omit [DecidableEq Key] in
theorem start_phase (content : Option (Patch × Row)) :
    (SaveJob.start content).phase =
      if content = none then SaveJobPhase.nothing
      else SaveJobPhase.upserting := by
  cases content with
  | none => rfl
  | some pair => exact (if_neg (nomatch ·)).symm

theorem Serial.save (h : Serial S s order) (content : Option (Patch × Row)) :
    Serial S { s with saves := s.saves ++ [SaveJob.start content] } order := by
  have hold : forall i phase, s.phaseOf i = some phase ->
      SaveStore.phaseOf
        { s with saves := s.saves ++ [SaveJob.start content] } i =
          some phase := by
    intro i phase hi
    rcases Option.map_eq_some_iff.mp hi with ⟨job, hjob, hphase⟩
    exact Option.map_eq_some_iff.mpr ⟨job, getElem?_snoc_of_some hjob, hphase⟩
  have hnew : forall i phase, phase ≠ SaveJobPhase.nothing ->
      phase ≠ SaveJobPhase.upserting ->
      SaveStore.phaseOf
        { s with saves := s.saves ++ [SaveJob.start content] } i =
          some phase -> s.phaseOf i = some phase := by
    intro i phase hnothing hupserting hi
    rw [phaseOf_save] at hi
    rcases ite_eq_iff.mp hi with ⟨_, hstart⟩ | ⟨_, hi⟩
    · rw [start_phase] at hstart
      rcases ite_eq_iff.mp (Option.some.inj hstart) with ⟨_, hc⟩ | ⟨_, hc⟩
      · exact absurd hc.symm hnothing
      · exact absurd hc.symm hupserting
    · exact hi
  refine h.keep ?_ ?_ rfl ?_
  · intro u hu
    cases u with
    | patch j => exact hu
    | save i =>
        rcases hu with ⟨phase, hi, hrest⟩
        exact ⟨phase, hold i phase hi, hrest⟩
  · intro u hu
    cases u with
    | patch j => rfl
    | save i =>
        rcases hu with ⟨phase, hi, _⟩
        rcases Option.map_eq_some_iff.mp hi with ⟨job, hjob, _⟩
        exact congrArg (fun found => (found.bind SaveJob.content).map Prod.fst)
          ((getElem?_snoc_of_some hjob).trans hjob.symm)
  · intro i hi
    exact hi.imp (hnew i _ (by decide) (by decide))
      (hnew i _ (by decide) (by decide))

/-!
A statement of its own is answered.
-/

section Patches

variable {j : Nat} {job : PatchJob Patch}

omit [DecidableEq Key] in
theorem getElem?_settled (hjob : s.patches[j]? = some job) (k : Nat) :
    (s.patches.modify j (fun job => { job with inFlight := false }))[k]? =
      if k = j then some { job with inFlight := false }
      else s.patches[k]? := by
  by_cases hk : k = j
  · rw [if_pos hk, hk, List.getElem?_modify_eq, hjob]
    rfl
  · rw [if_neg hk, List.getElem?_modify_ne _ _ (fun hc => hk hc.symm)]

theorem settlePatch_eq (hjob : s.patches[j]? = some job) (accepted : Bool) :
    s.settlePatch S j accepted =
      { s with
        patches := s.patches.modify j (fun job => { job with inFlight := false })
        owners := if accepted then S.upserts.upsert s.owners job.patch
          else s.owners } := by
  unfold settlePatch
  rw [hjob]

theorem settled_settlePatch (hjob : s.patches[j]? = some job)
    (accepted : Bool) (u : Upserter) :
    (s.settlePatch S j accepted).Settled u <->
      s.Settled u ∨ u = Upserter.patch j := by
  rw [settlePatch_eq hjob]
  cases u with
  | save i => exact (or_iff_left (nomatch ·)).symm
  | patch k =>
      show (_[k]?).map PatchJob.inFlight = some false <-> _
      rw [getElem?_settled hjob, Upserter.patch.injEq]
      by_cases hk : k = j
      · rw [if_pos hk]
        exact iff_of_true rfl (Or.inr hk)
      · rw [if_neg hk]
        exact (or_iff_left hk).symm

theorem patchOf_settlePatch (hjob : s.patches[j]? = some job)
    (accepted : Bool) (u : Upserter) :
    (s.settlePatch S j accepted).patchOf u = s.patchOf u := by
  rw [settlePatch_eq hjob]
  cases u with
  | save i => rfl
  | patch k =>
      show (_[k]?).map PatchJob.patch = (s.patches[k]?).map PatchJob.patch
      rw [getElem?_settled hjob]
      by_cases hk : k = j
      · rw [if_pos hk, hk, hjob]
        rfl
      · rw [if_neg hk]

theorem Serial.settlePatch (h : Serial S s order)
    (hjob : s.patches[j]? = some job) (hflight : job.inFlight = true)
    (accepted : Bool) :
    Serial S (s.settlePatch S j accepted)
      (if accepted then order ++ [Upserter.patch j] else order) := by
  have hnew : ¬ s.Settled (Upserter.patch j) := by
    intro hsettled
    rcases Option.map_eq_some_iff.mp hsettled with ⟨other, hother, hdone⟩
    rw [hjob] at hother
    rw [Option.some.inj hother, hdone] at hflight
    cases hflight
  have happlied : forall i, (s.settlePatch S j accepted).Applied i ->
      s.Applied i := by
    rw [settlePatch_eq hjob]
    exact fun i hi => hi
  cases accepted with
  | true =>
      refine h.apply (settled_settlePatch hjob true) hnew
        (patchOf_settlePatch hjob true) ?_ (by rw [settlePatch_eq hjob]; rfl)
        (fun i hi => Or.inl (happlied i hi))
      show (s.patches[j]?).map PatchJob.patch = _
      rw [hjob]
      rfl
  | false =>
      refine h.keep ?_ (fun u _ => patchOf_settlePatch hjob false u)
        (by rw [settlePatch_eq hjob]; rfl) happlied
      exact fun u hu => (settled_settlePatch hjob false u).mpr (Or.inl hu)

end Patches

/-!
A save moves on.
-/

section Saves

omit [DecidableEq Key]

variable {i : Nat} {job : SaveJob Patch Row} {phase : SaveJobPhase}

theorem getElem?_setPhase (hjob : s.saves[i]? = some job) (k : Nat) :
    (s.setPhase i phase).saves[k]? =
      if k = i then some { job with phase := phase } else s.saves[k]? := by
  show (s.saves.modify i _)[k]? = _
  by_cases hk : k = i
  · rw [if_pos hk, hk, List.getElem?_modify_eq, hjob]
    rfl
  · rw [if_neg hk, List.getElem?_modify_ne _ _ (fun hc => hk hc.symm)]

theorem phaseOf_setPhase (hjob : s.saves[i]? = some job) (k : Nat) :
    (s.setPhase i phase).phaseOf k =
      if k = i then some phase else s.phaseOf k := by
  show ((s.setPhase i phase).saves[k]?).map SaveJob.phase = _
  rw [getElem?_setPhase hjob]
  by_cases hk : k = i
  · rw [if_pos hk, if_pos hk]
    rfl
  · rw [if_neg hk, if_neg hk]
    rfl

theorem patchOf_setPhase (hjob : s.saves[i]? = some job) (u : Upserter) :
    (s.setPhase i phase).patchOf u = s.patchOf u := by
  cases u with
  | patch j => rfl
  | save k =>
      show (((s.setPhase i phase).saves[k]?).bind SaveJob.content).map _ =
        ((s.saves[k]?).bind SaveJob.content).map _
      rw [getElem?_setPhase hjob]
      by_cases hk : k = i
      · rw [if_pos hk, hk, hjob]
        rfl
      · rw [if_neg hk]

theorem settled_setPhase (hjob : s.saves[i]? = some job)
    (hphase : phase ≠ SaveJobPhase.nothing ∧
      phase ≠ SaveJobPhase.upserting) (u : Upserter) :
    (s.setPhase i phase).Settled u <-> s.Settled u ∨ u = Upserter.save i := by
  cases u with
  | patch j => exact (or_iff_left (nomatch ·)).symm
  | save k =>
      show (exists phase', (s.setPhase i phase).phaseOf k = some phase' ∧ _) <-> _
      rw [phaseOf_setPhase hjob, Upserter.save.injEq]
      by_cases hk : k = i
      · rw [if_pos hk]
        exact iff_of_true ⟨phase, rfl, hphase⟩ (Or.inr hk)
      · rw [if_neg hk]
        exact (or_iff_left hk).symm

theorem applied_setPhase (hjob : s.saves[i]? = some job) (k : Nat) :
    (s.setPhase i phase).Applied k <->
      if k = i then phase = SaveJobPhase.saving ∨ phase = SaveJobPhase.saved
      else s.Applied k := by
  unfold Applied
  rw [phaseOf_setPhase hjob]
  by_cases hk : k = i
  · rw [if_pos hk, if_pos hk, Option.some.injEq, Option.some.injEq]
  · rw [if_neg hk, if_neg hk]

end Saves

section Answers

variable {i : Nat} {patch : Patch} {row : Row} {phase : SaveJobPhase}

theorem settleUpsert_eq
    (hjob : s.saves[i]? =
      some { content := some (patch, row), phase := phase })
    (accepted : Bool) :
    s.settleUpsert S i accepted =
      if accepted then
        { s.setPhase i SaveJobPhase.saving with
          owners := S.upserts.upsert s.owners patch }
      else s.setPhase i SaveJobPhase.rejected := by
  simp only [settleUpsert, hjob, Option.bind_some]

omit [DecidableEq Key] in
theorem settleSave_eq
    (hjob : s.saves[i]? =
      some { content := some (patch, row), phase := phase })
    (accepted : Bool) :
    s.settleSave i accepted =
      if accepted then
        { s.setPhase i SaveJobPhase.saved with rows := s.rows ++ [(i, row)] }
      else s.setPhase i SaveJobPhase.rejected := by
  simp only [settleSave, hjob, Option.bind_some]

theorem Serial.settleUpsert (h : Serial S s order)
    (hjob : s.saves[i]? = some
      { content := some (patch, row), phase := SaveJobPhase.upserting })
    (accepted : Bool) :
    Serial S (s.settleUpsert S i accepted)
      (if accepted then order ++ [Upserter.save i] else order) := by
  have hphase : s.phaseOf i = some SaveJobPhase.upserting := by
    rw [phaseOf, hjob]
    rfl
  have hnew : ¬ s.Settled (Upserter.save i) := by
    rintro ⟨phase, hi, _, hupserting⟩
    rw [hphase] at hi
    exact hupserting (Option.some.inj hi).symm
  rw [settleUpsert_eq hjob]
  cases accepted with
  | true =>
      refine h.apply (settled_setPhase hjob (by decide)) hnew
        (patchOf_setPhase hjob) ?_ rfl ?_
      · rw [patchOf, hjob]
        rfl
      · intro k hk
        rcases ite_prop_iff_or.mp ((applied_setPhase hjob k).mp hk) with
          ⟨rfl, _⟩ | ⟨_, hold⟩
        · exact Or.inr rfl
        · exact Or.inl hold
  | false =>
      refine h.keep ?_ (fun u _ => patchOf_setPhase hjob u) rfl ?_
      · exact fun u hu => (settled_setPhase hjob (by decide) u).mpr (Or.inl hu)
      · intro k hk
        rcases ite_prop_iff_or.mp ((applied_setPhase hjob k).mp hk) with
          ⟨_, hc⟩ | ⟨_, hold⟩
        · exact hc.elim (nomatch ·) (nomatch ·)
        · exact hold

theorem Serial.settleSave (h : Serial S s order)
    (hjob : s.saves[i]? = some
      { content := some (patch, row), phase := SaveJobPhase.saving })
    (accepted : Bool) : Serial S (s.settleSave i accepted) order := by
  have happlied : s.Applied i := by
    rw [Applied, phaseOf, hjob]
    exact Or.inl rfl
  have hkeep : forall phase, phase ≠ SaveJobPhase.nothing ∧
      phase ≠ SaveJobPhase.upserting ->
      Serial S (s.setPhase i phase) order := by
    intro phase hphase
    refine h.keep ?_ (fun u _ => patchOf_setPhase hjob u) rfl ?_
    · exact fun u hu => (settled_setPhase hjob hphase u).mpr (Or.inl hu)
    · intro k hk
      rcases ite_prop_iff_or.mp ((applied_setPhase hjob k).mp hk) with
        ⟨rfl, _⟩ | ⟨_, hold⟩
      · exact happlied
      · exact hold
  rw [settleSave_eq hjob]
  cases accepted with
  | true =>
      have hsaved := hkeep SaveJobPhase.saved (by decide)
      exact ⟨hsaved.owners, hsaved.once, hsaved.settled, hsaved.applied⟩
  | false => exact hkeep SaveJobPhase.rejected (by decide)

end Answers

/-!
Rows are inserted by their own saves.
-/

section Rows

omit [DecidableEq Key]

variable {i : Nat} {patch : Patch} {row : Row} {old phase : SaveJobPhase}

theorem RowsSaved.fire (h : RowsSaved S s)
    (hfired : S.Fired patch) :
    RowsSaved S { s with patches := s.patches ++ [{ patch := patch }] } := by
  refine ⟨h.waiting, h.rows, h.rows_once, ?_, h.sourced⟩
  intro j job hjob
  rw [getElem?_snoc] at hjob
  rcases ite_eq_iff.mp hjob with ⟨_, hnew⟩ | ⟨_, hold⟩
  · rw [← Option.some.inj hnew]
    exact hfired
  · exact h.fired j job hold

theorem RowsSaved.settled (h : RowsSaved S s) {j : Nat} {job : PatchJob Patch}
    (hjob : s.patches[j]? = some job) :
    RowsSaved S { s with patches := s.patches.modify j (fun job =>
      { job with inFlight := false }) } := by
  refine ⟨h.waiting, h.rows, h.rows_once, ?_, h.sourced⟩
  intro k other hk
  rw [getElem?_settled hjob] at hk
  rcases ite_eq_iff.mp hk with ⟨_, hnew⟩ | ⟨_, hold⟩
  · rw [← Option.some.inj hnew]
    exact h.fired j job hjob
  · exact h.fired k other hold

theorem RowsSaved.save (h : RowsSaved S s) {content : Option (Patch × Row)}
    (hsourced : forall patch row, content = some (patch, row) ->
      S.Saved patch row) :
    RowsSaved S { s with saves := s.saves ++ [SaveJob.start content] } := by
  have hjobs : forall {k : Nat} {job : SaveJob Patch Row},
      (s.saves ++ [SaveJob.start content])[k]? = some job ->
        job = SaveJob.start content ∨ s.saves[k]? = some job := by
    intro k job hjob
    rw [getElem?_snoc] at hjob
    rcases ite_eq_iff.mp hjob with ⟨_, hnew⟩ | ⟨_, hold⟩
    · exact Or.inl (Option.some.inj hnew).symm
    · exact Or.inr hold
  constructor
  · intro k job hjob
    rcases hjobs hjob with rfl | hold
    · rw [start_phase]
      by_cases hcontent : content = none
      · rw [if_pos hcontent]
        exact iff_of_true hcontent rfl
      · rw [if_neg hcontent]
        exact iff_of_false hcontent (nomatch ·)
    · exact h.waiting k job hold
  · intro k row
    rw [h.rows]
    refine exists_congr fun patch => ⟨getElem?_snoc_of_some, fun hjob => ?_⟩
    rcases hjobs hjob with hnew | hold
    · have hphase := congrArg SaveJob.phase hnew
      rw [start_phase] at hphase
      rcases ite_eq_iff.mp hphase.symm with ⟨_, hc⟩ | ⟨_, hc⟩
      · cases hc
      · cases hc
    · exact hold
  · exact h.rows_once
  · exact h.fired
  · intro k job patch row hjob hcontent
    rcases hjobs hjob with rfl | hold
    · exact hsourced patch row hcontent
    · exact h.sourced k job patch row hold hcontent

theorem getElem?_moved
    (hjob : s.saves[i]? = some { content := some (patch, row), phase := old })
    {k : Nat} {job : SaveJob Patch Row}
    (hk : (s.setPhase i phase).saves[k]? = some job) :
    (k = i ∧ job = { content := some (patch, row), phase := phase }) ∨
      (k ≠ i ∧ s.saves[k]? = some job) := by
  rw [getElem?_setPhase hjob] at hk
  rcases ite_eq_iff.mp hk with ⟨hsame, hnew⟩ | ⟨hother, hold⟩
  · exact Or.inl ⟨hsame, (Option.some.inj hnew).symm⟩
  · exact Or.inr ⟨hother, hold⟩

theorem RowsSaved.waiting_setPhase (h : RowsSaved S s)
    (hjob : s.saves[i]? = some { content := some (patch, row), phase := old })
    (hphase : phase ≠ SaveJobPhase.nothing) (k : Nat)
    (job : SaveJob Patch Row)
    (hk : (s.setPhase i phase).saves[k]? = some job) :
    (job.content = none <-> job.phase = SaveJobPhase.nothing) ∧
      forall patch row, job.content = some (patch, row) ->
        S.Saved patch row := by
  rcases getElem?_moved hjob hk with ⟨_, rfl⟩ | ⟨_, hold⟩
  · refine ⟨iff_of_false (nomatch ·) hphase, ?_⟩
    exact fun patch' row' hcontent => h.sourced i _ patch' row' hjob hcontent
  · exact ⟨h.waiting k job hold, fun patch' row' =>
      h.sourced k job patch' row' hold⟩

theorem RowsSaved.move (h : RowsSaved S s)
    (hjob : s.saves[i]? = some { content := some (patch, row), phase := old })
    (hold : old ≠ SaveJobPhase.saved)
    (hphase : phase ≠ SaveJobPhase.nothing ∧ phase ≠ SaveJobPhase.saved) :
    RowsSaved S (s.setPhase i phase) := by
  have hjobs := h.waiting_setPhase hjob hphase.left
  constructor
  · exact fun k job hk => (hjobs k job hk).left
  · intro k saved
    refine (h.rows k saved).trans (exists_congr fun patch' => ?_)
    rw [getElem?_setPhase hjob]
    by_cases hk : k = i
    · rw [if_pos hk, hk, hjob]
      refine iff_of_false ?_ ?_
      · exact fun hc => hold (congrArg SaveJob.phase (Option.some.inj hc))
      · exact fun hc =>
          hphase.right (congrArg SaveJob.phase (Option.some.inj hc))
    · rw [if_neg hk]
  · exact h.rows_once
  · exact h.fired
  · exact fun k job patch' row' hk => (hjobs k job hk).right patch' row'

theorem RowsSaved.insert (h : RowsSaved S s)
    (hjob : s.saves[i]? = some { content := some (patch, row), phase := old })
    (hold : old ≠ SaveJobPhase.saved) :
    RowsSaved S { s.setPhase i SaveJobPhase.saved with
      rows := s.rows ++ [(i, row)] } := by
  have hjobs := @RowsSaved.waiting_setPhase _ _ _ _ _ _ _ _ _ _
    SaveJobPhase.saved h hjob (nomatch ·)
  have hnew : forall saved, (i, saved) ∉ s.rows := by
    intro saved hmem
    rcases (h.rows i saved).mp hmem with ⟨patch', hsaved⟩
    rw [hjob] at hsaved
    exact hold (congrArg SaveJob.phase (Option.some.inj hsaved))
  constructor
  · exact fun k job hk => (hjobs k job hk).left
  · intro k saved
    show (k, saved) ∈ s.rows ++ [(i, row)] <->
      exists patch', (s.setPhase i SaveJobPhase.saved).saves[k]? = _
    rw [getElem?_setPhase hjob, List.mem_append, List.mem_singleton,
      Prod.mk.injEq]
    by_cases hk : k = i
    · rw [if_pos hk, hk, or_iff_right (hnew saved), and_iff_right rfl]
      constructor
      · rintro rfl
        exact ⟨patch, rfl⟩
      · rintro ⟨patch', hsame⟩
        cases hsame
        rfl
    · rw [if_neg hk, or_iff_left (fun hc => hk hc.left)]
      exact h.rows k saved
  · rw [List.map_append, List.map_singleton]
    refine List.nodup_append.mpr ⟨h.rows_once, List.nodup_singleton i, ?_⟩
    rintro k hk v hv rfl
    rw [List.mem_singleton.mp hv] at hk
    rcases List.mem_map.mp hk with ⟨⟨i', saved⟩, hmem, rfl⟩
    exact hnew saved hmem
  · exact h.fired
  · exact fun k job patch' row' hk => (hjobs k job hk).right patch' row'

end Rows

end Steps

/-!
## Runs
-/

section Runs

variable {S : SaveSpec Key Owner Patch Row}
variable {s : SaveStore Key Owner Patch Row} {order : List Upserter}

omit [DecidableEq Key] in
/-- A job that waits for a statement has something to save. -/
theorem RowsSaved.exists_content (h : RowsSaved S s) {i : Nat}
    {phase : SaveJobPhase} (hphase : s.phaseOf i = some phase)
    (hwaiting : phase ≠ SaveJobPhase.nothing) :
    exists patch row, s.saves[i]? =
      some { content := some (patch, row), phase := phase } := by
  rcases Option.map_eq_some_iff.mp hphase with ⟨job, hjob, rfl⟩
  cases hcontent : job.content with
  | none => exact absurd ((h.waiting i job hjob).mp hcontent) hwaiting
  | some pair =>
      refine ⟨pair.1, pair.2, ?_⟩
      rw [hjob]
      show some job = some { content := some pair, phase := job.phase }
      rw [← hcontent]

omit [DecidableEq Key] in
theorem exists_of_any {α : Type} {found : Option α} {p : α -> Bool}
    (h : found.any p = true) : exists a, found = some a ∧ p a = true := by
  cases found with
  | none => cases h
  | some a => exact ⟨a, rfl, h⟩

/-- Whatever the order in which the statements were applied, the tables are
accounted for. -/
structure Accounted (S : SaveSpec Key Owner Patch Row)
    (s : SaveStore Key Owner Patch Row) (order : List Upserter) : Prop where
  rows : RowsSaved S s
  serial : Serial S s order

theorem serial_idle {e : SaveEvent Patch Row} (he : e.applied? = none)
    {order' : List Upserter} (h : Serial S s' order') :
    Serial S s' (order' ++ [e].filterMap SaveEvent.applied?) := by
  rw [List.filterMap_cons_none he, List.filterMap_nil, List.append_nil]
  exact h

theorem serial_snoc {e : SaveEvent Patch Row} {u : Upserter}
    {accepted : Bool} (he : e.applied? = if accepted then some u else none)
    {order' : List Upserter}
    (h : Serial S s' (if accepted then order' ++ [u] else order')) :
    Serial S s' (order' ++ [e].filterMap SaveEvent.applied?) := by
  cases accepted with
  | true =>
      rw [List.filterMap_cons_some he]
      exact h
  | false => exact serial_idle he h

theorem Accounted.step (h : Accounted S s order)
    {e : SaveEvent Patch Row} (henabled : S.Enabled s e) :
    Accounted S (S.store.step s e)
      (order ++ [e].filterMap SaveEvent.applied?) := by
  cases e with
  | patch patch =>
      exact ⟨h.rows.fire henabled, serial_idle rfl (h.serial.patch patch)⟩
  | save content =>
      exact ⟨h.rows.save henabled, serial_idle rfl (h.serial.save content)⟩
  | patchSettled j accepted =>
      rcases exists_of_any henabled with ⟨job, hjob, hflight⟩
      refine ⟨?_, serial_snoc rfl
        (h.serial.settlePatch hjob hflight accepted)⟩
      show RowsSaved S (s.settlePatch S j accepted)
      have hsettled := h.rows.settled hjob
      rw [settlePatch_eq hjob]
      exact ⟨hsettled.waiting, hsettled.rows, hsettled.rows_once,
        hsettled.fired, hsettled.sourced⟩
  | upsertSettled i accepted =>
      rcases h.rows.exists_content henabled (by decide) with
        ⟨patch, row, hjob⟩
      refine ⟨?_, serial_snoc rfl
        (h.serial.settleUpsert hjob accepted)⟩
      · show RowsSaved S (s.settleUpsert S i accepted)
        rw [settleUpsert_eq hjob]
        cases accepted with
        | true =>
            have hmoved : RowsSaved S (s.setPhase i SaveJobPhase.saving) :=
              h.rows.move hjob (by decide) (by decide)
            exact ⟨hmoved.waiting, hmoved.rows, hmoved.rows_once,
              hmoved.fired, hmoved.sourced⟩
        | false => exact h.rows.move hjob (by decide) (by decide)
  | saveSettled i accepted =>
      rcases h.rows.exists_content henabled (by decide) with
        ⟨patch, row, hjob⟩
      refine ⟨?_, serial_idle rfl (h.serial.settleSave hjob accepted)⟩
      show RowsSaved S (s.settleSave i accepted)
      rw [settleSave_eq hjob]
      cases accepted with
      | true => exact h.rows.insert hjob (by decide)
      | false => exact h.rows.move hjob (by decide) (by decide)

/-- In every run of the store the applied statements, in the order in which the
database applied them, account for the tables. -/
theorem accounted {history : List (SaveEvent Patch Row)}
    (h : S.store.Legal history) :
    Accounted S (S.store.stateAfter history)
      (history.filterMap SaveEvent.applied?) := by
  refine EventSystem.invariant ?_ ?_ h
  · refine ⟨⟨?_, ?_, List.nodup_nil, ?_, ?_⟩, rfl, List.nodup_nil, ?_, ?_⟩
    · intro i job hjob
      cases hjob
    · intro i row
      refine iff_of_false List.not_mem_nil ?_
      rintro ⟨patch, hjob⟩
      cases hjob
    · intro j job hjob
      cases hjob
    · intro i job patch row hjob
      cases hjob
    · intro u hu
      cases hu
    · intro i hi
      exact hi.elim (nomatch ·) (nomatch ·)
  · intro history e _ henabled hacc
    rw [EventSystem.stateAfter_snoc, List.filterMap_append]
    exact hacc.step henabled

theorem mem_upsertAll {U : Upserts Key Owner Patch} {patches : List Patch}
    {patch : Patch} (h : patch ∈ patches) :
    U.keyOf patch ∈ U.upsertAll patches := by
  induction patches using List.reverseRecOn with
  | nil => cases h
  | append_singleton patches last ih =>
      have hstep : U.upsertAll (patches ++ [last]) =
          U.upsert (U.upsertAll patches) last := List.foldl_append
      rw [hstep, ← AList.lookup_isSome, Upserts.lookup_upsert]
      by_cases hkey : U.keyOf patch = U.keyOf last
      · rw [if_pos hkey]
        rfl
      · rw [if_neg hkey, AList.lookup_isSome]
        rcases List.mem_append.mp h with hmem | hlast
        · exact ih hmem
        · rw [List.mem_singleton.mp hlast] at hkey
          exact absurd rfl hkey

theorem Accounted.ownerOf_mem (h : Accounted S s order) {i : Nat} {row : Row}
    (hrow : (i, row) ∈ s.rows) : S.ownerOf row ∈ s.owners := by
  rcases (h.rows.rows i row).mp hrow with ⟨patch, hjob⟩
  have happlied : s.Applied i := by
    rw [Applied, phaseOf, hjob]
    exact Or.inr rfl
  have hpatch : patch ∈ order.filterMap s.patchOf := by
    refine List.mem_filterMap.mpr ⟨_, h.serial.applied i happlied, ?_⟩
    rw [patchOf, hjob]
    rfl
  rw [← S.keyOf_saved patch row (h.rows.sourced i _ patch row hjob rfl),
    h.serial.owners]
  exact mem_upsertAll hpatch

end Runs

end SaveStore

end Foundation
end AvtTracker
