import AvtTracker.Foundation.Bytes

/-!
# Terminated runs of a stream

A terminator cuts a stream into runs that do not contain it.  All but the last
run are terminated, and the last one is still open.  This module relates the
runs of a stream to those of the pieces it arrives in.
-/

namespace AvtTracker
namespace Foundation

section Runs

variable {α : Type} [DecidableEq α]

/-- The runs of a stream that end at a terminator. -/
def terminatedRuns (terminator : α) (xs : List α) : List (List α) :=
  (xs.splitOn terminator).dropLast

/-- What follows the last terminator. -/
def openRun (terminator : α) (xs : List α) : List α :=
  (xs.splitOn terminator).getLast (List.splitOn_ne_nil _ _)

theorem splitOn_eq_runs (terminator : α) (xs : List α) :
    xs.splitOn terminator =
      terminatedRuns terminator xs ++ [openRun terminator xs] :=
  (List.dropLast_concat_getLast _).symm

theorem runs_of_splitOn {terminator : α} {xs rest : List α}
    {runs : List (List α)}
    (h : xs.splitOn terminator = runs ++ [rest]) :
    terminatedRuns terminator xs = runs ∧ openRun terminator xs = rest := by
  constructor
  · rw [terminatedRuns, h, List.dropLast_concat]
  · simp only [openRun, h, List.getLast_concat]

theorem runs_of_not_mem {terminator : α} {xs : List α}
    (h : terminator ∉ xs) :
    terminatedRuns terminator xs = [] ∧ openRun terminator xs = xs :=
  runs_of_splitOn (List.splitOn_eq_singleton h)

theorem runs_append_cons {terminator : α} {run : List α}
    (h : terminator ∉ run) (rest : List α) :
    terminatedRuns terminator (run ++ terminator :: rest) =
        run :: terminatedRuns terminator rest ∧
      openRun terminator (run ++ terminator :: rest) =
        openRun terminator rest := by
  apply runs_of_splitOn
  rw [List.splitOn_append_cons_self, List.splitOn_eq_singleton h,
    splitOn_eq_runs terminator rest]
  rfl

/-- Induction on the terminators of a stream. -/
@[elab_as_elim]
theorem runs_induction (terminator : α) {motive : List α -> Prop}
    (hopen : forall xs, terminator ∉ xs -> motive xs)
    (hrun : forall run rest, terminator ∉ run -> motive rest ->
      motive (run ++ terminator :: rest))
    (xs : List α) : motive xs := by
  induction hlen : xs.length using Nat.strongRecOn generalizing xs with
  | ind len ih =>
      by_cases hmem : terminator ∈ xs
      · rcases List.eq_append_cons_of_mem hmem with ⟨run, rest, rfl, hnot⟩
        have hrest : rest.length < len := by
          rw [← hlen, List.length_append, List.length_cons]
          lia
        exact hrun run rest hnot (ih rest.length hrest rest rfl)
      · exact hopen xs hmem

theorem not_mem_openRun (terminator : α) (xs : List α) :
    terminator ∉ openRun terminator xs := by
  induction xs using runs_induction terminator with
  | hopen xs hmem =>
      rw [(runs_of_not_mem hmem).right]
      exact hmem
  | hrun run rest hnot ih =>
      rw [(runs_append_cons hnot rest).right]
      exact ih

theorem not_mem_openRun_append {terminator : α} {ys : List α}
    (h : terminator ∉ ys) (xs : List α) :
    terminator ∉ openRun terminator xs ++ ys := by
  rw [List.mem_append]
  exact fun hmem => hmem.elim (not_mem_openRun terminator xs) h

theorem runs_append (terminator : α) (xs ys : List α) :
    terminatedRuns terminator (xs ++ ys) =
        terminatedRuns terminator xs ++
          terminatedRuns terminator (openRun terminator xs ++ ys) ∧
      openRun terminator (xs ++ ys) =
        openRun terminator (openRun terminator xs ++ ys) := by
  induction xs using runs_induction terminator with
  | hopen xs hmem =>
      rcases runs_of_not_mem hmem with ⟨hruns, hopen⟩
      rw [hruns, hopen]
      exact ⟨rfl, rfl⟩
  | hrun run rest hnot ih =>
      rcases runs_append_cons hnot rest with ⟨hruns, hopen⟩
      rcases runs_append_cons hnot (rest ++ ys) with ⟨hruns', hopen'⟩
      rw [List.append_assoc, List.cons_append, hruns, hopen, hruns', hopen']
      constructor
      · rw [ih.left, List.cons_append]
      · exact ih.right

theorem exists_run_of_openRun (terminator : α) (xs ys : List α) :
    exists run, run ∈ (xs ++ ys).splitOn terminator ∧
      (openRun terminator xs).length ≤ run.length := by
  rcases runs_append terminator xs ys with ⟨hruns, hopen⟩
  rw [splitOn_eq_runs terminator (xs ++ ys), hruns, hopen]
  by_cases hmem : terminator ∈ ys
  · rcases List.eq_append_cons_of_mem hmem with ⟨run, rest, rfl, hrun⟩
    have hjoined := not_mem_openRun_append hrun xs
    rw [← List.append_assoc, (runs_append_cons hjoined rest).left]
    refine ⟨openRun terminator xs ++ run, ?_, ?_⟩
    · simp
    · rw [List.length_append]
      lia
  · have hjoined := not_mem_openRun_append hmem xs
    refine ⟨openRun terminator xs ++ ys, ?_, ?_⟩
    · rw [(runs_of_not_mem hjoined).right]
      simp
    · rw [List.length_append]
      lia

/-!
## Runs in place

A run of a stream begins at its start or right behind a terminator, and ends
right in front of the next one.  These lemmas follow a run through pieces of the
stream by the offset it begins at.
-/

/-- {lit}`run` is terminated in the stream and begins at an offset. -/
def RunAt (terminator : α) (xs : List α) (start : Nat) (run : List α) : Prop :=
  exists before behind, xs = before ++ run ++ terminator :: behind ∧
    before.length = start ∧
    (before = [] ∨ before.getLast? = some terminator) ∧
    terminator ∉ run

omit [DecidableEq α] in
theorem RunAt.mem {terminator : α} {xs run : List α} {start : Nat}
    (h : RunAt terminator xs start run) : terminator ∈ xs := by
  rcases h with ⟨before, behind, rfl, _, _, _⟩
  simp

theorem append_cons_inj {terminator : α} {run run' rest rest' : List α}
    (h : terminator ∉ run) (h' : terminator ∉ run')
    (heq : run ++ terminator :: rest = run' ++ terminator :: rest') :
    run = run' ∧ rest = rest' := by
  have hruns := (runs_append_cons h rest).left
  rw [heq, (runs_append_cons h' rest').left] at hruns
  injection hruns with hrun _
  subst hrun
  have htail := List.append_cancel_left heq
  injection htail with _ hrest
  exact ⟨rfl, hrest⟩

/-- The first run begins at the start, and the later ones are runs of what
follows its terminator. -/
theorem runAt_append_cons_iff {terminator : α} {run rest found : List α}
    {start : Nat} (h : terminator ∉ run) :
    RunAt terminator (run ++ terminator :: rest) start found <->
      (start = 0 ∧ found = run) ∨
        exists later, start = run.length + 1 + later ∧
          RunAt terminator rest later found := by
  constructor
  · rintro ⟨before, behind, heq, hstart, hbegins, hfound⟩
    by_cases hmem : terminator ∈ before
    · rcases List.eq_append_cons_of_mem hmem with ⟨run', more, rfl, hrun'⟩
      rw [List.append_assoc, List.append_assoc, List.cons_append] at heq
      rcases append_cons_inj h hrun' heq with ⟨rfl, hrest⟩
      apply Or.inr
      refine ⟨more.length, ?_, more, behind, ?_, rfl, ?_, hfound⟩
      · rw [← hstart, List.length_append, List.length_cons]
        lia
      · rw [hrest, List.append_assoc]
      · cases more with
        | nil => exact Or.inl rfl
        | cons b more =>
            apply Or.inr
            rcases hbegins with hnil | hlast
            · simp at hnil
            · simpa using hlast
    · have hnil : before = [] := by
        rcases hbegins with hnil | hlast
        · exact hnil
        · exact absurd (List.mem_of_getLast? hlast) hmem
      subst hnil
      apply Or.inl
      rcases append_cons_inj h hfound heq with ⟨hrun, _⟩
      exact ⟨hstart.symm, hrun.symm⟩
  · rintro (⟨rfl, rfl⟩ | ⟨later, rfl, before, behind, rfl, rfl, hbegins, hfound⟩)
    · exact ⟨[], rest, rfl, rfl, Or.inl rfl, h⟩
    · refine ⟨run ++ terminator :: before, behind, ?_, ?_, Or.inr ?_, hfound⟩
      · simp
      · rw [List.length_append, List.length_cons]
        lia
      · cases before with
        | nil => simp
        | cons b before =>
            rcases hbegins with hnil | hlast
            · cases hnil
            · simpa using hlast

theorem mem_terminatedRuns_iff {terminator : α} {xs : List α} :
    forall {run : List α}, run ∈ terminatedRuns terminator xs <->
      exists start, RunAt terminator xs start run := by
  induction xs using runs_induction terminator with
  | hopen xs hmem =>
      intro run
      rw [(runs_of_not_mem hmem).left]
      constructor
      · intro hrun
        cases hrun
      · rintro ⟨_, hat⟩
        exact absurd hat.mem hmem
  | hrun first rest hnot ih =>
      intro run
      rw [(runs_append_cons hnot rest).left, List.mem_cons, ih]
      constructor
      · rintro (rfl | ⟨later, hat⟩)
        · exact ⟨0, (runAt_append_cons_iff hnot).mpr (Or.inl ⟨rfl, rfl⟩)⟩
        · exact ⟨first.length + 1 + later,
            (runAt_append_cons_iff hnot).mpr (Or.inr ⟨later, rfl, hat⟩)⟩
      · rintro ⟨start, hat⟩
        rcases (runAt_append_cons_iff hnot).mp hat with
          ⟨_, hrun⟩ | ⟨later, _, hlater⟩
        · exact Or.inl hrun
        · exact Or.inr ⟨later, hlater⟩

theorem openRun_append_of_mem {terminator : α} {ys : List α}
    (h : terminator ∈ ys) (xs : List α) :
    openRun terminator (xs ++ ys) = openRun terminator ys := by
  rcases List.eq_append_cons_of_mem h with ⟨run, rest, rfl, hrun⟩
  have hjoined := not_mem_openRun_append hrun xs
  rw [(runs_append terminator xs _).right, ← List.append_assoc,
    (runs_append_cons hjoined rest).right, (runs_append_cons hrun rest).right]

theorem openRun_append_of_not_mem {terminator : α} {ys : List α}
    (h : terminator ∉ ys) (xs : List α) :
    openRun terminator (xs ++ ys) = openRun terminator xs ++ ys := by
  rw [(runs_append terminator xs ys).right,
    (runs_of_not_mem (not_mem_openRun_append h xs)).right]

theorem openRun_isSuffix_append (terminator : α) (xs ys : List α) :
    openRun terminator ys <:+ openRun terminator (xs ++ ys) := by
  by_cases h : terminator ∈ ys
  · exists []
    exact (openRun_append_of_mem h xs).symm
  · exists openRun terminator xs
    rw [openRun_append_of_not_mem h, (runs_of_not_mem h).right]

theorem openRun_isSuffix (terminator : α) (xs : List α) :
    openRun terminator xs <:+ xs := by
  induction xs using runs_induction terminator with
  | hopen xs hmem =>
      exists []
      exact (runs_of_not_mem hmem).right
  | hrun run rest hnot ih =>
      rw [(runs_append_cons hnot rest).right]
      exact (ih.trans (List.suffix_cons _ _)).trans (List.suffix_append _ _)

theorem openRun_nil (terminator : α) : openRun terminator [] = [] :=
  (runs_of_not_mem List.not_mem_nil).right

theorem openRun_eq_nil_iff {terminator : α} {xs : List α} :
    openRun terminator xs = [] <->
      xs = [] ∨ xs.getLast? = some terminator := by
  rcases List.eq_nil_or_concat xs with rfl | ⟨front, b, rfl⟩
  · simp [openRun_nil]
  · rw [List.concat_eq_append]
    by_cases hb : b = terminator
    · subst hb
      have hclosed := (runs_append_cons (List.not_mem_nil : b ∉ []) []).right
      rw [openRun_append_of_mem List.mem_cons_self]
      simpa [openRun_nil] using hclosed
    · have hnot : terminator ∉ [b] :=
        fun hmem => hb (List.mem_singleton.mp hmem).symm
      rw [openRun_append_of_not_mem hnot]
      simp [hb]

/-- A run of the last piece is one of the stream, unless it is the first one and
the pieces before leave a run open. -/
theorem RunAt.append_left {terminator : α} {xs ys run : List α} {start : Nat}
    (h : RunAt terminator ys start run)
    (hbegins : start = 0 -> openRun terminator xs = []) :
    RunAt terminator (xs ++ ys) (xs.length + start) run := by
  rcases h with ⟨before, behind, rfl, rfl, hbefore, hrun⟩
  refine ⟨xs ++ before, behind, ?_, List.length_append, ?_, hrun⟩
  · simp
  · apply openRun_eq_nil_iff.mp
    rcases hbefore with rfl | hlast
    · rw [List.append_nil]
      exact hbegins rfl
    · rw [openRun_append_of_mem (List.mem_of_getLast? hlast)]
      exact openRun_eq_nil_iff.mpr (Or.inr hlast)

theorem RunAt.openRun_eq_nil {terminator : α} {xs ys run : List α}
    (h : RunAt terminator (xs ++ ys) xs.length run) :
    openRun terminator xs = [] := by
  rcases h with ⟨before, behind, heq, hlen, hbegins, _⟩
  rw [List.append_assoc] at heq
  rcases List.append_inj heq hlen.symm with ⟨rfl, _⟩
  exact openRun_eq_nil_iff.mpr hbegins

/-- A run that begins behind an open one begins behind a terminator of its
own. -/
theorem RunAt.exists_terminator {terminator : α} {xs ys run : List α}
    {start : Nat} (h : RunAt terminator (xs ++ ys) start run)
    (hopen : openRun terminator xs ≠ []) (hle : xs.length ≤ start) :
    exists i, xs.length ≤ i ∧ i < start ∧ (xs ++ ys)[i]? = some terminator := by
  rcases h with ⟨before, behind, heq, rfl, hbegins, _⟩
  have hne : before ≠ xs := by
    intro hxs
    rw [hxs] at hbegins
    exact hopen (openRun_eq_nil_iff.mpr hbegins)
  rw [List.append_assoc] at heq
  have hbefore : before <+: xs ++ ys := ⟨_, heq.symm⟩
  have hxs : xs <+: before :=
    List.prefix_of_prefix_length_le (List.prefix_append xs ys) hbefore hle
  have hlt : xs.length < before.length := by
    apply Nat.lt_of_le_of_ne hle
    intro hlen
    exact hne (hxs.eq_of_length hlen).symm
  have hlast : before.getLast? = some terminator := by
    rcases hbegins with rfl | hlast
    · exact absurd hlt (Nat.not_lt_zero _)
    · exact hlast
  refine ⟨before.length - 1, by lia, by lia, ?_⟩
  rw [heq, List.getElem?_append_left (by lia), ← List.getLast?_eq_getElem?]
  exact hlast

end Runs

end Foundation
end AvtTracker
