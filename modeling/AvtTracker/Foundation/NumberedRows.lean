import Mathlib.Data.List.Nodup

/-!
# Rows by the numbers of their jobs

Items have a job each, by their places in a list, and a job that succeeds saves
the row of its item under its number.  Whatever order the rows were saved in, they
are those of the items whose jobs have succeeded.
-/

namespace AvtTracker
namespace Foundation

section Rows

variable {α τ ρ : Type}

/-- The rows of the items whose jobs have succeeded. -/
def savedRows (saved : τ -> Prop) [DecidablePred saved] (rowOf : α -> ρ)
    (items : List α) (jobs : List τ) : List ρ :=
  ((items.zip jobs).filter (fun placed => decide (saved placed.2))).map
    (fun placed => rowOf placed.1)

variable {saved : τ -> Prop} [DecidablePred saved] {rowOf : α -> ρ}
variable {items : List α} {jobs : List τ}

theorem savedRows_of_all (hlength : items.length = jobs.length)
    (h : forall job, job ∈ jobs -> saved job) :
    savedRows saved rowOf items jobs = items.map rowOf := by
  have hall : forall placed, placed ∈ items.zip jobs ->
      decide (saved placed.2) = true := by
    intro placed hplaced
    exact decide_eq_true (h placed.2 (List.of_mem_zip hplaced).right)
  unfold savedRows
  calc
    _ = (items.zip jobs).map (fun placed => rowOf placed.1) := by
      rw [List.filter_eq_self.mpr hall]
    _ = ((items.zip jobs).map Prod.fst).map rowOf := List.map_map.symm
    _ = items.map rowOf := by
      rw [List.map_fst_zip (Nat.le_of_eq hlength)]

/-- The rows of `savedRows`, each with the number of its job. -/
def numberedRows (saved : τ -> Prop) [DecidablePred saved] (rowOf : α -> ρ)
    (items : List α) (jobs : List τ) : List (Nat × ρ) :=
  ((items.zip jobs).zipIdx.filter (fun numbered =>
    decide (saved numbered.1.2))).map
      (fun numbered => (numbered.2, rowOf numbered.1.1))

theorem numberedRows_map_snd :
    (numberedRows saved rowOf items jobs).map Prod.snd =
      savedRows saved rowOf items jobs := by
  have hplaced : ((items.zip jobs).zipIdx.filter (fun numbered =>
      decide (saved numbered.1.2))).map Prod.fst =
        (items.zip jobs).filter (fun placed => decide (saved placed.2)) := by
    calc
      _ = ((items.zip jobs).zipIdx.map Prod.fst).filter (fun placed =>
          decide (saved placed.2)) := List.filter_map.symm
      _ = _ := by rw [List.zipIdx_map_fst]
  unfold savedRows numberedRows
  rw [← hplaced, List.map_map, List.map_map]
  rfl

/-- No number stands in two rows. -/
theorem numberedRows_map_fst_nodup :
    ((numberedRows saved rowOf items jobs).map Prod.fst).Nodup := by
  have hnumbers : ((items.zip jobs).zipIdx.map Prod.snd).Nodup := by
    rw [List.zipIdx_map_snd]
    exact List.nodup_range'
  have hkept : (((items.zip jobs).zipIdx.filter (fun numbered =>
      decide (saved numbered.1.2))).map Prod.snd).Nodup :=
    hnumbers.sublist (List.filter_sublist.map Prod.snd)
  unfold numberedRows
  rw [List.map_map]
  exact hkept

theorem mem_numberedRows {i : Nat} {row : ρ} :
    (i, row) ∈ numberedRows saved rowOf items jobs <-> exists item job,
      items[i]? = some item ∧ jobs[i]? = some job ∧ saved job ∧
        row = rowOf item := by
  unfold numberedRows
  rw [List.mem_map]
  constructor
  · rintro ⟨⟨⟨item, job⟩, j⟩, hkept, hpair⟩
    cases hpair
    rcases List.mem_filter.mp hkept with ⟨hplace, hsaved⟩
    rcases List.getElem?_zip_eq_some.mp
      (List.mem_zipIdx_iff_getElem?.mp hplace) with ⟨hitem, hjob⟩
    exact ⟨item, job, hitem, hjob, of_decide_eq_true hsaved, rfl⟩
  · rintro ⟨item, job, hitem, hjob, hsaved, rfl⟩
    refine ⟨((item, job), i), List.mem_filter.mpr ⟨?_, ?_⟩, rfl⟩
    · exact List.mem_zipIdx_iff_getElem?.mpr
        (List.getElem?_zip_eq_some.mpr ⟨hitem, hjob⟩)
    · exact decide_eq_true hsaved

theorem savedRows_perm {rows : List (Nat × ρ)}
    (hkeys : (rows.map Prod.fst).Nodup)
    (h : forall i row, (i, row) ∈ rows <-> exists item job,
      items[i]? = some item ∧ jobs[i]? = some job ∧ saved job ∧
        row = rowOf item) :
    (rows.map Prod.snd).Perm (savedRows saved rowOf items jobs) := by
  have hperm : rows.Perm (numberedRows saved rowOf items jobs) := by
    apply (List.perm_ext_iff_of_nodup (List.Nodup.of_map _ hkeys)
      (List.Nodup.of_map _ numberedRows_map_fst_nodup)).mpr
    rintro ⟨i, row⟩
    exact (h i row).trans mem_numberedRows.symm
  rw [← numberedRows_map_snd]
  exact hperm.map Prod.snd

end Rows

end Foundation
end AvtTracker
