import Mathlib.Data.List.Sort

/-!
# The first entries in order of a key

A database that is asked for a limited number of rows in ascending order of a
column answers with the front of some sorted arrangement of the rows: rows with
equal keys come in any order.
-/

namespace AvtTracker
namespace Foundation

variable {α κ : Type} [LinearOrder κ]

/-- A possible answer to the query for the first {lit}`limit` entries. -/
def Selects (key : α -> κ) (limit : Nat) (entries picked : List α) : Prop :=
  exists sorted : List α, sorted.Perm entries ∧
    sorted.Pairwise (fun a b => key a ≤ key b) ∧ picked = sorted.take limit

theorem exists_selects (key : α -> κ) (limit : Nat) (entries : List α) :
    exists picked, Selects key limit entries picked := by
  let before : α -> α -> Prop := fun a b => key a ≤ key b
  have : Std.Total before := ⟨fun a b => le_total (key a) (key b)⟩
  have : IsTrans α before := ⟨fun a b c => le_trans⟩
  exact ⟨_, entries.insertionSort before, List.perm_insertionSort before _,
    List.pairwise_insertionSort before _, rfl⟩

namespace Selects

variable {key : α -> κ} {limit : Nat} {entries picked : List α}

theorem mem (h : Selects key limit entries picked) {a : α}
    (ha : a ∈ picked) : a ∈ entries := by
  rcases h with ⟨sorted, hperm, _, hpicked⟩
  rw [hpicked] at ha
  exact hperm.mem_iff.mp (List.mem_of_mem_take ha)

theorem perm_of_length_le (h : Selects key limit entries picked)
    (hfits : entries.length ≤ limit) : picked.Perm entries := by
  rcases h with ⟨sorted, hperm, _, hpicked⟩
  rw [← hperm.length_eq] at hfits
  rw [hpicked, List.take_of_length_le hfits]
  exact hperm

theorem length_eq (h : Selects key limit entries picked)
    (hmore : limit ≤ entries.length) : picked.length = limit := by
  rcases h with ⟨sorted, hperm, _, hpicked⟩
  rw [hpicked, List.length_take, hperm.length_eq]
  exact Nat.min_eq_left hmore

theorem key_le (h : Selects key limit entries picked) {a b : α}
    (ha : a ∈ picked) (hb : b ∈ entries) (hleft : b ∉ picked) :
    key a ≤ key b := by
  rcases h with ⟨sorted, hperm, hsorted, hpicked⟩
  rw [← List.take_append_drop limit sorted, ← hpicked,
    List.pairwise_append] at hsorted
  refine hsorted.right.right a ha b ?_
  rw [← hperm.mem_iff, ← List.take_append_drop limit sorted, ← hpicked] at hb
  exact (List.mem_append.mp hb).resolve_left hleft

theorem length_le (h : Selects key limit entries picked) :
    picked.length ≤ limit := by
  rcases h with ⟨sorted, _, _, hpicked⟩
  rw [hpicked]
  exact List.length_take_le limit sorted

theorem pairwise (h : Selects key limit entries picked) :
    picked.Pairwise (fun a b => key a ≤ key b) := by
  rcases h with ⟨sorted, _, hsorted, hpicked⟩
  rw [hpicked]
  exact hsorted.sublist (List.take_sublist limit sorted)

theorem nodup_map {β : Type} (h : Selects key limit entries picked)
    {name : α -> β} (hnames : (entries.map name).Nodup) :
    (picked.map name).Nodup := by
  rcases h with ⟨sorted, hperm, _, hpicked⟩
  rw [hpicked]
  exact ((hperm.map name).nodup_iff.mpr hnames).sublist
    ((List.take_sublist limit sorted).map name)

/-- An entry is left out only if others that do not come after it fill the
limit. -/
theorem complete (h : Selects key limit entries picked) {b : α}
    (hb : b ∈ entries) :
    b ∈ picked ∨
      picked.length = limit ∧ forall a, a ∈ picked -> key a ≤ key b := by
  by_cases hpicked : b ∈ picked
  · exact Or.inl hpicked
  · have hfull : limit ≤ entries.length := by
      by_contra hfits
      have hall := h.perm_of_length_le (Nat.le_of_lt (Nat.not_le.mp hfits))
      exact hpicked (hall.mem_iff.mpr hb)
    exact Or.inr ⟨h.length_eq hfull, fun a ha => h.key_le ha hb hpicked⟩

end Selects

end Foundation
end AvtTracker
