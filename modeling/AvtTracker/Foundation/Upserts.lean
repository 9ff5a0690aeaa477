import Mathlib.Data.List.AList
import Mathlib.Data.List.Infix

/-!
# Partial upserts

A table whose rows are only written by upserts, each of which creates the row of
its key or patches some columns of it.  A column that no patch clears holds the
last value written to it.
-/

namespace AvtTracker
namespace Foundation

/-!
## The last value written
-/

variable {α β : Type}

/-- The last value in a sequence of writes, some of which write nothing. -/
def lastSome (writes : List (Option α)) : Option α :=
  writes.foldl (fun value write => write.or value) none

theorem lastSome_snoc (writes : List (Option α)) (write : Option α) :
    lastSome (writes ++ [write]) = write.or (lastSome writes) :=
  List.foldl_append

theorem lastSome_append {later : List (Option α)}
    (h : forall write, write ∈ later -> write = none)
    (earlier : List (Option α)) :
    lastSome (earlier ++ later) = lastSome earlier := by
  induction later using List.reverseRecOn with
  | nil => rw [List.append_nil]
  | append_singleton later write ih =>
      rw [← List.append_assoc, lastSome_snoc,
        h write (List.mem_append_right _ List.mem_cons_self), Option.none_or]
      exact ih (fun w hw => h w (List.mem_append_left _ hw))

theorem lastSome_of_last {later : List (Option α)}
    (h : forall write, write ∈ later -> write = none)
    (earlier : List (Option α)) (a : α) :
    lastSome (earlier ++ some a :: later) = some a := by
  have hsplit : earlier ++ some a :: later = (earlier ++ [some a]) ++ later := by
    simp
  rw [hsplit, lastSome_append h, lastSome_snoc]
  rfl

theorem lastSome_filterMap {ω : Type} (f : ω -> Option β)
    (write : β -> Option α) (writers : List ω) :
    lastSome ((writers.filterMap f).map write) =
      lastSome (writers.map (fun w => (f w).bind write)) := by
  induction writers using List.reverseRecOn with
  | nil => rfl
  | append_singleton writers w ih =>
      rw [List.map_append, List.map_singleton, lastSome_snoc, ← ih,
        List.filterMap_append, List.map_append]
      cases hw : f w with
      | none =>
          have hnone : [w].filterMap f = [] := by simp [hw]
          rw [hnone, List.map_nil, List.append_nil]
          rfl
      | some b =>
          have hsome : [w].filterMap f = [b] := by simp [hw]
          rw [hsome, List.map_singleton, lastSome_snoc]
          rfl

/-!
## Tables
-/

/-- Rows under keys, and patches that say which row they are for. -/
structure Upserts (Key Row Patch : Type) where
  keyOf : Patch -> Key
  create : Key -> Row
  patched : Row -> Patch -> Row

namespace Upserts

variable {Key Row Patch : Type} [DecidableEq Key] (U : Upserts Key Row Patch)

def upsert (table : AList (fun _ : Key => Row)) (patch : Patch) :
    AList (fun _ : Key => Row) :=
  let row := (table.lookup (U.keyOf patch)).getD (U.create (U.keyOf patch))
  table.insert (U.keyOf patch) (U.patched row patch)

def upsertAll (patches : List Patch) : AList (fun _ : Key => Row) :=
  patches.foldl U.upsert ∅

variable {U}

theorem lookup_upsert (table : AList (fun _ : Key => Row)) (patch : Patch)
    (key : Key) :
    (U.upsert table patch).lookup key =
      if key = U.keyOf patch then
        some (U.patched ((table.lookup key).getD (U.create key)) patch)
      else table.lookup key := by
  unfold upsert
  by_cases h : key = U.keyOf patch
  · rw [if_pos h, h]
    exact AList.lookup_insert _
  · rw [if_neg h]
    exact AList.lookup_insert_ne h

theorem filter_keyed_bind (patch : Patch) (key : Key)
    (write : Patch -> Option α) :
    ((some patch).filter (fun p => decide (U.keyOf p = key))).bind write =
      if U.keyOf patch = key then write patch else none := by
  by_cases h : U.keyOf patch = key
  · simp [Option.filter, h]
  · simp [Option.filter, h]

/-- A column that patches only overwrite holds the last value any of them
wrote. -/
theorem column_upsertAll {column : Row -> Option α} {write : Patch -> Option α}
    (hcreate : forall key, column (U.create key) = none)
    (hpatched : forall row patch,
      column (U.patched row patch) = (write patch).or (column row))
    (patches : List Patch) (key : Key) :
    ((U.upsertAll patches).lookup key).bind column =
      lastSome ((patches.filter (fun patch => U.keyOf patch = key)).map
        write) := by
  induction patches using List.reverseRecOn with
  | nil => rfl
  | append_singleton patches patch ih =>
      have hstep : U.upsertAll (patches ++ [patch]) =
          U.upsert (U.upsertAll patches) patch := List.foldl_append
      rw [hstep, lookup_upsert, List.filter_append, List.map_append]
      by_cases h : key = U.keyOf patch
      · have hself : [patch].filter (fun patch => U.keyOf patch = key) =
            [patch] := by simp [h]
        rw [if_pos h, hself, List.map_singleton, lastSome_snoc, ← ih]
        show column _ = _
        rw [hpatched]
        cases (U.upsertAll patches).lookup key with
        | none => exact congrArg _ (hcreate key)
        | some row => rfl
      · have hother : [patch].filter (fun patch => U.keyOf patch = key) =
            [] := by simp [Ne.symm h]
        rw [if_neg h, hother, List.map_nil, List.append_nil]
        exact ih

theorem key_upsertAll {name : Row -> Key}
    (hcreate : forall key, name (U.create key) = key)
    (hpatched : forall row patch, name (U.patched row patch) = name row)
    (patches : List Patch) :
    forall {key : Key} {row : Row},
      (U.upsertAll patches).lookup key = some row -> name row = key := by
  induction patches using List.reverseRecOn with
  | nil =>
      intro key row h
      cases h
  | append_singleton patches patch ih =>
      intro key row h
      have hstep : U.upsertAll (patches ++ [patch]) =
          U.upsert (U.upsertAll patches) patch := List.foldl_append
      rw [hstep, lookup_upsert] at h
      rcases ite_eq_iff.mp h with ⟨_, h⟩ | ⟨_, h⟩
      · rw [← Option.some.inj h, hpatched]
        cases hrow : (U.upsertAll patches).lookup key with
        | none => exact hcreate key
        | some before => exact ih hrow
      · exact ih h

end Upserts

end Foundation
end AvtTracker
