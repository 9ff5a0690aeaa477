import Mathlib.Tactic.Common

/-!
# Patterns with capture groups

A backtracking matcher tries the ways in which a pattern can match the front of
a text in order of preference: greedy quantifiers prefer to take more, and the
first alternative is preferred to the second.  Anchored at both ends, a pattern
matches a text if one of these ways uses it up, and the captures are those of the
first one that does.

The matches of a pattern are described without the matcher's order by
{lit}`Derives`.  If a text is derived with one list of captures only, the matcher
finds exactly these.
-/

namespace AvtTracker
namespace Foundation

/-- Quantifiers with a count or a plus stand behind classes of symbols. -/
inductive Pattern (α : Type) where
  | literal (text : List α)
  | times (count : Nat) (p : α -> Bool)
  | many1 (p : α -> Bool)
  | optional (body : Pattern α)
  | either (first second : Pattern α)
  | seq (first second : Pattern α)
  | group (index : Nat) (body : Pattern α)

/-- The text of every group that took part. -/
abbrev Captures (α : Type) : Type := List (Nat × List α)

/-- One way to match the front of a text. -/
structure Attempt (α : Type) where
  captures : Captures α
  rest : List α

namespace Pattern

variable {α : Type} [DecidableEq α]

/-- All ways to match the front of a text, in order of preference. -/
def run : Pattern α -> List α -> List (Attempt α)
  | literal text, input =>
      if text.isPrefixOf input then [⟨[], input.drop text.length⟩] else []
  | times count p, input =>
      if (input.take count).length = count ∧ (input.take count).all p then
        [⟨[], input.drop count⟩]
      else []
  | many1 p, input =>
      let longest := (input.takeWhile p).length
      (List.range longest).map (fun shorter =>
        ⟨[], input.drop (longest - shorter)⟩)
  | optional body, input =>
      (body.run input).filter (fun a => a.rest.length < input.length) ++
        [⟨[], input⟩]
  | either first second, input => first.run input ++ second.run input
  | seq first second, input =>
      (first.run input).flatMap (fun a =>
        (second.run a.rest).map (fun b =>
          ⟨a.captures ++ b.captures, b.rest⟩))
  | group index body, input =>
      (body.run input).map (fun a =>
        let matched := input.take (input.length - a.rest.length)
        ⟨(index, matched) :: a.captures, a.rest⟩)

/-- {lit}`exec` of a pattern anchored at both ends. -/
def exec (r : Pattern α) (input : List α) : Option (Captures α) :=
  ((r.run input).find? (fun a => a.rest.isEmpty)).map Attempt.captures

/-- A text matches a pattern with the given captures. -/
def Derives : Pattern α -> List α -> Captures α -> Prop
  | literal text, xs, captures => xs = text ∧ captures = []
  | times count p, xs, captures =>
      xs.length = count ∧ xs.all p = true ∧ captures = []
  | many1 p, xs, captures => xs ≠ [] ∧ xs.all p = true ∧ captures = []
  | optional body, xs, captures =>
      (xs ≠ [] ∧ body.Derives xs captures) ∨ (xs = [] ∧ captures = [])
  | either first second, xs, captures =>
      first.Derives xs captures ∨ second.Derives xs captures
  | seq first second, xs, captures =>
      exists front back taken more, xs = front ++ back ∧
        captures = taken ++ more ∧ first.Derives front taken ∧
          second.Derives back more
  | group index body, xs, captures =>
      exists inner, captures = (index, xs) :: inner ∧ body.Derives xs inner

section Derivations

variable {xs : List α} {captures : Captures α} {r : Pattern α}

omit [DecidableEq α] in
theorem derives_literal_seq {text : List α} :
    (seq (literal text) r).Derives xs captures <->
      exists back, xs = text ++ back ∧ r.Derives back captures := by
  constructor
  · rintro ⟨_, back, _, more, hxs, hcaptures, ⟨rfl, rfl⟩, hback⟩
    rw [hcaptures]
    exact ⟨back, hxs, hback⟩
  · rintro ⟨back, hxs, hback⟩
    exact ⟨text, back, [], captures, hxs, rfl, ⟨rfl, rfl⟩, hback⟩

omit [DecidableEq α] in
theorem derives_class_group_seq {index : Nat} {body : Pattern α}
    {Valid : List α -> Prop}
    (hbody : forall front inner,
      body.Derives front inner <-> Valid front ∧ inner = []) :
    (seq (group index body) r).Derives xs captures <->
      exists front back more, xs = front ++ back ∧
        captures = (index, front) :: more ∧ Valid front ∧
          r.Derives back more := by
  constructor
  · rintro ⟨front, back, _, more, hxs, hcaptures, ⟨inner, rfl, hfront⟩, hback⟩
    rcases (hbody front inner).mp hfront with ⟨hvalid, rfl⟩
    exact ⟨front, back, more, hxs, hcaptures, hvalid, hback⟩
  · rintro ⟨front, back, more, hxs, hcaptures, hvalid, hback⟩
    exact ⟨front, back, [(index, front)], more, hxs, hcaptures,
      ⟨[], rfl, (hbody front []).mpr ⟨hvalid, rfl⟩⟩, hback⟩

omit [DecidableEq α] in
theorem derives_many1 {p : α -> Bool} :
    (many1 p).Derives xs captures <->
      (xs ≠ [] ∧ xs.all p = true) ∧ captures = [] :=
  and_assoc.symm

end Derivations

/-!
## What the matcher tries
-/

/-- An attempt matches some front of the input and leaves the rest. -/
def Splits (r : Pattern α) (input : List α) (a : Attempt α) : Prop :=
  exists front, input = front ++ a.rest ∧ r.Derives front a.captures

theorem mem_run_literal {text input : List α} {a : Attempt α} :
    a ∈ (literal text).run input <-> (literal text).Splits input a := by
  constructor
  · intro h
    simp only [run] at h
    split at h
    · next hfront =>
      rcases List.isPrefixOf_iff_prefix.mp hfront with ⟨rest, rfl⟩
      rw [List.mem_singleton.mp h, List.drop_left]
      exact ⟨text, rfl, rfl, rfl⟩
    · cases h
  · rintro ⟨front, hinput, hfront, hcaptures⟩
    rw [hfront] at hinput
    have hmatch : text.isPrefixOf input = true := by
      rw [List.isPrefixOf_iff_prefix, hinput]
      exact List.prefix_append _ _
    rw [run, if_pos hmatch, List.mem_singleton, hinput, List.drop_left,
      ← hcaptures]

theorem mem_run_times {count : Nat} {p : α -> Bool} {input : List α}
    {a : Attempt α} :
    a ∈ (times count p).run input <-> (times count p).Splits input a := by
  constructor
  · intro h
    simp only [run] at h
    split at h
    · next hfront =>
      rw [List.mem_singleton.mp h]
      exact ⟨input.take count, (List.take_append_drop _ _).symm, hfront.left,
        hfront.right, rfl⟩
    · cases h
  · rintro ⟨front, hinput, hlength, hall, hcaptures⟩
    have htake : input.take count = front := by
      rw [hinput, ← hlength, List.take_left]
    have hdrop : input.drop count = a.rest := by
      rw [hinput, ← hlength, List.drop_left]
    rw [run, htake, if_pos ⟨hlength, hall⟩, List.mem_singleton, hdrop,
      ← hcaptures]

omit [DecidableEq α] in
theorem takeWhile_append_drop (p : α -> Bool) (input : List α) {n : Nat}
    (h : n ≤ (input.takeWhile p).length) :
    (input.take n).all p = true ∧ (input.take n).length = n := by
  have hprefix := List.takeWhile_prefix (l := input) p
  have htake : input.take n = (input.takeWhile p).take n := by
    rcases hprefix with ⟨rest, hrest⟩
    conv_lhs => rw [← hrest]
    exact List.take_append_of_le_length h
  constructor
  · rw [htake, List.all_eq_true]
    intro x hx
    exact List.all_eq_true.mp List.all_takeWhile x (List.mem_of_mem_take hx)
  · rw [htake, List.length_take, Nat.min_eq_left h]

omit [DecidableEq α] in
theorem length_le_takeWhile {p : α -> Bool} {front : List α}
    (h : front.all p = true) (rest : List α) :
    front.length ≤ ((front ++ rest).takeWhile p).length := by
  rw [List.takeWhile_append_of_pos (List.all_eq_true.mp h), List.length_append]
  exact Nat.le_add_right _ _

theorem mem_run_many1 {p : α -> Bool} {input : List α} {a : Attempt α} :
    a ∈ (many1 p).run input <-> (many1 p).Splits input a := by
  constructor
  · intro h
    rcases List.mem_map.mp h with ⟨shorter, hmem, rfl⟩
    have hlt := List.mem_range.mp hmem
    rcases takeWhile_append_drop p input
      (Nat.sub_le (input.takeWhile p).length shorter) with ⟨hall, hlength⟩
    refine ⟨_, (List.take_append_drop _ _).symm, ?_, hall, rfl⟩
    intro hnil
    rw [hnil, List.length_nil] at hlength
    lia
  · rintro ⟨front, hinput, hne, hall, hcaptures⟩
    have hle := length_le_takeWhile hall a.rest
    rw [← hinput] at hle
    have hpos := List.length_pos_iff.mpr hne
    refine List.mem_map.mpr
      ⟨(input.takeWhile p).length - front.length, ?_, ?_⟩
    · rw [List.mem_range]
      lia
    · have hdrop : input.drop front.length = a.rest := by
        rw [hinput, List.drop_left]
      rw [Nat.sub_sub_self hle, hdrop, ← hcaptures]

theorem mem_run_optional {body : Pattern α}
    (hbody : forall {input : List α} {a : Attempt α},
      a ∈ body.run input <-> body.Splits input a)
    {input : List α} {a : Attempt α} :
    a ∈ (optional body).run input <-> (optional body).Splits input a := by
  rw [run, List.mem_append, List.mem_filter, List.mem_singleton, hbody,
    decide_eq_true_eq]
  constructor
  · rintro (⟨⟨front, hinput, hfront⟩, hshorter⟩ | rfl)
    · refine ⟨front, hinput, Or.inl ⟨?_, hfront⟩⟩
      intro hnil
      rw [hinput, hnil] at hshorter
      exact absurd hshorter (Nat.lt_irrefl _)
    · exact ⟨[], rfl, Or.inr ⟨rfl, rfl⟩⟩
  · rintro ⟨front, hinput, ⟨hne, hfront⟩ | ⟨hnil, hcaptures⟩⟩
    · refine Or.inl ⟨⟨front, hinput, hfront⟩, ?_⟩
      have hpos := List.length_pos_iff.mpr hne
      rw [hinput, List.length_append]
      lia
    · right
      rw [hinput, hnil, ← hcaptures]
      rfl

theorem mem_run_either {first second : Pattern α}
    (hfirst : forall {input : List α} {a : Attempt α},
      a ∈ first.run input <-> first.Splits input a)
    (hsecond : forall {input : List α} {a : Attempt α},
      a ∈ second.run input <-> second.Splits input a)
    {input : List α} {a : Attempt α} :
    a ∈ (either first second).run input <->
      (either first second).Splits input a := by
  rw [run, List.mem_append, hfirst, hsecond]
  constructor
  · rintro (⟨front, hinput, hfront⟩ | ⟨front, hinput, hfront⟩)
    · exact ⟨front, hinput, Or.inl hfront⟩
    · exact ⟨front, hinput, Or.inr hfront⟩
  · rintro ⟨front, hinput, hfront | hfront⟩
    · exact Or.inl ⟨front, hinput, hfront⟩
    · exact Or.inr ⟨front, hinput, hfront⟩

theorem mem_run_seq {first second : Pattern α}
    (hfirst : forall {input : List α} {a : Attempt α},
      a ∈ first.run input <-> first.Splits input a)
    (hsecond : forall {input : List α} {a : Attempt α},
      a ∈ second.run input <-> second.Splits input a)
    {input : List α} {a : Attempt α} :
    a ∈ (seq first second).run input <-> (seq first second).Splits input a := by
  rw [run, List.mem_flatMap]
  constructor
  · rintro ⟨b, hb, ha⟩
    rcases List.mem_map.mp ha with ⟨c, hc, rfl⟩
    rcases hfirst.mp hb with ⟨front, hinput, hfront⟩
    rcases hsecond.mp hc with ⟨back, hrest, hback⟩
    refine ⟨front ++ back, ?_, front, back, b.captures, c.captures, rfl,
      rfl, hfront, hback⟩
    rw [hinput, hrest, List.append_assoc]
  · rintro ⟨_, hinput, front, back, taken, more, rfl, hcaptures, hfront,
      hback⟩
    refine ⟨⟨taken, back ++ a.rest⟩, hfirst.mpr ⟨front, ?_, hfront⟩, ?_⟩
    · rw [hinput, List.append_assoc]
    · refine List.mem_map.mpr
        ⟨⟨more, a.rest⟩, hsecond.mpr ⟨back, rfl, hback⟩, ?_⟩
      rw [← hcaptures]

theorem mem_run_group {index : Nat} {body : Pattern α}
    (hbody : forall {input : List α} {a : Attempt α},
      a ∈ body.run input <-> body.Splits input a)
    {input : List α} {a : Attempt α} :
    a ∈ (group index body).run input <-> (group index body).Splits input a := by
  have hmatched : forall front rest : List α,
      (front ++ rest).take ((front ++ rest).length - rest.length) = front := by
    intro front rest
    rw [List.length_append, Nat.add_sub_cancel, List.take_left]
  rw [run, List.mem_map]
  constructor
  · rintro ⟨b, hb, rfl⟩
    rcases hbody.mp hb with ⟨front, hinput, hfront⟩
    refine ⟨front, hinput, b.captures, ?_, hfront⟩
    dsimp only
    rw [hinput, hmatched]
  · rintro ⟨front, hinput, inner, hcaptures, hfront⟩
    refine ⟨⟨inner, a.rest⟩, hbody.mpr ⟨front, hinput, hfront⟩, ?_⟩
    dsimp only
    rw [hinput, hmatched, ← hcaptures]

/-- The matcher tries exactly the derivations. -/
theorem mem_run_iff (r : Pattern α) :
    forall {input : List α} {a : Attempt α},
      a ∈ r.run input <-> r.Splits input a := by
  induction r with
  | literal text => exact mem_run_literal
  | times count p => exact mem_run_times
  | many1 p => exact mem_run_many1
  | optional body ih => exact mem_run_optional ih
  | either first second ih ih' => exact mem_run_either ih ih'
  | seq first second ih ih' => exact mem_run_seq ih ih'
  | group index body ih => exact mem_run_group ih

/-!
## Matching a whole text
-/

/-- Whatever the matcher finds is a derivation. -/
theorem derives_of_exec {r : Pattern α} {input : List α}
    {captures : Captures α} (h : r.exec input = some captures) :
    r.Derives input captures := by
  rcases Option.map_eq_some_iff.mp h with ⟨a, ha, rfl⟩
  have hrest := List.find?_some ha
  rcases r.mem_run_iff.mp (List.mem_of_find?_eq_some ha) with
    ⟨front, hinput, hderives⟩
  rw [List.isEmpty_iff.mp hrest, List.append_nil] at hinput
  rwa [hinput]

/-- If there is a derivation, the matcher finds one. -/
theorem exec_isSome {r : Pattern α} {input : List α} {captures : Captures α}
    (h : r.Derives input captures) : (r.exec input).isSome = true := by
  rw [exec, Option.isSome_map, List.find?_isSome]
  refine ⟨⟨captures, []⟩, r.mem_run_iff.mpr ⟨input, ?_, h⟩, rfl⟩
  exact (List.append_nil _).symm

/-- The only derivation is the one the matcher finds. -/
theorem exec_eq_some {r : Pattern α} {input : List α} {captures : Captures α}
    (h : r.Derives input captures)
    (hunique : forall other, r.Derives input other -> other = captures) :
    r.exec input = some captures := by
  rcases Option.isSome_iff_exists.mp (exec_isSome h) with ⟨found, hfound⟩
  rw [hfound, hunique found (derives_of_exec hfound)]

end Pattern

end Foundation
end AvtTracker
