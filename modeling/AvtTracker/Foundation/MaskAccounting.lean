import AvtTracker.Foundation.MaskLayout

/-!
# Accounting for the bits of a mask

Every set bit in front of the stop is accounted for in exactly one way: its
field is present, or it is reserved, or it is listed as unsupported.  Nothing
at or behind the stop is present or listed, except that a list filled item by
item may be present in part at the stop itself.
-/

namespace AvtTracker
namespace Foundation

variable {ω : Type}

section Walk

variable {adv : Nat -> Bytes -> Nat -> Advance ω} {buf : Bytes}
variable {bits : List Nat} {offset : Nat}

/-- A bit in front of the stop is visited, and its read does not throw. -/
theorem exists_visit_of_below (hasc : bits.Pairwise (fun a b => a < b))
    {bit : Nat} (hbit : bit ∈ bits)
    (hbelow : forall s, (walk adv bits buf offset).stop.map Prod.fst = some s ->
      bit < s) :
    exists o, (bit, o) ∈ (walk adv bits buf offset).visits ∧
      (adv bit buf o).failure = none := by
  have hnodup : bits.Nodup := hasc.imp (fun h => Nat.ne_of_lt h)
  have hmem : bit ∈ (walk adv bits buf offset).visits.map Prod.fst := by
    cases hstop : (walk adv bits buf offset).stop with
    | none => rwa [walk_visits_of_no_stop hstop]
    | some s =>
        rcases walk_visits_of_stop (s := s.1) (e := s.2) hstop with
          ⟨before, after, hbits, hvisits⟩
        have hlt := hbelow s.1 (by rw [hstop]; rfl)
        rw [hbits] at hbit hasc
        rw [hvisits]
        rcases List.mem_append.mp hbit with hb | hb
        · exact List.mem_append_left _ hb
        · rcases List.mem_cons.mp hb with rfl | hb
          · exact absurd hlt (Nat.lt_irrefl _)
          · have hafter := (List.pairwise_cons.mp
              (List.pairwise_append.mp hasc).right.left).left bit hb
            lia
  rcases List.mem_map.mp hmem with ⟨⟨b, o⟩, hvisit, rfl⟩
  refine ⟨o, hvisit, ?_⟩
  rw [walk_failure_of_visit hnodup hvisit]
  cases hstop : (walk adv bits buf offset).stop with
  | none => rfl
  | some s =>
      have hlt := hbelow s.1 (by rw [hstop]; rfl)
      have hne : s.1 ≠ b := by
        intro heq
        exact absurd hlt (by rw [heq]; exact Nat.lt_irrefl _)
      simp [Option.filter, hne]

theorem not_visited_of_above (hasc : bits.Pairwise (fun a b => a < b))
    {bit s : Nat} {e : Failure}
    (hstop : (walk adv bits buf offset).stop = some (s, e)) (hlt : s < bit) :
    bit ∉ (walk adv bits buf offset).visits.map Prod.fst := by
  rcases walk_visits_of_stop hstop with ⟨before, after, hbits, hvisits⟩
  rw [hvisits]
  rw [hbits] at hasc
  intro hmem
  rcases List.mem_append.mp hmem with hb | hb
  · have hbs := (List.pairwise_append.mp hasc).right.right bit hb s
      List.mem_cons_self
    lia
  · rw [List.mem_singleton.mp hb] at hlt
    exact Nat.lt_irrefl _ hlt

theorem exists_visit_of_stop (hnodup : bits.Nodup) {s : Nat} {e : Failure}
    (hstop : (walk adv bits buf offset).stop = some (s, e)) :
    exists o, (s, o) ∈ (walk adv bits buf offset).visits ∧
      (adv s buf o).failure = some e := by
  rcases walk_visits_of_stop hstop with ⟨before, after, _, hvisits⟩
  have hmem : s ∈ (walk adv bits buf offset).visits.map Prod.fst := by
    rw [hvisits]
    simp
  rcases List.mem_map.mp hmem with ⟨⟨b, o⟩, hvisit, rfl⟩
  refine ⟨o, hvisit, ?_⟩
  rw [walk_failure_of_visit hnodup hvisit, hstop]
  simp [Option.filter]

theorem visits_below_stop (hasc : bits.Pairwise (fun a b => a < b)) :
    ((walk adv bits buf offset).visits.filter
      (fun visit => (adv visit.1 buf visit.2).failure.isNone)).map Prod.fst =
      bits.filter (fun bit =>
        ((walk adv bits buf offset).stop.map Prod.fst).all
          (fun s => bit < s)) := by
  induction bits generalizing offset with
  | nil => rfl
  | cons bit bits ih =>
      rcases List.pairwise_cons.mp hasc with ⟨hbit, hbits⟩
      cases hf : (adv bit buf offset).failure with
      | some e =>
          rw [walk_cons_stop hf]
          symm
          simp only [List.filter_singleton, hf, Option.isNone_some,
            Option.map_some, Option.all_some]
          refine List.filter_eq_nil_iff.mpr ?_
          intro b hb
          rcases List.mem_cons.mp hb with rfl | hb
          · simp
          · have hlt := hbit b hb
            simp only [decide_eq_true_eq]
            lia
      | none =>
          rw [walk_cons_next hf]
          have hbelow : ((walk adv bits buf
              (adv bit buf offset).offset).stop.map Prod.fst).all
              (fun s => bit < s) = true := by
            cases hstop : (walk adv bits buf
                (adv bit buf offset).offset).stop with
            | none => rfl
            | some s =>
                rcases walk_visits_of_stop (s := s.1) (e := s.2) hstop with
                  ⟨before, after, heq, _⟩
                have hmem : s.1 ∈ bits := by
                  rw [heq]
                  simp
                simpa using hbit s.1 hmem
          simp only [List.filter_cons, hf, Option.isNone_none, if_true,
            List.map_cons, ih hbits, hbelow]

end Walk

theorem flatMap_of_visit {α : Type} {visits : List (Nat × Nat)}
    {g : Nat × Nat -> List α} {visit : Nat × Nat}
    (hnodup : (visits.map Prod.fst).Nodup) (hvisit : visit ∈ visits)
    (hother : forall v, v ∈ visits -> v.1 ≠ visit.1 -> g v = []) :
    visits.flatMap g = g visit := by
  induction visits with
  | nil => cases hvisit
  | cons v visits ih =>
      rcases List.nodup_cons.mp hnodup with ⟨hnot, hnodup⟩
      rw [List.flatMap_cons]
      cases hvisit with
      | head =>
          have hrest : visits.flatMap g = [] := by
            rw [List.flatMap_eq_nil_iff]
            intro u hu
            apply hother u (List.mem_cons_of_mem _ hu)
            intro heq
            exact hnot (heq ▸ List.mem_map_of_mem hu)
          rw [hrest, List.append_nil]
      | tail _ hvisit =>
          have hne : v.1 ≠ visit.1 := by
            intro heq
            exact hnot (heq ▸ List.mem_map_of_mem hvisit)
          rw [hother v List.mem_cons_self hne, List.nil_append,
            ih hnodup hvisit
              (fun u hu => hother u (List.mem_cons_of_mem _ hu))]

variable {L : MaskLayout ω}

/-- The number of ways a block accounts for a bit: its field is present, it is
reserved, it is listed as unsupported. -/
def MaskBlock.ways (block : MaskBlock L) (bit : Nat) : Nat :=
  (match L.bitCase bit with
    | BitCase.field f => if (block.fields f).isSome then 1 else 0
    | BitCase.reserved => 1
    | BitCase.unsupported => 0) +
  if bit ∈ block.unsupportedBits then 1 else 0

/-- The accounting law of a block, for the first set bit at which a read threw.
{lit}`partly` names the fields that may be present in part at that bit. -/
structure MaskBlock.Accounted (block : MaskBlock L) (stop : Option Nat)
    (partly : L.Field -> Prop) : Prop where
  below : forall bit, bit ∈ setBits block.mask ->
    (forall s, stop = some s -> bit < s) -> block.ways bit = 1
  from_stop : forall bit s, stop = some s -> s ≤ bit ->
    bit ∉ block.unsupportedBits ∧
      forall f, L.bitOf f = bit ->
        (bit = s ∧ partly f) ∨ block.fields f = none
  stop_set : forall s, stop = some s -> s ∈ setBits block.mask
  unset : forall f, L.bitOf f ∉ setBits block.mask -> block.fields f = none
  listed_set : forall bit, bit ∈ block.unsupportedBits ->
    bit ∈ setBits block.mask
  ascending : block.unsupportedBits.Pairwise (fun a b => a < b)

namespace MaskLayout

def firstThrow (L : MaskLayout ω) (mask : Nat) (buf : Bytes) (offset : Nat) :
    Option Nat :=
  (L.walkMask mask buf offset).stop.map Prod.fst

variable {mask offset : Nat} {buf : Bytes}

theorem mem_loop_unsupportedBits {bit : Nat} :
    bit ∈ (L.loop mask buf offset).state.unsupportedBits <->
      bit ∈ (L.walkMask mask buf offset).visits.map Prod.fst ∧
        L.bitCase bit = BitCase.unsupported := by
  rw [loop_unsupportedBits, List.mem_filter]
  unfold isUnsupported
  cases L.bitCase bit <;> simp

/-- A bit in front of the stop was read, skipped or listed. -/
theorem loop_ways (hstores : forall f, (L.read f).Stores) {bit : Nat}
    (hbit : bit ∈ setBits mask)
    (hbelow : forall s, L.firstThrow mask buf offset = some s -> bit < s) :
    (L.loop mask buf offset).state.ways bit = 1 := by
  rcases exists_visit_of_below (setBits_ascending mask) hbit hbelow with
    ⟨o, hvisit, hok⟩
  have hmem := List.mem_map_of_mem (f := Prod.fst) hvisit
  have hlisted : bit ∈ (L.loop mask buf offset).state.unsupportedBits <-> _ :=
    mem_loop_unsupportedBits
  unfold MaskBlock.ways
  cases hcase : L.bitCase bit with
  | field f =>
      have hb := L.bitCase_eq_field_iff.mp hcase
      have hread : ((L.read f).run buf o).failure = none := by
        simpa only [advance, hcase] using hok
      have hsome : ((L.loop mask buf offset).state.fields f).isSome := by
        rw [loop_fields_of_visit (hb ▸ hvisit)]
        exact hstores f buf o hread
      simp [hlisted, hcase, hsome]
  | reserved => simp [hlisted, hcase]
  | unsupported =>
      have hin := hlisted.mpr ⟨hmem, hcase⟩
      simp [hin]

theorem loop_behind_stop {bit s : Nat} {e : Failure}
    (hstop : (L.walkMask mask buf offset).stop = some (s, e)) (hlt : s < bit) :
    bit ∉ (L.loop mask buf offset).state.unsupportedBits ∧
      forall f, L.bitOf f = bit ->
        (L.loop mask buf offset).state.fields f = none := by
  have hnot := not_visited_of_above (setBits_ascending mask) hstop hlt
  constructor
  · intro hin
    exact hnot (mem_loop_unsupportedBits.mp hin).left
  · intro f hf
    exact loop_fields_of_unvisited (hf ▸ hnot)

theorem loop_at_stop {partly : L.Field -> Prop}
    (hwhole : forall f, ¬ partly f -> (L.read f).AllOrNothing) {s : Nat}
    {e : Failure} (hstop : (L.walkMask mask buf offset).stop = some (s, e)) :
    s ∉ (L.loop mask buf offset).state.unsupportedBits ∧
      forall f, L.bitOf f = s ->
        partly f ∨ (L.loop mask buf offset).state.fields f = none := by
  rcases exists_visit_of_stop (setBits_nodup mask) hstop with
    ⟨o, hvisit, hthrow⟩
  constructor
  · intro hin
    have hcase := (mem_loop_unsupportedBits.mp hin).right
    simp [advance, hcase] at hthrow
  · intro f hf
    by_cases hp : partly f
    · exact Or.inl hp
    · refine Or.inr ?_
      rw [loop_fields_of_visit (by rw [hf]; exact hvisit)]
      apply hwhole f hp
      have hcase := L.bitCase_eq_field_iff.mpr hf.symm
      simp only [advance, hcase] at hthrow
      rw [hthrow]
      exact Option.some_ne_none e

theorem loop_accounted {partly : L.Field -> Prop}
    (hstores : forall f, (L.read f).Stores)
    (hwhole : forall f, ¬ partly f -> (L.read f).AllOrNothing) :
    (L.loop mask buf offset).state.Accounted (L.firstThrow mask buf offset)
      partly := by
  have hpre : (L.walkMask mask buf offset).visits.map Prod.fst <+:
    setBits mask := walk_visits_isPrefix _ _
  constructor
  · intro bit hbit hbelow
    rw [loop_mask] at hbit
    exact loop_ways hstores hbit hbelow
  · intro bit s hstop hle
    rcases Option.map_eq_some_iff.mp hstop with ⟨⟨_, e⟩, hwalk, rfl⟩
    rcases Nat.lt_or_eq_of_le hle with hlt | rfl
    · have hbehind := loop_behind_stop hwalk hlt
      exact ⟨hbehind.left, fun f hf => Or.inr (hbehind.right f hf)⟩
    · have hat := loop_at_stop hwhole hwalk
      refine ⟨hat.left, fun f hf => ?_⟩
      exact (hat.right f hf).imp_left (fun hp => ⟨rfl, hp⟩)
  · intro s hstop
    rcases Option.map_eq_some_iff.mp hstop with ⟨⟨_, e⟩, hwalk, rfl⟩
    rcases exists_visit_of_stop (setBits_nodup mask) hwalk with ⟨o, hvisit, _⟩
    rw [loop_mask]
    exact hpre.subset (List.mem_map_of_mem hvisit)
  · intro f hunset
    rw [loop_mask] at hunset
    exact loop_fields_of_unvisited (fun h => hunset (hpre.subset h))
  · intro bit hin
    rw [loop_mask]
    exact hpre.subset (mem_loop_unsupportedBits.mp hin).left
  · rw [loop_unsupportedBits]
    exact ((setBits_ascending mask).sublist hpre.sublist).filter _

end MaskLayout

end Foundation
end AvtTracker
