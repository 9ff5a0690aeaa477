import AvtTracker.Foundation.BlockExtension

/-!
# When a decoded prefix is sound

A pass stalls if it is short of bytes and carries on all the same: a nested
block that handles its own failure leaves the cursor in the middle of its
bytes.  What a block decoded from a prefix says stays true on every extension
if and only if no field behind a stalled pass is present, and fields that start
with a fixed number of bytes are present behind a stalled pass if and only if
that many bytes are left.
-/

namespace AvtTracker
namespace Foundation

variable {ω : Type}

section Walk

variable {adv : Nat -> Bytes -> Nat -> Advance ω}
variable {missing : Nat -> Bytes -> Nat -> Option Nat}

/-- A pass that is short of bytes and does not fail. -/
def Stalls (adv : Nat -> Bytes -> Nat -> Advance ω)
    (missing : Nat -> Bytes -> Nat -> Option Nat) (buf : Bytes)
    (visit : Nat × Nat) : Prop :=
  missing visit.1 buf visit.2 ≠ none ∧
    (adv visit.1 buf visit.2).failure = none

/-- From the end of the buffer a walk goes nowhere. -/
theorem walk_visits_at_end (hadv : WalkExtends adv missing)
    (bits : List Nat) (buf : Bytes) :
    forall visit, visit ∈ (walk adv bits buf buf.length).visits ->
      visit.2 = buf.length := by
  induction bits with
  | nil => intro visit h; cases h
  | cons bit bits ih =>
      intro visit h
      have hbit := hadv.bounded bit buf buf.length (Nat.le_refl _)
      have hstay : (adv bit buf buf.length).offset = buf.length :=
        Nat.le_antisymm hbit.right hbit.left
      cases hf : (adv bit buf buf.length).failure with
      | some e =>
          rw [walk_cons_stop hf] at h
          rw [List.mem_singleton.mp h]
      | none =>
          rw [walk_cons_next hf, hstay] at h
          cases h with
          | head => rfl
          | tail _ h => exact ih visit h

/-- A visit is made on every extension, or it lies behind a stalled one. -/
theorem visit_stays_or_stalled (hadv : WalkExtends adv missing)
    {bits : List Nat} (hsorted : bits.Pairwise (fun a b => a < b))
    {buf : Bytes} {offset : Nat} (hle : offset ≤ buf.length)
    {visit : Nat × Nat} (h : visit ∈ (walk adv bits buf offset).visits) :
    (forall more, visit ∈ (walk adv bits (buf ++ more) offset).visits) ∨
      exists stalled, stalled ∈ (walk adv bits buf offset).visits ∧
        stalled.1 < visit.1 ∧ Stalls adv missing buf stalled := by
  induction bits generalizing offset with
  | nil => cases h
  | cons bit bits ih =>
      rcases List.pairwise_cons.mp hsorted with ⟨hfirst, hsorted⟩
      have hhead : forall more,
          (bit, offset) ∈ (walk adv (bit :: bits) (buf ++ more) offset).visits := by
        intro more
        cases hf : (adv bit (buf ++ more) offset).failure with
        | some e => rw [walk_cons_stop hf]; exact List.mem_cons_self
        | none => rw [walk_cons_next hf]; exact List.mem_cons_self
      cases hf : (adv bit buf offset).failure with
      | some e =>
          rw [walk_cons_stop hf] at h
          rw [List.mem_singleton.mp h]
          exact Or.inl hhead
      | none =>
          rw [walk_cons_next hf] at h ⊢
          cases h with
          | head => exact Or.inl hhead
          | tail _ h =>
              cases hm : missing bit buf offset with
              | some k =>
                  have hbit : visit.1 ∈ bits :=
                    (walk_visits_isPrefix bits _).subset
                      (List.mem_map_of_mem h)
                  refine Or.inr ⟨(bit, offset), List.mem_cons_self,
                    hfirst visit.1 hbit, ?_, hf⟩
                  rw [hm]
                  exact Option.some_ne_none k
              | none =>
                  rcases ih hsorted (hadv.bounded bit buf offset hle).right h
                    with hstays | ⟨stalled, hvisit, hlt, hstalled⟩
                  · refine Or.inl fun more => ?_
                    have hbit := hadv.stable bit buf offset hle hm more
                    rw [walk_cons_next (by rw [hbit, hf]), hbit]
                    exact List.mem_cons_of_mem _ (hstays more)
                  · exact Or.inr ⟨stalled, List.mem_cons_of_mem _ hvisit, hlt,
                      hstalled⟩

/-- Some extension starves everything behind a visit that is short. -/
theorem exists_starving (hadv : WalkExtends adv missing)
    {bits : List Nat} (hsorted : bits.Pairwise (fun a b => a < b))
    {buf : Bytes} {offset : Nat} (hle : offset ≤ buf.length)
    {short : Nat × Nat} (h : short ∈ (walk adv bits buf offset).visits)
    (hshort : missing short.1 buf short.2 ≠ none) :
    exists k, forall more : Bytes, more.length = k -> forall visit,
      visit ∈ (walk adv bits (buf ++ more) offset).visits ->
        short.1 < visit.1 -> visit.2 = (buf ++ more).length := by
  induction bits generalizing offset with
  | nil => cases h
  | cons bit bits ih =>
      rcases List.pairwise_cons.mp hsorted with ⟨hfirst, hsorted⟩
      have hbit : short.1 ∈ bit :: bits :=
        (walk_visits_isPrefix (bit :: bits) _).subset (List.mem_map_of_mem h)
      have hfirst_le : bit ≤ short.1 := by
        rcases List.mem_cons.mp hbit with heq | hmem
        · exact Nat.le_of_eq heq.symm
        · exact Nat.le_of_lt (hfirst short.1 hmem)
      cases hm : missing bit buf offset with
      | some k =>
          refine ⟨k, fun more hmore visit hvisit hlt => ?_⟩
          have hend := hadv.starved bit buf offset k hle hm more hmore
          cases hf : (adv bit (buf ++ more) offset).failure with
          | some e =>
              rw [walk_cons_stop hf] at hvisit
              rw [List.mem_singleton.mp hvisit] at hlt
              exact absurd hlt (Nat.not_lt.mpr hfirst_le)
          | none =>
              rw [walk_cons_next hf, hend] at hvisit
              cases hvisit with
              | head => exact absurd hlt (Nat.not_lt.mpr hfirst_le)
              | tail _ hvisit =>
                  exact walk_visits_at_end hadv bits _ visit hvisit
      | none =>
          have hok := hadv.settled bit buf offset hm
          rw [walk_cons_next hok] at h
          cases h with
          | head => exact absurd hm hshort
          | tail _ h =>
              rcases ih hsorted (hadv.bounded bit buf offset hle).right h with
                ⟨k, hk⟩
              refine ⟨k, fun more hmore visit hvisit hlt => ?_⟩
              have hstable := hadv.stable bit buf offset hle hm more
              rw [walk_cons_next (by rw [hstable, hok]), hstable] at hvisit
              cases hvisit with
              | head => exact absurd hlt (Nat.not_lt.mpr hfirst_le)
              | tail _ hvisit => exact hk more hmore visit hvisit hlt

theorem mem_front_iff {done rest : List Nat} {bit b : Nat}
    (h : (done ++ bit :: rest).Pairwise (fun a b => a < b)) :
    b ∈ done <-> b ∈ done ++ bit :: rest ∧ b < bit := by
  rcases List.pairwise_append.mp h with ⟨_, hrest, hdone⟩
  have habove := (List.pairwise_cons.mp hrest).left
  rw [List.mem_append, List.mem_cons]
  constructor
  · intro hb
    exact ⟨Or.inl hb, hdone b hb bit List.mem_cons_self⟩
  · rintro ⟨hb | heq | hb, hlt⟩
    · exact hb
    · exact absurd hlt (by lia)
    · exact absurd hlt (Nat.lt_asymm (habove b hb))

theorem mem_behind_iff {done rest : List Nat} {bit b : Nat}
    (h : (done ++ bit :: rest).Pairwise (fun a b => a < b)) :
    b ∈ rest <-> b ∈ done ++ bit :: rest ∧ bit < b := by
  rcases List.pairwise_append.mp h with ⟨_, hrest, hdone⟩
  have habove := (List.pairwise_cons.mp hrest).left
  rw [List.mem_append, List.mem_cons]
  constructor
  · intro hb
    exact ⟨Or.inr (Or.inr hb), habove b hb⟩
  · rintro ⟨hb | heq | hb, hlt⟩
    · exact absurd hlt (Nat.lt_asymm (hdone b hb bit List.mem_cons_self))
    · exact absurd hlt (by lia)
    · exact hb

theorem exists_split_of_visit {bits : List Nat} {buf : Bytes} {offset : Nat}
    {visit : Nat × Nat} (h : visit ∈ (walk adv bits buf offset).visits) :
    exists done rest, bits = done ++ visit.1 :: rest ∧
      (walk adv done buf offset).stop = none ∧
      (walk adv done buf offset).offset = visit.2 := by
  induction bits generalizing offset with
  | nil => cases h
  | cons bit bits ih =>
      cases hf : (adv bit buf offset).failure with
      | some e =>
          rw [walk_cons_stop hf] at h
          rw [List.mem_singleton.mp h]
          exact ⟨[], bits, rfl, rfl, rfl⟩
      | none =>
          rw [walk_cons_next hf] at h
          cases h with
          | head => exact ⟨[], bits, rfl, rfl, rfl⟩
          | tail _ h =>
              rcases ih h with ⟨done, rest, hbits, hstop, hoffset⟩
              refine ⟨bit :: done, rest, by rw [hbits, List.cons_append],
                ?_, ?_⟩
              · rw [walk_cons_next hf]
                exact hstop
              · rw [walk_cons_next hf]
                exact hoffset

theorem walk_stop_of_short
    (hflat : forall bit buf offset, missing bit buf offset ≠ none ->
      (adv bit buf offset).failure ≠ none)
    {bits : List Nat} {buf : Bytes} {offset : Nat}
    (h : walkMissing adv missing bits buf offset ≠ none) :
    (walk adv bits buf offset).stop ≠ none := by
  induction bits generalizing offset with
  | nil => exact absurd rfl h
  | cons bit bits ih =>
      cases hf : (adv bit buf offset).failure with
      | some e =>
          rw [walk_cons_stop hf]
          exact Option.some_ne_none _
      | none =>
          have hm : missing bit buf offset = none := by
            by_contra hm
            exact hflat bit buf offset hm hf
          simp only [walkMissing, hm] at h
          rw [walk_cons_next hf]
          exact ih h

end Walk

/-!
## Blocks cut short
-/

/-- A field that starts with {lit}`n` bytes: with fewer left it fails, and with
as many it is assigned. -/
def FieldDecoder.Headed {α : Type} (d : FieldDecoder ω α) (n : Nat) : Prop :=
  forall buf offset,
    (buf.length - offset < n ->
      (d.run buf offset).failure ≠ none ∧ (d.run buf offset).stored = none) ∧
    (n ≤ buf.length - offset ->
      (d.run buf offset).failure = none ∧ (d.run buf offset).stored ≠ none)

section Block

variable {σ : Type} {start : Nat -> σ}
variable {body : Nat -> σ -> Bytes -> Nat -> BitOutcome ω σ}
variable {stopped : Nat -> Failure -> ω} {closing : σ -> List ω}
variable {adv : Nat -> Bytes -> Nat -> Advance ω}
variable {missing : Nat -> Bytes -> Nat -> Option Nat}

theorem maskBlock_headed :
    (FieldDecoder.assign (maskBlock start body stopped closing)).Headed 4 := by
  intro buf offset
  constructor
  · intro hshort
    have hrun : (maskBlock start body stopped closing).run buf offset = _ :=
      run_maskBlock_short hshort
    rw [FieldDecoder.assign_of_error (by rw [hrun])]
    exact ⟨Option.some_ne_none _, rfl⟩
  · intro hlen
    have hrun : (maskBlock start body stopped closing).run buf offset = _ :=
      run_maskBlock hlen
    simp only [FieldDecoder.assign, hrun]
    exact ⟨rfl, Option.some_ne_none _⟩

theorem assign_map_headed {α β : Type} {n : Nat} {d : Decoder ω α} {g : α -> β}
    (h : (FieldDecoder.assign d).Headed n) :
    (FieldDecoder.assign (d >>= fun a => pure (g a))).Headed n := by
  intro buf offset
  rw [FieldDecoder.run_assign_map]
  constructor
  · intro hshort
    have hd := (h buf offset).left hshort
    exact ⟨hd.left, by rw [hd.right]; rfl⟩
  · intro hlen
    have hd := (h buf offset).right hlen
    exact ⟨hd.left, fun hnone => hd.right (Option.map_eq_none_iff.mp hnone)⟩

/-- A block with a complete mask is short of bytes if and only if its own walk
stops. -/
theorem blockMissing_iff_stop (hadv : WalkExtends adv missing)
    (hflat : forall bit buf offset, missing bit buf offset ≠ none ->
      (adv bit buf offset).failure ≠ none)
    {buf : Bytes} {offset : Nat} (h : 4 ≤ buf.length - offset) :
    blockMissing adv missing buf offset ≠ none <->
      (walk adv (setBits (maskAt buf offset)) buf (offset + 4)).stop ≠
        none := by
  rw [blockMissing, if_neg (Nat.not_lt.mpr h)]
  constructor
  · exact walk_stop_of_short hflat
  · intro hstop hsettled
    exact hstop (walk_settled hadv hsettled)

end Block

/-!
## Layouts
-/

namespace MaskLayout

variable {L : MaskLayout ω}
variable {fieldMissing : L.Field -> Bytes -> Nat -> Option Nat}
variable {le : (f : L.Field) -> L.Value f -> L.Value f -> Prop}
variable {mask offset : Nat} {buf : Bytes}

/-- No field behind a stalled pass is present. -/
def NothingBehind (L : MaskLayout ω)
    (fieldMissing : L.Field -> Bytes -> Nat -> Option Nat) (mask : Nat)
    (buf : Bytes) (offset : Nat) : Prop :=
  forall visit, visit ∈ (L.walkMask mask buf offset).visits ->
    Stalls L.advance (L.missing fieldMissing) buf visit ->
      forall f, visit.1 < L.bitOf f ->
        (L.loop mask buf offset).state.fields f = none

section Extends

variable (h : forall f, (L.read f).Extends (fieldMissing f) (le f))

include h

theorem field_grows_of_nothingBehind (hle : offset ≤ buf.length)
    (hnothing : L.NothingBehind fieldMissing mask buf offset) (more : Bytes)
    {f : L.Field} {v : L.Value f} {o : Nat}
    (hv : (L.loop mask buf offset).state.fields f = some v)
    (hvisit : (L.bitOf f, o) ∈ (L.walkMask mask buf offset).visits) :
    (L.bitOf f, o) ∈ (L.walkMask mask (buf ++ more) offset).visits ∧
      exists v', (L.loop mask (buf ++ more) offset).state.fields f = some v' ∧
        le f v v' := by
  have hadv := advance_extends h
  rcases visit_stays_or_stalled hadv (setBits_ascending mask) hle hvisit with
    hstays | ⟨stalled, hmem, hlt, hstalled⟩
  · refine ⟨hstays more, ?_⟩
    rw [loop_fields_of_visit hvisit] at hv
    rw [loop_fields_of_visit (hstays more)]
    exact (h f).grows buf o v (walk_visits_le hadv hle hvisit) hv more
  · rw [hnothing stalled hmem hstalled f hlt] at hv
    cases hv

theorem nothingBehind_of_stays (hle : offset ≤ buf.length)
    (hend : forall visit f,
      Stalls L.advance (L.missing fieldMissing) buf visit ->
        visit.1 < L.bitOf f -> forall zone : Bytes,
          ((L.read f).run zone zone.length).stored = none)
    (hstays : forall more f, (L.loop mask buf offset).state.fields f ≠ none ->
      (L.loop mask (buf ++ more) offset).state.fields f ≠ none) :
    L.NothingBehind fieldMissing mask buf offset := by
  intro visit hvisit hstalled f hlt
  by_contra hpresent
  have hadv := advance_extends h
  rcases exists_starving hadv (setBits_ascending mask) hle hvisit
    hstalled.left with ⟨k, hstarved⟩
  have hmore := hstays (List.replicate k 0) f hpresent
  rcases Option.ne_none_iff_exists'.mp hmore with ⟨v, hv⟩
  rcases exists_visit_of_field hv with ⟨o, hbehind, hstored⟩
  have hat := hstarved (List.replicate k 0) List.length_replicate _ hbehind hlt
  dsimp only at hat
  rw [hat, hend visit f hstalled hlt] at hstored
  cases hstored

end Extends

/-!
## Fields that start with a fixed number of bytes
-/

theorem advance_of_no_field {bit : Nat} (h : forall f, L.bitOf f ≠ bit)
    (buf : Bytes) (offset : Nat) :
    L.advance bit buf offset = ⟨none, offset, []⟩ := by
  unfold advance
  cases hcase : L.bitCase bit with
  | field f => exact absurd (L.bitCase_eq_field_iff.mp hcase).symm (h f)
  | reserved => rfl
  | unsupported => rfl

theorem advance_bitOf (f : L.Field) (buf : Bytes) (offset : Nat) :
    L.advance (L.bitOf f) buf offset =
      ⟨((L.read f).run buf offset).failure,
        ((L.read f).run buf offset).offset,
        ((L.read f).run buf offset).notes⟩ := by
  unfold advance
  rw [L.bitCase_eq_field_iff.mpr rfl]

theorem walk_headed_short {n : Nat} {bits : List Nat}
    (hheaded : forall f, L.bitOf f ∈ bits -> (L.read f).Headed n)
    (hshort : buf.length - offset < n) {f : L.Field} {o : Nat}
    (h : (L.bitOf f, o) ∈ (walk L.advance bits buf offset).visits) :
    ((L.read f).run buf o).stored = none := by
  induction bits with
  | nil => cases h
  | cons bit bits ih =>
      by_cases hfield : exists g, L.bitOf g = bit
      · rcases hfield with ⟨g, rfl⟩
        have hg := ((hheaded g List.mem_cons_self) buf offset).left hshort
        cases hf : (L.advance (L.bitOf g) buf offset).failure with
        | none =>
            rw [advance_bitOf] at hf
            exact absurd hf hg.left
        | some e =>
            rw [walk_cons_stop hf] at h
            injection List.mem_singleton.mp h with hbit ho
            have hfg : f = g := by
              have hcase := L.bitCase_eq_field_iff.mpr hbit.symm
              rw [L.bitCase_eq_field_iff.mpr rfl] at hcase
              injection hcase with hcase
              exact hcase.symm
            rw [hfg, ho]
            exact hg.right
      · have hnone : forall g, L.bitOf g ≠ bit :=
          fun g hg => hfield ⟨g, hg⟩
        have hadvance := L.advance_of_no_field hnone buf offset
        rw [walk_cons_next (by rw [hadvance]), hadvance] at h
        cases h with
        | head => exact absurd rfl (hnone f)
        | tail _ h =>
            exact ih (fun g hg => hheaded g (List.mem_cons_of_mem _ hg)) h

theorem walk_first_field (buf : Bytes) (offset : Nat) {bits : List Nat}
    {f : L.Field} (h : L.bitOf f ∈ bits) :
    exists g, L.bitOf g ∈ bits ∧
      (L.bitOf g, offset) ∈ (walk L.advance bits buf offset).visits := by
  induction bits with
  | nil => cases h
  | cons bit bits ih =>
      by_cases hfield : exists g, L.bitOf g = bit
      · rcases hfield with ⟨g, rfl⟩
        refine ⟨g, List.mem_cons_self, ?_⟩
        cases hf : (L.advance (L.bitOf g) buf offset).failure with
        | none => rw [walk_cons_next hf]; exact List.mem_cons_self
        | some e => rw [walk_cons_stop hf]; exact List.mem_cons_self
      · have hnone : forall g, L.bitOf g ≠ bit :=
          fun g hg => hfield ⟨g, hg⟩
        have hadvance := L.advance_of_no_field hnone buf offset
        rcases List.mem_cons.mp h with heq | hmem
        · exact absurd heq (hnone f)
        · rcases ih hmem with ⟨g, hg, hvisit⟩
          refine ⟨g, List.mem_cons_of_mem _ hg, ?_⟩
          rw [walk_cons_next (by rw [hadvance]), hadvance]
          exact List.mem_cons_of_mem _ hvisit

/-- Fewer than {lit}`n` bytes are left behind a stalled pass that has a field
behind it. -/
def LittleLeft (L : MaskLayout ω)
    (fieldMissing : L.Field -> Bytes -> Nat -> Option Nat) (n mask : Nat)
    (buf : Bytes) (offset : Nat) : Prop :=
  forall visit, visit ∈ (L.walkMask mask buf offset).visits ->
    Stalls L.advance (L.missing fieldMissing) buf visit ->
      forall f, L.bitOf f ∈ setBits mask -> visit.1 < L.bitOf f ->
        buf.length - (L.advance visit.1 buf visit.2).offset < n

/-- The visits behind a pass that does not fail are those of a walk from where
it left the cursor. -/
theorem exists_visits_behind {visit : Nat × Nat}
    (h : visit ∈ (L.walkMask mask buf offset).visits)
    (hok : (L.advance visit.1 buf visit.2).failure = none) :
    exists before rest,
      (L.walkMask mask buf offset).visits = before ++ visit ::
        (walk L.advance rest buf
          (L.advance visit.1 buf visit.2).offset).visits ∧
      (forall earlier, earlier ∈ before -> earlier.1 < visit.1) ∧
      forall bit, bit ∈ rest <-> bit ∈ setBits mask ∧ visit.1 < bit := by
  rcases exists_split_of_visit h with ⟨done, rest, hbits, hstop, hoffset⟩
  have hsorted := setBits_ascending mask
  rw [hbits] at hsorted
  refine ⟨(walk L.advance done buf offset).visits, rest, ?_, ?_, ?_⟩
  · unfold walkMask
    rw [hbits, walk_append hstop, hoffset, walk_cons_next hok]
  · intro earlier hearlier
    have hmem : earlier.1 ∈ done :=
      (walk_visits_isPrefix done _).subset (List.mem_map_of_mem hearlier)
    exact ((mem_front_iff hsorted).mp hmem).right
  · intro bit
    rw [hbits]
    exact mem_behind_iff hsorted

theorem nothingBehind_iff {n : Nat}
    (hheaded : forall visit f,
      Stalls L.advance (L.missing fieldMissing) buf visit ->
        visit.1 < L.bitOf f -> (L.read f).Headed n) :
    L.NothingBehind fieldMissing mask buf offset <->
      L.LittleLeft fieldMissing n mask buf offset := by
  constructor
  · intro h visit hvisit hstalled f hbit hlt
    by_contra hleft
    rcases exists_visits_behind hvisit hstalled.right with
      ⟨before, rest, hvisits, _, hrest⟩
    rcases walk_first_field buf (L.advance visit.1 buf visit.2).offset
      ((hrest _).mpr ⟨hbit, hlt⟩) with ⟨g, hg, hfirst⟩
    have hgbit := ((hrest _).mp hg).right
    have hmem : (L.bitOf g, (L.advance visit.1 buf visit.2).offset) ∈
        (L.walkMask mask buf offset).visits := by
      rw [hvisits]
      exact List.mem_append_right _ (List.mem_cons_of_mem _ hfirst)
    have habsent := h visit hvisit hstalled g hgbit
    rw [loop_fields_of_visit hmem] at habsent
    exact ((hheaded visit g hstalled hgbit buf _).right
      (Nat.not_lt.mp hleft)).right habsent
  · intro h visit hvisit hstalled f hlt
    cases hv : (L.loop mask buf offset).state.fields f with
    | none => rfl
    | some v =>
        rcases exists_visit_of_field hv with ⟨o, hmem, hstored⟩
        rcases exists_visits_behind hvisit hstalled.right with
          ⟨before, rest, hvisits, hbefore, hrest⟩
        have hbit : L.bitOf f ∈ setBits mask :=
          (walk_visits_isPrefix _ _).subset (List.mem_map_of_mem hmem)
        have hshort := h visit hvisit hstalled f hbit hlt
        rw [hvisits] at hmem
        rcases List.mem_append.mp hmem with hmem | hmem
        · exact absurd (hbefore _ hmem) (Nat.not_lt.mpr (Nat.le_of_lt hlt))
        · rcases List.mem_cons.mp hmem with heq | hmem
          · rw [← heq] at hlt
            exact absurd hlt (Nat.lt_irrefl _)
          · have hall : forall g, L.bitOf g ∈ rest -> (L.read g).Headed n :=
              fun g hg => hheaded visit g hstalled ((hrest _).mp hg).right
            rw [walk_headed_short hall hshort hmem] at hstored
            cases hstored

/-!
## The bits visited
-/

/-- The bits up to the first one with a field, and that one. -/
def throughField (L : MaskLayout ω) : List Nat -> List Nat
  | [] => []
  | bit :: bits =>
      match L.bitCase bit with
      | BitCase.field _ => [bit]
      | BitCase.reserved => bit :: L.throughField bits
      | BitCase.unsupported => bit :: L.throughField bits

theorem throughField_field (f : L.Field) (bits : List Nat) :
    L.throughField (L.bitOf f :: bits) = [L.bitOf f] := by
  have hcase : L.bitCase (L.bitOf f) = BitCase.field f :=
    L.bitCase_eq_field_iff.mpr rfl
  simp only [throughField, hcase]

theorem throughField_cons {bit : Nat} (h : forall f, L.bitOf f ≠ bit)
    (bits : List Nat) :
    L.throughField (bit :: bits) = bit :: L.throughField bits := by
  rw [throughField]
  cases hcase : L.bitCase bit with
  | field f => exact absurd (L.bitCase_eq_field_iff.mp hcase).symm (h f)
  | reserved => rfl
  | unsupported => rfl

theorem throughField_isPrefix (bits : List Nat) (buf : Bytes) (offset : Nat) :
    L.throughField bits <+:
      (walk L.advance bits buf offset).visits.map Prod.fst := by
  induction bits with
  | nil => exact List.prefix_rfl
  | cons bit bits ih =>
      by_cases hfield : exists f, L.bitOf f = bit
      · rcases hfield with ⟨f, rfl⟩
        rw [throughField_field]
        cases hf : (L.advance (L.bitOf f) buf offset).failure with
        | some e => rw [walk_cons_stop hf]; exact List.prefix_rfl
        | none =>
            rw [walk_cons_next hf]
            exact List.prefix_append [L.bitOf f] _
      · have hnone : forall f, L.bitOf f ≠ bit := fun f hf => hfield ⟨f, hf⟩
        have hadvance := L.advance_of_no_field hnone buf offset
        rw [throughField_cons hnone, walk_cons_next (by rw [hadvance]),
          hadvance]
        exact (List.prefix_append_right_inj [bit]).mpr ih

theorem visits_of_little_left {n : Nat} {bits : List Nat}
    (hlittle : forall f, L.bitOf f ∈ bits ->
      (L.read f).Headed n ∧ buf.length - offset < n) :
    (walk L.advance bits buf offset).visits.map Prod.fst =
      L.throughField bits := by
  induction bits with
  | nil => rfl
  | cons bit bits ih =>
      by_cases hfield : exists f, L.bitOf f = bit
      · rcases hfield with ⟨f, rfl⟩
        rcases hlittle f List.mem_cons_self with ⟨hheaded, hshort⟩
        rw [throughField_field]
        cases hf : (L.advance (L.bitOf f) buf offset).failure with
        | some e => rw [walk_cons_stop hf]; rfl
        | none =>
            rw [advance_bitOf] at hf
            exact absurd hf ((hheaded buf offset).left hshort).left
      · have hnone : forall f, L.bitOf f ≠ bit := fun f hf => hfield ⟨f, hf⟩
        have hadvance := L.advance_of_no_field hnone buf offset
        rw [throughField_cons hnone, walk_cons_next (by rw [hadvance]),
          hadvance, List.map_cons,
          ih (fun f hf => hlittle f (List.mem_cons_of_mem _ hf))]

section Visited

variable (h : forall f, (L.read f).Extends (fieldMissing f) (le f))

include h

theorem visited_bits_grow {n : Nat} {bits : List Nat}
    (hsorted : bits.Pairwise (fun a b => a < b)) (hle : offset ≤ buf.length)
    (hheaded : forall visit f,
      Stalls L.advance (L.missing fieldMissing) buf visit ->
        visit.1 < L.bitOf f -> (L.read f).Headed n)
    (hcarries : forall visit more,
      Stalls L.advance (L.missing fieldMissing) buf visit ->
        (L.advance visit.1 (buf ++ more) visit.2).failure = none)
    (hlittle : forall visit,
      visit ∈ (walk L.advance bits buf offset).visits ->
        Stalls L.advance (L.missing fieldMissing) buf visit ->
          forall f, L.bitOf f ∈ bits -> visit.1 < L.bitOf f ->
            buf.length - (L.advance visit.1 buf visit.2).offset < n)
    (more : Bytes) :
    (walk L.advance bits buf offset).visits.map Prod.fst <+:
      (walk L.advance bits (buf ++ more) offset).visits.map Prod.fst := by
  have hadv := advance_extends h
  induction bits generalizing offset with
  | nil => exact List.prefix_rfl
  | cons bit bits ih =>
      rcases List.pairwise_cons.mp hsorted with ⟨hfirst, hsorted⟩
      cases hf : (L.advance bit buf offset).failure with
      | some e =>
          rw [walk_cons_stop hf]
          cases hf' : (L.advance bit (buf ++ more) offset).failure with
          | some e' => simp only [walk_cons_stop hf', List.prefix_rfl]
          | none =>
              rw [walk_cons_next hf']
              exact List.prefix_append [bit] _
      | none =>
          rw [walk_cons_next hf] at hlittle ⊢
          have hbounded := (hadv.bounded bit buf offset hle).right
          cases hm : L.missing fieldMissing bit buf offset with
          | none =>
              have hbit := hadv.stable bit buf offset hle hm more
              rw [walk_cons_next (by rw [hbit, hf]), hbit]
              refine (List.prefix_append_right_inj [bit]).mpr
                (ih hsorted hbounded ?_)
              intro visit hvisit hstalled f hbitf
              exact hlittle visit (List.mem_cons_of_mem _ hvisit) hstalled f
                (List.mem_cons_of_mem _ hbitf)
          | some k =>
              -- Behind a stalled pass both walks get to the next field, and
              -- the one over the prefix no further.
              have hstalled : Stalls L.advance (L.missing fieldMissing) buf
                  (bit, offset) :=
                ⟨by rw [hm]; exact Option.some_ne_none k, hf⟩
              rw [walk_cons_next (hcarries _ more hstalled), List.map_cons,
                List.map_cons, visits_of_little_left (n := n)]
              · exact (List.prefix_append_right_inj [bit]).mpr
                  (throughField_isPrefix bits _ _)
              · intro f hbitf
                have hlt := hfirst _ hbitf
                exact ⟨hheaded _ f hstalled hlt,
                  hlittle _ List.mem_cons_self hstalled f
                    (List.mem_cons_of_mem _ hbitf) hlt⟩

end Visited

end MaskLayout

end Foundation
end AvtTracker
