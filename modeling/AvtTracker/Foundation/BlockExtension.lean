import AvtTracker.Foundation.MaskExtension

/-!
# Walks and blocks over extensions

A walk is settled if no visit is short of bytes; then it is the same on every
extension.  Otherwise, on the extension by exactly the bytes its first short
visit is short of, the walk runs to the end of the buffer.
-/

namespace AvtTracker
namespace Foundation

variable {ω σ : Type}

/-- How the passes of a walk behave when bytes are appended to the buffer. -/
structure WalkExtends (adv : Nat -> Bytes -> Nat -> Advance ω)
    (missing : Nat -> Bytes -> Nat -> Option Nat) : Prop where
  bounded : forall bit buf offset, offset ≤ buf.length ->
    offset ≤ (adv bit buf offset).offset ∧
      (adv bit buf offset).offset ≤ buf.length
  settled : forall bit buf offset, missing bit buf offset = none ->
    (adv bit buf offset).failure = none
  stable : forall bit buf offset, offset ≤ buf.length ->
    missing bit buf offset = none ->
    forall more, adv bit (buf ++ more) offset = adv bit buf offset
  starved : forall bit buf offset k, offset ≤ buf.length ->
    missing bit buf offset = some k ->
    forall more : Bytes, more.length = k ->
      (adv bit (buf ++ more) offset).offset = (buf ++ more).length

/-- The bytes the first short visit of a walk is short of. -/
def walkMissing (adv : Nat -> Bytes -> Nat -> Advance ω)
    (missing : Nat -> Bytes -> Nat -> Option Nat) :
    List Nat -> Bytes -> Nat -> Option Nat
  | [], _, _ => none
  | bit :: bits, buf, offset =>
      match missing bit buf offset with
      | some k => some k
      | none => walkMissing adv missing bits buf (adv bit buf offset).offset

section Walk

variable {adv : Nat -> Bytes -> Nat -> Advance ω}
variable {missing : Nat -> Bytes -> Nat -> Option Nat}

theorem walk_append {done rest : List Nat} {buf : Bytes} {offset : Nat}
    (h : (walk adv done buf offset).stop = none) :
    walk adv (done ++ rest) buf offset =
      { walk adv rest buf (walk adv done buf offset).offset with
        visits := (walk adv done buf offset).visits ++
          (walk adv rest buf (walk adv done buf offset).offset).visits
        notes := (walk adv done buf offset).notes ++
          (walk adv rest buf (walk adv done buf offset).offset).notes } := by
  induction done generalizing offset with
  | nil => rfl
  | cons bit done ih =>
      cases hf : (adv bit buf offset).failure with
      | some e => rw [walk_cons_stop hf] at h; cases h
      | none =>
          rw [walk_cons_next hf] at h
          rw [List.cons_append, walk_cons_next hf, walk_cons_next hf, ih h]
          simp only [List.cons_append, List.append_assoc]

theorem walk_bounded (hadv : WalkExtends adv missing) (bits : List Nat)
    {buf : Bytes} {offset : Nat} (hle : offset ≤ buf.length) :
    offset ≤ (walk adv bits buf offset).offset ∧
      (walk adv bits buf offset).offset ≤ buf.length := by
  induction bits generalizing offset with
  | nil => exact ⟨Nat.le_refl _, hle⟩
  | cons bit bits ih =>
      have hbit := hadv.bounded bit buf offset hle
      cases hf : (adv bit buf offset).failure with
      | some e =>
          rw [walk_cons_stop hf]
          exact hbit
      | none =>
          rw [walk_cons_next hf]
          have hrest := ih hbit.right
          exact ⟨Nat.le_trans hbit.left hrest.left, hrest.right⟩

theorem walk_at_end (hadv : WalkExtends adv missing) (bits : List Nat)
    (buf : Bytes) :
    (walk adv bits buf buf.length).offset = buf.length := by
  have h := walk_bounded hadv bits (Nat.le_refl buf.length)
  exact Nat.le_antisymm h.right h.left

theorem walk_visits_le (hadv : WalkExtends adv missing) {bits : List Nat}
    {buf : Bytes} {offset : Nat} (hle : offset ≤ buf.length)
    {visit : Nat × Nat} (h : visit ∈ (walk adv bits buf offset).visits) :
    visit.2 ≤ buf.length := by
  induction bits generalizing offset with
  | nil => cases h
  | cons bit bits ih =>
      cases hf : (adv bit buf offset).failure with
      | some e =>
          rw [walk_cons_stop hf] at h
          rw [List.mem_singleton.mp h]
          exact hle
      | none =>
          rw [walk_cons_next hf] at h
          cases h with
          | head => exact hle
          | tail _ h => exact ih (hadv.bounded bit buf offset hle).right h

theorem walk_settled (hadv : WalkExtends adv missing) {bits : List Nat}
    {buf : Bytes} {offset : Nat}
    (h : walkMissing adv missing bits buf offset = none) :
    (walk adv bits buf offset).stop = none := by
  induction bits generalizing offset with
  | nil => rfl
  | cons bit bits ih =>
      cases hm : missing bit buf offset with
      | some k => simp [walkMissing, hm] at h
      | none =>
          simp only [walkMissing, hm] at h
          rw [walk_cons_next (hadv.settled bit buf offset hm)]
          exact ih h

theorem walk_stable (hadv : WalkExtends adv missing) {bits : List Nat}
    {buf : Bytes} {offset : Nat} (hle : offset ≤ buf.length)
    (h : walkMissing adv missing bits buf offset = none) (more : Bytes) :
    walk adv bits (buf ++ more) offset = walk adv bits buf offset := by
  induction bits generalizing offset with
  | nil => rfl
  | cons bit bits ih =>
      cases hm : missing bit buf offset with
      | some k => simp [walkMissing, hm] at h
      | none =>
          simp only [walkMissing, hm] at h
          have hbit := hadv.stable bit buf offset hle hm more
          have hok := hadv.settled bit buf offset hm
          rw [walk_cons_next hok, walk_cons_next (by rw [hbit, hok]), hbit,
            ih (hadv.bounded bit buf offset hle).right h]

theorem walk_starved (hadv : WalkExtends adv missing) {bits : List Nat}
    {buf : Bytes} {offset k : Nat} (hle : offset ≤ buf.length)
    (h : walkMissing adv missing bits buf offset = some k)
    {more : Bytes} (hmore : more.length = k) :
    (walk adv bits (buf ++ more) offset).offset = (buf ++ more).length := by
  induction bits generalizing offset with
  | nil => cases h
  | cons bit bits ih =>
      cases hm : missing bit buf offset with
      | some k' =>
          simp only [walkMissing, hm] at h
          injection h with hk
          have hend := hadv.starved bit buf offset k' hle hm more
            (by rw [hmore, hk])
          cases hf : (adv bit (buf ++ more) offset).failure with
          | some e =>
              rw [walk_cons_stop hf]
              exact hend
          | none =>
              rw [walk_cons_next hf, hend]
              exact walk_at_end hadv bits _
      | none =>
          simp only [walkMissing, hm] at h
          have hbit := hadv.stable bit buf offset hle hm more
          have hok := hadv.settled bit buf offset hm
          rw [walk_cons_next (by rw [hbit, hok]), hbit]
          exact ih (hadv.bounded bit buf offset hle).right h

/-- If a visit fails whenever it is short, the visits made on a prefix are made
on every extension, and more may follow. -/
theorem walk_visits_grow (hadv : WalkExtends adv missing)
    (hflat : forall bit buf offset, missing bit buf offset ≠ none ->
      (adv bit buf offset).failure ≠ none)
    (bits : List Nat) {buf : Bytes} {offset : Nat} (hle : offset ≤ buf.length)
    (more : Bytes) :
    (walk adv bits buf offset).visits <+:
      (walk adv bits (buf ++ more) offset).visits := by
  induction bits generalizing offset with
  | nil => exact List.prefix_rfl
  | cons bit bits ih =>
      cases hf : (adv bit buf offset).failure with
      | some e =>
          rw [walk_cons_stop hf]
          cases hf' : (adv bit (buf ++ more) offset).failure with
          | some e' =>
              simp only [walk_cons_stop hf', List.prefix_rfl]
          | none =>
              rw [walk_cons_next hf']
              exact List.prefix_append [(bit, offset)] _
      | none =>
          have hm : missing bit buf offset = none := by
            by_contra hm
            exact hflat bit buf offset hm hf
          have hbit := hadv.stable bit buf offset hle hm more
          rw [walk_cons_next hf, walk_cons_next (by rw [hbit, hf]), hbit]
          exact (List.prefix_append_right_inj [(bit, offset)]).mpr
            (ih (hadv.bounded bit buf offset hle).right)

end Walk

/-!
## Blocks as fields
-/

/-- A pass that is not short does the same on every extension. -/
def BodyStable (body : Nat -> σ -> Bytes -> Nat -> BitOutcome ω σ)
    (missing : Nat -> Bytes -> Nat -> Option Nat) : Prop :=
  forall bit state buf offset, offset ≤ buf.length ->
    missing bit buf offset = none ->
    forall more, body bit state (buf ++ more) offset =
      body bit state buf offset

/-- The bytes a block is short of: those of its mask, or of its walk. -/
def blockMissing (adv : Nat -> Bytes -> Nat -> Advance ω)
    (missing : Nat -> Bytes -> Nat -> Option Nat) (buf : Bytes)
    (offset : Nat) : Option Nat :=
  if buf.length - offset < 4 then some (4 - (buf.length - offset))
  else walkMissing adv missing (setBits (maskAt buf offset)) buf (offset + 4)

theorem maskAt_append {buf : Bytes} {offset : Nat}
    (h : 4 ≤ buf.length - offset) (more : Bytes) :
    maskAt (buf ++ more) offset = maskAt buf offset := by
  unfold maskAt
  rw [List.drop_append_of_le_length (by lia),
    List.take_append_of_le_length (by rw [List.length_drop]; exact h)]

section Block

variable {adv : Nat -> Bytes -> Nat -> Advance ω}
variable {missing : Nat -> Bytes -> Nat -> Option Nat}
variable {body : Nat -> σ -> Bytes -> Nat -> BitOutcome ω σ}
variable {stopped : Nat -> Failure -> ω} {start : Nat -> σ}
variable {closing : σ -> List ω} {le : σ -> σ -> Prop}

theorem maskLoop_stable (hfollows : Follows body adv)
    (hadv : WalkExtends adv missing) (hbody : BodyStable body missing)
    {bits : List Nat} (state : σ) {buf : Bytes} {offset : Nat}
    (hle : offset ≤ buf.length)
    (h : walkMissing adv missing bits buf offset = none) (more : Bytes) :
    maskLoop body stopped bits state (buf ++ more) offset =
      maskLoop body stopped bits state buf offset := by
  induction bits generalizing state offset with
  | nil => rfl
  | cons bit bits ih =>
      cases hm : missing bit buf offset with
      | some k => simp [walkMissing, hm] at h
      | none =>
          simp only [walkMissing, hm] at h
          have hok := hadv.settled bit buf offset hm
          have hoffset := hadv.bounded bit buf offset hle
          rw [hfollows bit state buf offset] at hok hoffset h
          have hok' : (body bit state buf offset).failure = none := hok
          simp only [maskLoop, hbody bit state buf offset hle hm more, hok',
            ih _ hoffset.right h]

theorem run_maskFields_offset (hfollows : Follows body adv) (mask : Nat)
    (buf : Bytes) (offset : Nat) :
    ((maskFields start body stopped closing mask).run buf offset).offset =
      (walk adv (setBits mask) buf offset).offset := by
  simp only [maskFields, maskLoop_eq_walk hfollows]

/-- A block decoder as a field: short of its mask, or of what its walk is
short of. -/
theorem maskBlock_extends (hfollows : Follows body adv)
    (hadv : WalkExtends adv missing) (hbody : BodyStable body missing)
    (hgrows : forall mask buf offset more, offset ≤ buf.length ->
      le (maskLoop body stopped (setBits mask) (start mask) buf offset).state
        (maskLoop body stopped (setBits mask) (start mask) (buf ++ more)
          offset).state) :
    (FieldDecoder.assign (maskBlock start body stopped closing)).Extends
      (blockMissing adv missing) le where
  bounded buf offset hle := by
    simp only [FieldDecoder.assign]
    by_cases h : buf.length - offset < 4
    · rw [run_maskBlock_short h]
      exact ⟨Nat.le_refl _, hle⟩
    · rw [run_maskBlock (Nat.not_lt.mp h), run_maskFields_offset hfollows]
      have hnext : offset + 4 ≤ buf.length := by lia
      have hwalk := walk_bounded hadv (setBits (maskAt buf offset)) hnext
      exact ⟨by lia, hwalk.right⟩
  settled buf offset h := by
    by_cases hlen : buf.length - offset < 4
    · simp [blockMissing, hlen] at h
    · simp only [FieldDecoder.assign, run_maskBlock (Nat.not_lt.mp hlen)]
      rfl
  stable buf offset hle h more := by
    by_cases hlen : buf.length - offset < 4
    · simp [blockMissing, hlen] at h
    · rw [blockMissing, if_neg hlen] at h
      have h4 := Nat.not_lt.mp hlen
      have h4' : 4 ≤ (buf ++ more).length - offset := by
        rw [List.length_append]
        lia
      have hloop : maskLoop body stopped _ _ (buf ++ more) _ = _ :=
        maskLoop_stable hfollows hadv hbody (start (maskAt buf offset))
          (by lia) h more
      simp only [FieldDecoder.assign, run_maskBlock h4, run_maskBlock h4',
        maskAt_append h4, maskFields, hloop]
  starved buf offset k hle h more hmore := by
    simp only [FieldDecoder.assign]
    by_cases hlen : buf.length - offset < 4
    · rw [blockMissing, if_pos hlen] at h
      injection h with hk
      have htotal : (buf ++ more).length = offset + 4 := by
        rw [List.length_append]
        lia
      rw [run_maskBlock (by lia), run_maskFields_offset hfollows, ← htotal]
      exact walk_at_end hadv _ _
    · rw [blockMissing, if_neg hlen] at h
      have h4 := Nat.not_lt.mp hlen
      rw [run_maskBlock (by rw [List.length_append]; lia),
        run_maskFields_offset hfollows, maskAt_append h4]
      exact walk_starved hadv (by lia) h hmore
  grows buf offset v hle h more := by
    by_cases hlen : buf.length - offset < 4
    · rw [FieldDecoder.assign_of_error (by rw [run_maskBlock_short hlen])] at h
      cases h
    · have h4 := Nat.not_lt.mp hlen
      have h4' : 4 ≤ (buf ++ more).length - offset := by
        rw [List.length_append]
        lia
      simp only [FieldDecoder.assign, run_maskBlock h4, maskFields,
        Except.toOption] at h
      injection h with hv
      simp only [FieldDecoder.assign, run_maskBlock h4', maskAt_append h4,
        maskFields, Except.toOption]
      exact ⟨_, rfl, hv ▸ hgrows _ buf _ more (by lia)⟩

end Block

/-!
## Layouts
-/

namespace MaskLayout

variable {L : MaskLayout ω}

/-- The bytes a pass of a layout is short of, from those of its fields. -/
def missing (L : MaskLayout ω)
    (fieldMissing : L.Field -> Bytes -> Nat -> Option Nat) (bit : Nat)
    (buf : Bytes) (offset : Nat) : Option Nat :=
  match L.bitCase bit with
  | BitCase.field f => fieldMissing f buf offset
  | BitCase.reserved => none
  | BitCase.unsupported => none

section Extends

variable {fieldMissing : L.Field -> Bytes -> Nat -> Option Nat}
variable {le : (f : L.Field) -> L.Value f -> L.Value f -> Prop}
variable (h : forall f, (L.read f).Extends (fieldMissing f) (le f))

include h

theorem advance_extends :
    WalkExtends L.advance (L.missing fieldMissing) where
  bounded bit buf offset hle := by
    unfold advance
    cases L.bitCase bit with
    | field f => exact (h f).bounded buf offset hle
    | reserved => exact ⟨Nat.le_refl _, hle⟩
    | unsupported => exact ⟨Nat.le_refl _, hle⟩
  settled bit buf offset hm := by
    unfold missing at hm
    unfold advance
    cases hcase : L.bitCase bit with
    | field f =>
        rw [hcase] at hm
        exact (h f).settled buf offset hm
    | reserved => rfl
    | unsupported => rfl
  stable bit buf offset hle hm more := by
    unfold missing at hm
    unfold advance
    cases hcase : L.bitCase bit with
    | field f =>
        rw [hcase] at hm
        simp only [(h f).stable buf offset hle hm more]
    | reserved => rfl
    | unsupported => rfl
  starved bit buf offset k hle hm more hmore := by
    unfold missing at hm
    unfold advance
    cases hcase : L.bitCase bit with
    | field f =>
        rw [hcase] at hm
        exact (h f).starved buf offset k hle hm more hmore
    | reserved => rw [hcase] at hm; cases hm
    | unsupported => rw [hcase] at hm; cases hm

theorem body_stable : BodyStable L.body (L.missing fieldMissing) := by
  intro bit state buf offset hle hm more
  unfold missing at hm
  unfold body
  cases hcase : L.bitCase bit with
  | field f =>
      rw [hcase] at hm
      simp only [(h f).stable buf offset hle hm more]
  | reserved => rfl
  | unsupported => rfl

end Extends

/-- The bytes the fields of a layout are short of when they fail. -/
def shortage (L : MaskLayout ω) (f : L.Field) (buf : Bytes) (offset : Nat) :
    Option Nat :=
  (L.read f).shortage buf offset

theorem shortage_flat (bit : Nat) (buf : Bytes) (offset : Nat)
    (h : L.missing L.shortage bit buf offset ≠ none) :
    (L.advance bit buf offset).failure ≠ none := by
  unfold missing at h
  unfold advance
  cases hcase : L.bitCase bit with
  | field f =>
      rw [hcase] at h
      intro hf
      exact h (Option.map_eq_none_iff.mpr hf)
  | reserved => rw [hcase] at h; exact absurd rfl h
  | unsupported => rw [hcase] at h; exact absurd rfl h

end MaskLayout

/-- Every field of a block is present in another, with a value at least as
far. -/
structure MaskBlock.Le {L : MaskLayout ω}
    (le : (f : L.Field) -> L.Value f -> L.Value f -> Prop)
    (block block' : MaskBlock L) : Prop where
  mask_eq : block.mask = block'.mask
  fields : forall f v, block.fields f = some v ->
    exists v', block'.fields f = some v' ∧ le f v v'
  unsupportedBits : block.unsupportedBits <+: block'.unsupportedBits

namespace MaskLayout

variable {L : MaskLayout ω}
variable {le : (f : L.Field) -> L.Value f -> L.Value f -> Prop}

/-- A block whose fields fail when they are short only gains from more
bytes. -/
theorem loop_grows (h : forall f, (L.read f).Extends (L.shortage f) (le f))
    (mask : Nat) (buf : Bytes) (offset : Nat) (more : Bytes)
    (hle : offset ≤ buf.length) :
    (L.loop mask buf offset).state.Le le
      (L.loop mask (buf ++ more) offset).state := by
  have hadv := advance_extends h
  have hgrow : (L.walkMask mask buf offset).visits <+:
      (L.walkMask mask (buf ++ more) offset).visits :=
    walk_visits_grow hadv shortage_flat (setBits mask) hle more
  refine ⟨by rw [loop_mask, loop_mask], ?_, ?_⟩
  · intro f v hv
    rcases exists_visit_of_field hv with ⟨o, hvisit, hstored⟩
    rw [loop_fields_of_visit (hgrow.subset hvisit)]
    exact (h f).grows buf o v (walk_visits_le hadv hle hvisit) hstored more
  · rw [loop_unsupportedBits, loop_unsupportedBits]
    exact (hgrow.map Prod.fst).filter _

theorem parseBlock_extends
    (h : forall f, (L.read f).Extends (L.shortage f) (le f)) :
    (FieldDecoder.assign L.parseBlock).Extends
      (blockMissing L.advance (L.missing L.shortage))
      (MaskBlock.Le le) :=
  maskBlock_extends L.body_follows (advance_extends h) (body_stable h)
    (loop_grows h)

end MaskLayout

end Foundation
end AvtTracker
