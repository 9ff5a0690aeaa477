import AvtTracker.Foundation.Decoder
import Mathlib.Data.List.Nodup
import Mathlib.Logic.Function.Basic

/-!
# Mask-driven layouts

A block starts with a mask, and each set bit of the mask, in ascending order,
stands for a field that follows, for nothing at all, or for a structure the
decoder does not know.  The decoder runs over the set bits, assigns what it
reads and stops at the first read that fails.

The loop is a fold over a {lit}`walk` that never looks at the block: the set
bits reached, each with the offset it was reached at.  A field of the decoded
block is what its own read gives at the offset of its bit.
-/

namespace AvtTracker
namespace Foundation

/-!
## Assigning a field
-/

/-- What reading one field does: the value it assigned, if any, and the error
it threw, if any.  A list that is filled item by item can have both. -/
structure FieldOutcome (ω α : Type) where
  stored : Option α
  failure : Option Failure
  offset : Nat
  notes : List ω

structure FieldDecoder (ω α : Type) where
  run : Bytes -> Nat -> FieldOutcome ω α

def errorOf {α : Type} : Except Failure α -> Option Failure
  | Except.ok _ => none
  | Except.error e => some e

namespace FieldDecoder

variable {ω α : Type}

def assign (d : Decoder ω α) : FieldDecoder ω α where
  run buf offset :=
    { stored := (d.run buf offset).result.toOption
      failure := errorOf (d.run buf offset).result
      offset := (d.run buf offset).offset
      notes := (d.run buf offset).notes }

/-- Push items on an assigned list, one by one. -/
def collect (item : Decoder ω α) :
    Nat -> List α -> Bytes -> Nat -> FieldOutcome ω (List α)
  | 0, items, _, offset => ⟨some items, none, offset, []⟩
  | count + 1, items, buf, offset =>
      match (item.run buf offset).result with
      | Except.error e =>
          { stored := some items
            failure := some e
            offset := (item.run buf offset).offset
            notes := (item.run buf offset).notes }
      | Except.ok a =>
          let rest := collect item count (items ++ [a]) buf
            (item.run buf offset).offset
          { rest with notes := (item.run buf offset).notes ++ rest.notes }

/-- Assign an empty list once the count is read, and push the items on it. -/
def assignEach (count : Decoder ω Nat) (item : Decoder ω α) :
    FieldDecoder ω (List α) where
  run buf offset :=
    match (count.run buf offset).result with
    | Except.error e =>
        { stored := none
          failure := some e
          offset := (count.run buf offset).offset
          notes := (count.run buf offset).notes }
    | Except.ok n =>
        let items := collect item n [] buf (count.run buf offset).offset
        { items with notes := (count.run buf offset).notes ++ items.notes }

/-- A read that does not fail assigns a value. -/
def Stores (d : FieldDecoder ω α) : Prop :=
  forall buf offset, (d.run buf offset).failure = none ->
    (d.run buf offset).stored.isSome

/-- A read that fails assigns nothing. -/
def AllOrNothing (d : FieldDecoder ω α) : Prop :=
  forall buf offset, (d.run buf offset).failure ≠ none ->
    (d.run buf offset).stored = none

theorem assign_stores (d : Decoder ω α) : (assign d).Stores := by
  intro buf offset h
  simp only [assign] at h ⊢
  cases hres : (d.run buf offset).result with
  | error e => rw [hres] at h; cases h
  | ok a => rfl

theorem assign_allOrNothing (d : Decoder ω α) : (assign d).AllOrNothing := by
  intro buf offset h
  simp only [assign] at h ⊢
  cases hres : (d.run buf offset).result with
  | error e => rfl
  | ok a => rw [hres] at h; exact absurd rfl h

theorem collect_stored_isSome (item : Decoder ω α) :
    forall (count : Nat) (items : List α) (buf : Bytes) (offset : Nat),
      (collect item count items buf offset).stored.isSome
  | 0, _, _, _ => rfl
  | count + 1, items, buf, offset => by
      unfold collect
      cases (item.run buf offset).result with
      | error e => rfl
      | ok a => exact collect_stored_isSome item count _ buf _

theorem assignEach_stores (count : Decoder ω Nat) (item : Decoder ω α) :
    (assignEach count item).Stores := by
  intro buf offset h
  simp only [assignEach] at h ⊢
  cases hres : (count.run buf offset).result with
  | error e => rw [hres] at h; cases h
  | ok n => exact collect_stored_isSome item n [] buf _

end FieldDecoder

/-!
## Walking over the set bits
-/

def setBits (mask : Nat) : List Nat :=
  (List.range 32).filter (fun bit => mask.testBit bit)

theorem setBits_ascending (mask : Nat) :
    (setBits mask).Pairwise (fun a b => a < b) :=
  List.pairwise_lt_range.filter _

theorem setBits_nodup (mask : Nat) : (setBits mask).Nodup :=
  List.nodup_range.filter _

/-- What one bit does to the cursor. -/
structure Advance (ω : Type) where
  failure : Option Failure
  offset : Nat
  notes : List ω

/-- The part of a loop over set bits that does not depend on its state. -/
structure Walk (ω : Type) where
  visits : List (Nat × Nat)
  stop : Option (Nat × Failure)
  offset : Nat
  notes : List ω

variable {ω σ : Type}

/-- Visit bits with the offset each is reached at, up to the first failure. -/
def walk (adv : Nat -> Bytes -> Nat -> Advance ω) :
    List Nat -> Bytes -> Nat -> Walk ω
  | [], _, offset => ⟨[], none, offset, []⟩
  | bit :: bits, buf, offset =>
      match (adv bit buf offset).failure with
      | some e =>
          { visits := [(bit, offset)]
            stop := some (bit, e)
            offset := (adv bit buf offset).offset
            notes := (adv bit buf offset).notes }
      | none =>
          let rest := walk adv bits buf (adv bit buf offset).offset
          { rest with
            visits := (bit, offset) :: rest.visits
            notes := (adv bit buf offset).notes ++ rest.notes }

section Walk

variable {adv : Nat -> Bytes -> Nat -> Advance ω} {buf : Bytes}

theorem walk_cons_stop {bit : Nat} {bits : List Nat} {offset : Nat}
    {e : Failure} (h : (adv bit buf offset).failure = some e) :
    walk adv (bit :: bits) buf offset =
      { visits := [(bit, offset)]
        stop := some (bit, e)
        offset := (adv bit buf offset).offset
        notes := (adv bit buf offset).notes } := by
  simp only [walk, h]

theorem walk_cons_next {bit : Nat} {bits : List Nat} {offset : Nat}
    (h : (adv bit buf offset).failure = none) :
    walk adv (bit :: bits) buf offset =
      { walk adv bits buf (adv bit buf offset).offset with
        visits := (bit, offset) ::
          (walk adv bits buf (adv bit buf offset).offset).visits
        notes := (adv bit buf offset).notes ++
          (walk adv bits buf (adv bit buf offset).offset).notes } := by
  simp only [walk, h]

theorem walk_visits_isPrefix (bits : List Nat) (offset : Nat) :
    (walk adv bits buf offset).visits.map Prod.fst <+: bits := by
  induction bits generalizing offset with
  | nil => exact List.nil_prefix
  | cons bit bits ih =>
      cases h : (adv bit buf offset).failure with
      | some e =>
          rw [walk_cons_stop h]
          exact List.prefix_append [bit] bits
      | none =>
          rw [walk_cons_next h]
          exact (List.prefix_append_right_inj [bit]).mpr (ih _)

theorem walk_visits_of_no_stop {bits : List Nat} {offset : Nat}
    (h : (walk adv bits buf offset).stop = none) :
    (walk adv bits buf offset).visits.map Prod.fst = bits := by
  induction bits generalizing offset with
  | nil => rfl
  | cons bit bits ih =>
      cases hf : (adv bit buf offset).failure with
      | some e => rw [walk_cons_stop hf] at h; cases h
      | none =>
          rw [walk_cons_next hf] at h ⊢
          simp only [List.map_cons, ih h]

theorem walk_visits_of_stop {bits : List Nat} {offset s : Nat} {e : Failure}
    (h : (walk adv bits buf offset).stop = some (s, e)) :
    exists before after, bits = before ++ s :: after ∧
      (walk adv bits buf offset).visits.map Prod.fst = before ++ [s] := by
  induction bits generalizing offset with
  | nil => cases h
  | cons bit bits ih =>
      cases hf : (adv bit buf offset).failure with
      | some e' =>
          rw [walk_cons_stop hf] at h ⊢
          injection h with h
          injection h with hs _
          subst hs
          exact ⟨[], bits, rfl, rfl⟩
      | none =>
          rw [walk_cons_next hf] at h ⊢
          rcases ih h with ⟨before, after, hbits, hvisits⟩
          refine ⟨bit :: before, after, by rw [hbits, List.cons_append], ?_⟩
          simp only [List.map_cons, hvisits, List.cons_append]

theorem walk_failure_of_visit {bits : List Nat} {offset b o : Nat}
    (hnodup : bits.Nodup) (h : (b, o) ∈ (walk adv bits buf offset).visits) :
    (adv b buf o).failure =
      ((walk adv bits buf offset).stop.filter (fun s => s.1 == b)).map
        Prod.snd := by
  induction bits generalizing offset with
  | nil => cases h
  | cons bit bits ih =>
      rcases List.nodup_cons.mp hnodup with ⟨hnot, hnodup⟩
      cases hf : (adv bit buf offset).failure with
      | some e =>
          rw [walk_cons_stop hf] at h ⊢
          rcases List.mem_singleton.mp h with ⟨rfl, rfl⟩
          rw [hf]
          simp [Option.filter]
      | none =>
          rw [walk_cons_next hf] at h ⊢
          cases h with
          | head =>
              rw [hf]
              cases hstop : (walk adv bits buf
                  (adv b buf o).offset).stop with
              | none => rfl
              | some s =>
                  rcases walk_visits_of_stop (s := s.1) (e := s.2) hstop with
                    ⟨before, after, hbits, _⟩
                  have hne : s.1 ≠ b := by
                    intro heq
                    apply hnot
                    rw [hbits, heq]
                    simp
                  simp [Option.filter, hne]
          | tail _ h => exact ih hnodup h

/-- The notes of a walk are those of its visits. -/
theorem walk_notes (bits : List Nat) (offset : Nat) :
    (walk adv bits buf offset).notes =
      (walk adv bits buf offset).visits.flatMap
        (fun visit => (adv visit.1 buf visit.2).notes) := by
  induction bits generalizing offset with
  | nil => rfl
  | cons bit bits ih =>
      cases h : (adv bit buf offset).failure with
      | some e =>
          rw [walk_cons_stop h]
          exact (List.flatMap_singleton _ _).symm
      | none =>
          rw [walk_cons_next h, ih, List.flatMap_cons]

end Walk

/-!
## The loop
-/

/-- What one pass of a loop body leaves behind. -/
structure BitOutcome (ω σ : Type) where
  state : σ
  failure : Option Failure
  offset : Nat
  notes : List ω

/-- The loop over set bits: a failure is noted and ends it. -/
def maskLoop (body : Nat -> σ -> Bytes -> Nat -> BitOutcome ω σ)
    (stopped : Nat -> Failure -> ω) :
    List Nat -> σ -> Bytes -> Nat -> BitOutcome ω σ
  | [], state, _, offset => ⟨state, none, offset, []⟩
  | bit :: bits, state, buf, offset =>
      let out := body bit state buf offset
      match out.failure with
      | some e => { out with notes := out.notes ++ [stopped bit e] }
      | none =>
          let rest := maskLoop body stopped bits out.state buf out.offset
          { rest with notes := out.notes ++ rest.notes }

/-- Run the loop over the set bits of a mask.  The loop handles its own
failures, so the decoder always succeeds. -/
def maskFields (start : Nat -> σ)
    (body : Nat -> σ -> Bytes -> Nat -> BitOutcome ω σ)
    (stopped : Nat -> Failure -> ω) (closing : σ -> List ω) (mask : Nat) :
    Decoder ω σ where
  run buf offset :=
    let out := maskLoop body stopped (setBits mask) (start mask) buf offset
    { result := Except.ok out.state
      offset := out.offset
      notes := out.notes ++ closing out.state }

/-- A four-byte mask, and the loop over its set bits. -/
def maskBlock (start : Nat -> σ)
    (body : Nat -> σ -> Bytes -> Nat -> BitOutcome ω σ)
    (stopped : Nat -> Failure -> ω) (closing : σ -> List ω) :
    Decoder ω σ := do
  let mask ← Decoder.unsigned 4
  maskFields start body stopped closing mask

def maskAt (buf : Bytes) (offset : Nat) : Nat :=
  beNat ((buf.drop offset).take 4)

theorem run_maskBlock {start : Nat -> σ}
    {body : Nat -> σ -> Bytes -> Nat -> BitOutcome ω σ}
    {stopped : Nat -> Failure -> ω} {closing : σ -> List ω} {buf : Bytes}
    {offset : Nat} (h : 4 ≤ buf.length - offset) :
    (maskBlock start body stopped closing).run buf offset =
      (maskFields start body stopped closing (maskAt buf offset)).run buf
        (offset + 4) := by
  have hmask := Decoder.run_unsigned_ok (ω := ω) h
  rw [maskBlock, Decoder.run_bind_ok (by rw [hmask]), hmask]
  rfl

theorem run_maskBlock_short {start : Nat -> σ}
    {body : Nat -> σ -> Bytes -> Nat -> BitOutcome ω σ}
    {stopped : Nat -> Failure -> ω} {closing : σ -> List ω} {buf : Bytes}
    {offset : Nat} (h : buf.length - offset < 4) :
    (maskBlock start body stopped closing).run buf offset =
      ⟨Except.error (Failure.truncated 4 (buf.length - offset) offset),
        offset, []⟩ := by
  have hmask := Decoder.run_unsigned_short (ω := ω) h
  rw [maskBlock, Decoder.run_bind_error (by rw [hmask]), hmask]

/-- The note a stop leaves. -/
def stopNotes (stopped : Nat -> Failure -> ω) :
    Option (Nat × Failure) -> List ω
  | none => []
  | some (bit, e) => [stopped bit e]

/-- The cursor, failure and notes of a body do not depend on its state. -/
def Follows (body : Nat -> σ -> Bytes -> Nat -> BitOutcome ω σ)
    (adv : Nat -> Bytes -> Nat -> Advance ω) : Prop :=
  forall bit state buf offset,
    adv bit buf offset =
      ⟨(body bit state buf offset).failure,
        (body bit state buf offset).offset,
        (body bit state buf offset).notes⟩

/-- The loop follows its walk, and its state folds the body over the visits. -/
theorem maskLoop_eq_walk {body : Nat -> σ -> Bytes -> Nat -> BitOutcome ω σ}
    {adv : Nat -> Bytes -> Nat -> Advance ω} {stopped : Nat -> Failure -> ω}
    (h : Follows body adv) (bits : List Nat) (state : σ) (buf : Bytes)
    (offset : Nat) :
    maskLoop body stopped bits state buf offset =
      { state := (walk adv bits buf offset).visits.foldl
          (fun s visit => (body visit.1 s buf visit.2).state) state
        failure := (walk adv bits buf offset).stop.map Prod.snd
        offset := (walk adv bits buf offset).offset
        notes := (walk adv bits buf offset).notes ++
          stopNotes stopped (walk adv bits buf offset).stop } := by
  induction bits generalizing state offset with
  | nil => rfl
  | cons bit bits ih =>
      have hadv := h bit state buf offset
      cases hf : (body bit state buf offset).failure with
      | some e =>
          rw [hf] at hadv
          have hfail : (adv bit buf offset).failure = some e := by rw [hadv]
          rw [walk_cons_stop hfail, maskLoop]
          simp only [hf, hadv, stopNotes, List.foldl_cons, List.foldl_nil,
            Option.map_some]
      | none =>
          rw [hf] at hadv
          have hfail : (adv bit buf offset).failure = none := by rw [hadv]
          rw [walk_cons_next hfail, maskLoop]
          simp only [hf, hadv, List.foldl_cons, List.append_assoc, ih]

/-!
## Layouts
-/

/-- What a set bit of a mask stands for. -/
inductive BitCase (Field : Type) where
  | field (f : Field)
  | reserved
  | unsupported
  deriving DecidableEq, Repr

/-- A switch over bit numbers: a case for each field, one for the reserved
bits, and a default. -/
def switchBit {Field : Type} (fields : List Field) (bitOf : Field -> Nat)
    (reserved : List Nat) (bit : Nat) : BitCase Field :=
  match fields.find? (fun f => bitOf f == bit) with
  | some f => BitCase.field f
  | none =>
      if bit ∈ reserved then BitCase.reserved else BitCase.unsupported

theorem switchBit_eq_field_iff {Field : Type} {fields : List Field}
    {bitOf : Field -> Nat} {reserved : List Nat} (hall : forall f, f ∈ fields)
    (hnodup : (fields.map bitOf).Nodup) {bit : Nat} {f : Field} :
    switchBit fields bitOf reserved bit = BitCase.field f <->
      bit = bitOf f := by
  have hinj : forall g, bitOf g = bitOf f -> g = f := fun g hg =>
    List.inj_on_of_nodup_map hnodup (hall g) (hall f) hg
  unfold switchBit
  constructor
  · intro h
    cases hfind : fields.find? (fun g => bitOf g == bit) with
    | none =>
        rw [hfind] at h
        rcases ite_eq_iff.mp h with ⟨_, h⟩ | ⟨_, h⟩ <;> cases h
    | some g =>
        rw [hfind] at h
        injection h with hg
        have hbit := List.find?_some hfind
        rw [← hg]
        exact (eq_of_beq hbit).symm
  · intro h
    cases hfind : fields.find? (fun g => bitOf g == bit) with
    | none =>
        have hno := List.find?_eq_none.mp hfind f (hall f)
        rw [h] at hno
        exact absurd (beq_self_eq_true _) hno
    | some g =>
        have hbit := List.find?_some hfind
        exact congrArg BitCase.field (hinj g ((eq_of_beq hbit).trans h))

/-- The fields behind the bits of a mask, how each is read, and the notes the
decoder takes. -/
structure MaskLayout (ω : Type) where
  Field : Type
  decEq : DecidableEq Field
  Value : Field -> Type
  bitOf : Field -> Nat
  bitCase : Nat -> BitCase Field
  bitCase_eq_field_iff : forall {bit : Nat} {f : Field},
    bitCase bit = BitCase.field f <-> bit = bitOf f
  read : (f : Field) -> FieldDecoder ω (Value f)
  stopped : Nat -> Failure -> ω
  notDecoded : List Nat -> ω

instance (L : MaskLayout ω) : DecidableEq L.Field := L.decEq

/-- A decoded block: the fields present and the bits that were skipped. -/
@[ext] structure MaskBlock (L : MaskLayout ω) where
  mask : Nat
  fields : (f : L.Field) -> Option (L.Value f)
  unsupportedBits : List Nat

namespace MaskBlock

variable {L : MaskLayout ω}

def empty (L : MaskLayout ω) (mask : Nat) : MaskBlock L where
  mask := mask
  fields _ := none
  unsupportedBits := []

def store (block : MaskBlock L) (f : L.Field) :
    Option (L.Value f) -> MaskBlock L
  | none => block
  | some v =>
      { block with fields := Function.update block.fields f (some v) }

@[simp] theorem store_mask (block : MaskBlock L) (f : L.Field)
    (stored : Option (L.Value f)) : (block.store f stored).mask = block.mask := by
  cases stored <;> rfl

@[simp] theorem store_unsupportedBits (block : MaskBlock L) (f : L.Field)
    (stored : Option (L.Value f)) :
    (block.store f stored).unsupportedBits = block.unsupportedBits := by
  cases stored <;> rfl

@[simp] theorem store_fields_self (block : MaskBlock L) (f : L.Field)
    (stored : Option (L.Value f)) :
    (block.store f stored).fields f = stored.or (block.fields f) := by
  cases stored with
  | none => rfl
  | some v => simp [store]

theorem store_fields_of_ne (block : MaskBlock L) {f g : L.Field} (h : g ≠ f)
    (stored : Option (L.Value f)) :
    (block.store f stored).fields g = block.fields g := by
  cases stored with
  | none => rfl
  | some v => exact Function.update_of_ne h _ _

end MaskBlock

namespace MaskLayout

variable {L : MaskLayout ω}

/-- One pass of the loop: a case per kind of bit. -/
def body (L : MaskLayout ω) (bit : Nat) (block : MaskBlock L) (buf : Bytes)
    (offset : Nat) : BitOutcome ω (MaskBlock L) :=
  match L.bitCase bit with
  | BitCase.field f =>
      let out := (L.read f).run buf offset
      ⟨block.store f out.stored, out.failure, out.offset, out.notes⟩
  | BitCase.reserved => ⟨block, none, offset, []⟩
  | BitCase.unsupported =>
      ⟨{ block with unsupportedBits := block.unsupportedBits ++ [bit] },
        none, offset, []⟩

/-- The part of a pass that does not depend on the block. -/
def advance (L : MaskLayout ω) (bit : Nat) (buf : Bytes) (offset : Nat) :
    Advance ω :=
  match L.bitCase bit with
  | BitCase.field f =>
      let out := (L.read f).run buf offset
      ⟨out.failure, out.offset, out.notes⟩
  | BitCase.reserved => ⟨none, offset, []⟩
  | BitCase.unsupported => ⟨none, offset, []⟩

theorem body_follows (L : MaskLayout ω) : Follows L.body L.advance := by
  intro bit block buf offset
  unfold body advance
  cases L.bitCase bit <;> rfl

/-- The walk over the set bits of a mask. -/
def walkMask (L : MaskLayout ω) (mask : Nat) (buf : Bytes) (offset : Nat) :
    Walk ω :=
  walk L.advance (setBits mask) buf offset

/-- Run the loop over the set bits of a mask on an empty block. -/
def loop (L : MaskLayout ω) (mask : Nat) (buf : Bytes) (offset : Nat) :
    BitOutcome ω (MaskBlock L) :=
  maskLoop L.body L.stopped (setBits mask) (MaskBlock.empty L mask) buf offset

/-- The note about skipped bits, if there are any. -/
def skippedNotes (L : MaskLayout ω) (block : MaskBlock L) : List ω :=
  if block.unsupportedBits.length > 0 then
    [L.notDecoded block.unsupportedBits]
  else []

def parseFields (L : MaskLayout ω) (mask : Nat) :
    Decoder ω (MaskBlock L) :=
  maskFields (MaskBlock.empty L) L.body L.stopped L.skippedNotes mask

/-- Decode a block: a four-byte mask, then its fields. -/
def parseBlock (L : MaskLayout ω) : Decoder ω (MaskBlock L) :=
  maskBlock (MaskBlock.empty L) L.body L.stopped L.skippedNotes

/-!
## The decoded block, field by field
-/

def isUnsupported (L : MaskLayout ω) (bit : Nat) : Bool :=
  match L.bitCase bit with
  | BitCase.unsupported => true
  | _ => false

def foldVisits (L : MaskLayout ω) (buf : Bytes) (visits : List (Nat × Nat))
    (block : MaskBlock L) : MaskBlock L :=
  visits.foldl (fun b visit => (L.body visit.1 b buf visit.2).state) block

theorem loop_eq (L : MaskLayout ω) (mask : Nat) (buf : Bytes) (offset : Nat) :
    L.loop mask buf offset =
      { state := L.foldVisits buf (L.walkMask mask buf offset).visits
          (MaskBlock.empty L mask)
        failure := (L.walkMask mask buf offset).stop.map Prod.snd
        offset := (L.walkMask mask buf offset).offset
        notes := (L.walkMask mask buf offset).notes ++
          stopNotes L.stopped (L.walkMask mask buf offset).stop } :=
  maskLoop_eq_walk L.body_follows _ _ _ _

theorem run_parseFields (L : MaskLayout ω) (mask : Nat) (buf : Bytes)
    (offset : Nat) :
    (L.parseFields mask).run buf offset =
      { result := Except.ok (L.loop mask buf offset).state
        offset := (L.walkMask mask buf offset).offset
        notes := (L.walkMask mask buf offset).notes ++
          stopNotes L.stopped (L.walkMask mask buf offset).stop ++
            L.skippedNotes (L.loop mask buf offset).state } := by
  change Outcome.mk (Except.ok (L.loop mask buf offset).state)
    (L.loop mask buf offset).offset ((L.loop mask buf offset).notes ++
      L.skippedNotes (L.loop mask buf offset).state) = _
  rw [loop_eq]

theorem body_mask (bit : Nat) (block : MaskBlock L) (buf : Bytes)
    (offset : Nat) : (L.body bit block buf offset).state.mask = block.mask := by
  unfold body
  cases L.bitCase bit with
  | field f => exact MaskBlock.store_mask _ _ _
  | reserved => rfl
  | unsupported => rfl

theorem body_unsupportedBits (bit : Nat) (block : MaskBlock L) (buf : Bytes)
    (offset : Nat) :
    (L.body bit block buf offset).state.unsupportedBits =
      block.unsupportedBits ++ [bit].filter L.isUnsupported := by
  unfold body isUnsupported
  cases hcase : L.bitCase bit <;> simp [hcase]

theorem body_fields_self (f : L.Field) (block : MaskBlock L) (buf : Bytes)
    (offset : Nat) :
    (L.body (L.bitOf f) block buf offset).state.fields f =
      ((L.read f).run buf offset).stored.or (block.fields f) := by
  unfold body
  rw [L.bitCase_eq_field_iff.mpr rfl]
  exact MaskBlock.store_fields_self _ _ _

theorem body_fields_of_ne {bit : Nat} {f : L.Field} (h : L.bitOf f ≠ bit)
    (block : MaskBlock L) (buf : Bytes) (offset : Nat) :
    (L.body bit block buf offset).state.fields f = block.fields f := by
  unfold body
  cases hcase : L.bitCase bit with
  | reserved => rfl
  | unsupported => rfl
  | field g =>
      have hbit := L.bitCase_eq_field_iff.mp hcase
      apply MaskBlock.store_fields_of_ne
      intro hfg
      exact h (by rw [hbit, hfg])

theorem foldVisits_cons (buf : Bytes) (visit : Nat × Nat)
    (visits : List (Nat × Nat)) (block : MaskBlock L) :
    L.foldVisits buf (visit :: visits) block =
      L.foldVisits buf visits (L.body visit.1 block buf visit.2).state :=
  rfl

theorem foldVisits_mask (buf : Bytes) (visits : List (Nat × Nat))
    (block : MaskBlock L) :
    (L.foldVisits buf visits block).mask = block.mask := by
  induction visits generalizing block with
  | nil => rfl
  | cons visit visits ih => rw [foldVisits_cons, ih, body_mask]

theorem foldVisits_unsupportedBits (buf : Bytes) (visits : List (Nat × Nat))
    (block : MaskBlock L) :
    (L.foldVisits buf visits block).unsupportedBits =
      block.unsupportedBits ++
        (visits.map Prod.fst).filter L.isUnsupported := by
  induction visits generalizing block with
  | nil => simp [foldVisits]
  | cons visit visits ih =>
      rw [foldVisits_cons, ih, body_unsupportedBits, List.append_assoc,
        ← List.filter_append, List.map_cons, List.singleton_append]

theorem foldVisits_fields_of_not_mem {buf : Bytes}
    {visits : List (Nat × Nat)} {f : L.Field}
    (h : L.bitOf f ∉ visits.map Prod.fst) (block : MaskBlock L) :
    (L.foldVisits buf visits block).fields f = block.fields f := by
  induction visits generalizing block with
  | nil => rfl
  | cons visit visits ih =>
      rw [List.map_cons, List.mem_cons, not_or] at h
      rw [foldVisits_cons, ih h.right, body_fields_of_ne h.left]

theorem foldVisits_fields_of_mem {buf : Bytes} {visits : List (Nat × Nat)}
    {f : L.Field} {offset : Nat} (hnodup : (visits.map Prod.fst).Nodup)
    (h : (L.bitOf f, offset) ∈ visits) (block : MaskBlock L) :
    (L.foldVisits buf visits block).fields f =
      ((L.read f).run buf offset).stored.or (block.fields f) := by
  induction visits generalizing block with
  | nil => cases h
  | cons visit visits ih =>
      rcases List.nodup_cons.mp hnodup with ⟨hnot, hnodup⟩
      rw [foldVisits_cons]
      cases h with
      | head =>
          rw [foldVisits_fields_of_not_mem hnot, body_fields_self]
      | tail _ h =>
          have hne : L.bitOf f ≠ visit.1 := by
            intro heq
            exact hnot (heq ▸ List.mem_map_of_mem h)
          rw [ih hnodup h, body_fields_of_ne hne]

section Loop

variable {mask offset : Nat} {buf : Bytes}

theorem walkMask_notes :
    (L.walkMask mask buf offset).notes =
      (L.walkMask mask buf offset).visits.flatMap
        (fun visit => (L.advance visit.1 buf visit.2).notes) :=
  walk_notes _ _

theorem walkMask_visits_nodup :
    ((L.walkMask mask buf offset).visits.map Prod.fst).Nodup :=
  (setBits_nodup mask).sublist (walk_visits_isPrefix _ _).sublist

@[simp] theorem loop_mask : (L.loop mask buf offset).state.mask = mask := by
  rw [loop_eq]
  exact foldVisits_mask _ _ _

theorem loop_unsupportedBits :
    (L.loop mask buf offset).state.unsupportedBits =
      ((L.walkMask mask buf offset).visits.map Prod.fst).filter
        L.isUnsupported := by
  rw [loop_eq]
  exact foldVisits_unsupportedBits _ _ _

theorem loop_fields_of_visit {f : L.Field} {o : Nat}
    (h : (L.bitOf f, o) ∈ (L.walkMask mask buf offset).visits) :
    (L.loop mask buf offset).state.fields f =
      ((L.read f).run buf o).stored := by
  rw [loop_eq]
  refine (foldVisits_fields_of_mem walkMask_visits_nodup h _).trans ?_
  exact Option.or_none

theorem loop_fields_of_unvisited {f : L.Field}
    (h : L.bitOf f ∉ (L.walkMask mask buf offset).visits.map Prod.fst) :
    (L.loop mask buf offset).state.fields f = none := by
  rw [loop_eq]
  exact foldVisits_fields_of_not_mem h _

theorem exists_visit_of_field {f : L.Field} {v : L.Value f}
    (h : (L.loop mask buf offset).state.fields f = some v) :
    exists o, (L.bitOf f, o) ∈ (L.walkMask mask buf offset).visits ∧
      ((L.read f).run buf o).stored = some v := by
  by_cases hmem : L.bitOf f ∈
      (L.walkMask mask buf offset).visits.map Prod.fst
  · rcases List.mem_map.mp hmem with ⟨⟨b, o⟩, hvisit, hb⟩
    cases hb
    exact ⟨o, hvisit, (loop_fields_of_visit hvisit).symm.trans h⟩
  · rw [loop_fields_of_unvisited hmem] at h
    cases h

end Loop

end MaskLayout

end Foundation
end AvtTracker
