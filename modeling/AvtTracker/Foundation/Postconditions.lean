import AvtTracker.Foundation.MaskLayout

/-!
# What decoders return

A decoder yields a property if every value it returns has it, whatever the
buffer and the offset.  The property of a sequence of reads is put together from
those of the reads, and the property of a block from those of its fields.
-/

namespace AvtTracker
namespace Foundation

variable {ω α β : Type}

theorem toSigned_range (width n : Nat) (h : n < 256 ^ width) :
    SignedRange width (toSigned width n) := by
  unfold SignedRange toSigned
  split_ifs <;> push_cast <;> lia

theorem toOption_eq_some {ε α : Type} {result : Except ε α} {a : α}
    (h : result.toOption = some a) : result = Except.ok a := by
  cases result with
  | error e => cases h
  | ok b => exact congrArg Except.ok (Option.some.inj h)

namespace Decoder

/-- Every value a run returns has a property. -/
def Yields (d : Decoder ω α) (P : α -> Prop) : Prop :=
  forall buf offset a, (d.run buf offset).result = Except.ok a -> P a

section Rules

variable {P : α -> Prop} {Q : β -> Prop} {d : Decoder ω α}

theorem yields_trivial (d : Decoder ω α) : d.Yields (fun _ => True) :=
  fun _ _ _ _ => trivial

theorem Yields.mono {P' : α -> Prop} (h : d.Yields P)
    (himp : forall a, P a -> P' a) : d.Yields P' :=
  fun buf offset a hrun => himp a (h buf offset a hrun)

theorem yields_pure {a : α} (h : P a) : (pure a : Decoder ω α).Yields P := by
  intro buf offset b hrun
  cases hrun
  exact h

theorem Yields.bind {next : α -> Decoder ω β} (h : d.Yields P)
    (hnext : forall a, P a -> (next a).Yields Q) : (d >>= next).Yields Q := by
  intro buf offset b hrun
  cases hfirst : (d.run buf offset).result with
  | error e =>
      rw [run_bind_error hfirst] at hrun
      cases hrun
  | ok a =>
      rw [run_bind_ok hfirst] at hrun
      exact hnext a (h buf offset a hfirst) buf _ b hrun

theorem Yields.after {next : α -> Decoder ω β}
    (hnext : forall a, (next a).Yields Q) : (d >>= next).Yields Q :=
  d.yields_trivial.bind fun a _ => hnext a

theorem yields_take (count : Nat) :
    (take count : Decoder ω Bytes).Yields (fun bytes =>
      bytes.length = count) := by
  intro buf offset bytes hrun
  by_cases hshort : buf.length - offset < count
  · rw [run_take_short hshort] at hrun
    cases hrun
  · rw [run_take_ok (Nat.not_lt.mp hshort)] at hrun
    rw [← Except.ok.inj hrun, List.length_take, List.length_drop]
    lia

theorem yields_ofExcept {result : Except String α}
    (h : forall a, result = Except.ok a -> P a) :
    (ofExcept result : Decoder ω α).Yields P := by
  intro buf offset a hrun
  cases result with
  | error message => cases hrun
  | ok b =>
      cases hrun
      exact h a rfl

theorem yields_unsigned (width : Nat) :
    (unsigned width : Decoder ω Nat).Yields (fun n => n < 256 ^ width) :=
  (yields_take width).bind fun bytes hlength =>
    yields_pure (hlength ▸ beNat_lt bytes)

theorem yields_signed (width : Nat) :
    (signed width : Decoder ω Int).Yields (SignedRange width) :=
  (yields_take width).bind fun bytes hlength =>
    yields_pure (toSigned_range width _ (hlength ▸ beNat_lt bytes))

theorem yields_optionally (condition : Bool) (h : d.Yields P) :
    (optionally condition d).Yields (fun value =>
      forall a, a ∈ value -> P a) := by
  unfold optionally
  split
  · refine h.bind fun a ha => yields_pure ?_
    rintro b ⟨⟩
    exact ha
  · exact yields_pure (fun _ hmem => nomatch hmem)

theorem yields_times (count : Nat) (h : d.Yields P) :
    (times count d).Yields (fun items => forall a, a ∈ items -> P a) := by
  induction count with
  | zero => exact yields_pure fun _ hmem => absurd hmem List.not_mem_nil
  | succ count ih =>
      refine h.bind fun a ha => ih.bind fun rest hrest => yields_pure ?_
      intro b hmem
      cases hmem with
      | head => exact ha
      | tail _ hmem => exact hrest b hmem

end Rules

end Decoder

/-!
## Fields and blocks
-/

/-- Every value a field decoder stores has a property. -/
def FieldDecoder.Yields (d : FieldDecoder ω α) (P : α -> Prop) : Prop :=
  forall buf offset a, (d.run buf offset).stored = some a -> P a

theorem FieldDecoder.yields_trivial (d : FieldDecoder ω α) :
    d.Yields (fun _ => True) :=
  fun _ _ _ _ => trivial

theorem assign_yields {d : Decoder ω α} {P : α -> Prop} (h : d.Yields P) :
    (FieldDecoder.assign d).Yields P :=
  fun buf offset a hstored => h buf offset a (toOption_eq_some hstored)

variable {L : MaskLayout ω} {P : (f : L.Field) -> L.Value f -> Prop}

theorem MaskLayout.parseFields_yields
    (h : forall f, (L.read f).Yields (P f)) (mask : Nat) :
    (L.parseFields mask).Yields (fun block => block.mask = mask ∧
      forall f v, block.fields f = some v -> P f v) := by
  intro buf offset block hrun
  rw [L.run_parseFields] at hrun
  rw [← Except.ok.inj hrun]
  constructor
  · rw [loop_eq]
    exact foldVisits_mask buf _ _
  · intro f v hfield
    rcases exists_visit_of_field hfield with ⟨o, _, hstored⟩
    exact h f buf o v hstored

theorem MaskLayout.parseBlock_yields
    (h : forall f, (L.read f).Yields (P f)) :
    L.parseBlock.Yields (fun block => block.mask < 256 ^ 4 ∧
      forall f v, block.fields f = some v -> P f v) :=
  (Decoder.yields_unsigned 4).bind fun mask hmask =>
    (L.parseFields_yields h mask).mono fun _ hblock =>
      ⟨hblock.left ▸ hmask, hblock.right⟩

end Foundation
end AvtTracker
