import AvtTracker.Foundation.MaskLayout

/-!
# Decoding a prefix and its extensions

A decoder that is short of bytes may do something else when more of them
arrive.  {lit}`Extends` describes a field decoder from this side: how many
bytes it is short of, if any; that it does the same on every extension if it is
short of none; that it runs to the end of the extension by exactly the bytes it
is short of; and that what it assigns only grows.

The law is proved for single fields, for lists filled item by item, and, by
walking over the mask, for whole blocks.
-/

namespace AvtTracker
namespace Foundation

/-- The number of bytes a failed read was short of. -/
def Failure.missing : Failure -> Nat
  | Failure.truncated requested remaining _ => requested - remaining
  | Failure.rejected _ => 0

variable {ω σ α : Type}

namespace FieldDecoder

/-- The bytes a field decoder is short of, if it fails. -/
def shortage (d : FieldDecoder ω α) (buf : Bytes) (offset : Nat) :
    Option Nat :=
  (d.run buf offset).failure.map Failure.missing

/-- How a field decoder behaves when bytes are appended to its buffer. -/
structure Extends (d : FieldDecoder ω α)
    (missing : Bytes -> Nat -> Option Nat) (le : α -> α -> Prop) : Prop where
  bounded : forall buf offset, offset ≤ buf.length ->
    offset ≤ (d.run buf offset).offset ∧
      (d.run buf offset).offset ≤ buf.length
  settled : forall buf offset, missing buf offset = none ->
    (d.run buf offset).failure = none
  stable : forall buf offset, offset ≤ buf.length ->
    missing buf offset = none ->
    forall more, d.run (buf ++ more) offset = d.run buf offset
  starved : forall buf offset k, offset ≤ buf.length ->
    missing buf offset = some k ->
    forall more : Bytes, more.length = k ->
      (d.run (buf ++ more) offset).offset = (buf ++ more).length
  grows : forall buf offset v, offset ≤ buf.length ->
    (d.run buf offset).stored = some v ->
    forall more, exists v',
      (d.run (buf ++ more) offset).stored = some v' ∧ le v v'

/-- A decoder that notes nothing. -/
def Quiet (d : FieldDecoder ω α) : Prop :=
  forall buf offset, (d.run buf offset).notes = []

theorem assign_quiet (d : Decoder ω α) [Decoder.Lawful d] :
    (assign d).Quiet :=
  Decoder.Lawful.quiet

theorem assign_of_ok {d : Decoder ω α} {buf : Bytes} {offset : Nat} {a : α}
    (h : (d.run buf offset).result = Except.ok a) :
    (assign d).run buf offset =
      ⟨some a, none, (d.run buf offset).offset, (d.run buf offset).notes⟩ := by
  simp only [assign, h]
  rfl

theorem assign_of_error {d : Decoder ω α} {buf : Bytes} {offset : Nat}
    {e : Failure} (h : (d.run buf offset).result = Except.error e) :
    (assign d).run buf offset =
      ⟨none, some e, (d.run buf offset).offset,
        (d.run buf offset).notes⟩ := by
  simp only [assign, h]
  rfl

theorem assign_extends (d : Decoder ω α) [Decoder.Lawful d] :
    (assign d).Extends (assign d).shortage Eq where
  bounded := Decoder.Lawful.bounded
  settled buf offset h := Option.map_eq_none_iff.mp h
  stable buf offset hle h more := by
    cases hres : (d.run buf offset).result with
    | error e =>
        rw [shortage, assign_of_error hres] at h
        cases h
    | ok a =>
        have hstable := Decoder.Lawful.stable (d := d) buf offset a hle hres more
        simp only [assign, hstable]
  starved buf offset k hle h more hmore := by
    cases hres : (d.run buf offset).result with
    | ok a =>
        rw [shortage, assign_of_ok hres] at h
        cases h
    | error e =>
        rw [shortage, assign_of_error hres] at h
        injection h with hk
        rcases Decoder.Lawful.starved (d := d) buf offset e hle hres with
          ⟨requested, remaining, start, he, hend⟩
        rw [he, Failure.missing] at hk
        exact hend more (by rw [hmore, hk])
  grows buf offset v hle h more := by
    cases hres : (d.run buf offset).result with
    | error e =>
        rw [assign_of_error hres] at h
        cases h
    | ok a =>
        rw [assign_of_ok hres] at h
        have hstable := Decoder.Lawful.stable (d := d) buf offset a hle hres more
        refine ⟨v, ?_, rfl⟩
        rw [assign_of_ok (hstable ▸ hres)]
        exact h

theorem run_assign_map {β : Type} (d : Decoder ω α) (g : α -> β) (buf : Bytes)
    (offset : Nat) :
    (assign (d >>= fun a => pure (g a))).run buf offset =
      ⟨((assign d).run buf offset).stored.map g,
        ((assign d).run buf offset).failure,
        ((assign d).run buf offset).offset,
        ((assign d).run buf offset).notes⟩ := by
  cases hres : (d.run buf offset).result with
  | error e =>
      rw [assign_of_error hres, assign_of_error (e := e)
        (by rw [Decoder.run_bind_error hres]), Decoder.run_bind_error hres]
      rfl
  | ok a =>
      rw [assign_of_ok hres, assign_of_ok (a := g a)
        (by rw [Decoder.run_bind_ok hres]; rfl), Decoder.run_bind_ok hres]
      simp

theorem assign_map_extends {β : Type} {d : Decoder ω α} {g : α -> β}
    {missing : Bytes -> Nat -> Option Nat} {le : α -> α -> Prop}
    {le' : β -> β -> Prop} (h : (assign d).Extends missing le)
    (hle : forall a a', le a a' -> le' (g a) (g a')) :
    (assign (d >>= fun a => pure (g a))).Extends missing le' where
  bounded buf offset := by
    rw [run_assign_map]
    exact h.bounded buf offset
  settled buf offset := by
    rw [run_assign_map]
    exact h.settled buf offset
  stable buf offset hoffset hm more := by
    rw [run_assign_map, run_assign_map, h.stable buf offset hoffset hm more]
  starved buf offset := by
    simp only [run_assign_map]
    exact h.starved buf offset
  grows buf offset v hoffset hv more := by
    rw [run_assign_map] at hv
    rcases Option.map_eq_some_iff.mp hv with ⟨a, ha, rfl⟩
    rcases h.grows buf offset a hoffset ha more with ⟨a', ha', haa'⟩
    refine ⟨g a', ?_, hle a a' haa'⟩
    simp only [run_assign_map, ha', Option.map_some]

section Collect

variable {item : Decoder ω α}

theorem collect_of_error {count : Nat} {items : List α} {buf : Bytes}
    {offset : Nat} {e : Failure}
    (h : (item.run buf offset).result = Except.error e) :
    collect item (count + 1) items buf offset =
      ⟨some items, some e, (item.run buf offset).offset,
        (item.run buf offset).notes⟩ := by
  simp only [collect, h]

theorem collect_of_ok {count : Nat} {items : List α} {buf : Bytes}
    {offset : Nat} {a : α} (h : (item.run buf offset).result = Except.ok a) :
    collect item (count + 1) items buf offset =
      { collect item count (items ++ [a]) buf (item.run buf offset).offset with
        notes := (item.run buf offset).notes ++
          (collect item count (items ++ [a]) buf
            (item.run buf offset).offset).notes } := by
  simp only [collect, h]

theorem collect_grows (count : Nat) (items : List α) (buf : Bytes)
    (offset : Nat) :
    exists got, (collect item count items buf offset).stored =
      some (items ++ got) := by
  induction count generalizing items offset with
  | zero => exact ⟨[], by rw [List.append_nil]; rfl⟩
  | succ count ih =>
      cases hres : (item.run buf offset).result with
      | error e =>
          rw [collect_of_error hres]
          exact ⟨[], by rw [List.append_nil]⟩
      | ok a =>
          rw [collect_of_ok hres]
          rcases ih (items ++ [a]) (item.run buf offset).offset with ⟨got, h⟩
          exact ⟨a :: got, by simp only [h, List.append_assoc,
            List.singleton_append]⟩

variable [Decoder.Lawful item]

theorem collect_quiet (count : Nat) (items : List α) (buf : Bytes)
    (offset : Nat) : (collect item count items buf offset).notes = [] := by
  induction count generalizing items offset with
  | zero => rfl
  | succ count ih =>
      cases hres : (item.run buf offset).result with
      | error e =>
          rw [collect_of_error hres]
          exact Decoder.Lawful.quiet buf offset
      | ok a =>
          rw [collect_of_ok hres]
          simp only [ih, Decoder.Lawful.quiet, List.append_nil]

theorem collect_bounded (count : Nat) (items : List α) {buf : Bytes}
    {offset : Nat} (hle : offset ≤ buf.length) :
    offset ≤ (collect item count items buf offset).offset ∧
      (collect item count items buf offset).offset ≤ buf.length := by
  induction count generalizing items offset with
  | zero => exact ⟨Nat.le_refl _, hle⟩
  | succ count ih =>
      have hitem := Decoder.Lawful.bounded (d := item) buf offset hle
      cases hres : (item.run buf offset).result with
      | error e =>
          rw [collect_of_error hres]
          exact hitem
      | ok a =>
          rw [collect_of_ok hres]
          have hrest := ih (items ++ [a]) hitem.right
          exact ⟨Nat.le_trans hitem.left hrest.left, hrest.right⟩

theorem collect_stable (count : Nat) (items : List α) {buf : Bytes}
    {offset : Nat} (hle : offset ≤ buf.length)
    (h : (collect item count items buf offset).failure = none)
    (more : Bytes) :
    collect item count items (buf ++ more) offset =
      collect item count items buf offset := by
  induction count generalizing items offset with
  | zero => rfl
  | succ count ih =>
      cases hres : (item.run buf offset).result with
      | error e =>
          rw [collect_of_error hres] at h
          cases h
      | ok a =>
          have hstable := Decoder.Lawful.stable (d := item) buf offset a hle
            hres more
          rw [collect_of_ok hres] at h
          rw [collect_of_ok hres, collect_of_ok (hstable ▸ hres), hstable,
            ih _ (Decoder.Lawful.bounded (d := item) buf offset hle).right h]

theorem collect_at_end (count : Nat) (items : List α) (buf : Bytes) :
    (collect item count items buf buf.length).offset = buf.length := by
  have h : _ ∧ (collect item count items buf buf.length).offset ≤ _ :=
    collect_bounded count items (Nat.le_refl buf.length)
  exact Nat.le_antisymm h.right h.left

theorem collect_starved (count : Nat) (items : List α) {buf : Bytes}
    {offset : Nat} {e : Failure} (hle : offset ≤ buf.length)
    (h : (collect item count items buf offset).failure = some e)
    {more : Bytes} (hmore : more.length = e.missing) :
    (collect item count items (buf ++ more) offset).offset =
      (buf ++ more).length := by
  induction count generalizing items offset with
  | zero => cases h
  | succ count ih =>
      cases hres : (item.run buf offset).result with
      | error e' =>
          rw [collect_of_error hres] at h
          injection h with he
          rcases Decoder.Lawful.starved (d := item) buf offset e' hle hres with
            ⟨requested, remaining, start, he', hend⟩
          have hoffset := hend more (by rw [hmore, ← he, he', Failure.missing])
          cases hres' : (item.run (buf ++ more) offset).result with
          | error e'' =>
              rw [collect_of_error hres']
              exact hoffset
          | ok a =>
              rw [collect_of_ok hres', hoffset]
              exact collect_at_end _ _ _
      | ok a =>
          have hstable := Decoder.Lawful.stable (d := item) buf offset a hle
            hres more
          rw [collect_of_ok hres] at h
          rw [collect_of_ok (hstable ▸ hres), hstable]
          exact ih _ (Decoder.Lawful.bounded (d := item) buf offset hle).right h

theorem collect_isPrefix (count : Nat) (items : List α) {buf : Bytes}
    {offset : Nat} (hle : offset ≤ buf.length) (more : Bytes) :
    exists xs ys, (collect item count items buf offset).stored = some xs ∧
      (collect item count items (buf ++ more) offset).stored = some ys ∧
      xs <+: ys := by
  induction count generalizing items offset with
  | zero => exact ⟨items, items, rfl, rfl, List.prefix_rfl⟩
  | succ count ih =>
      cases hres : (item.run buf offset).result with
      | error e =>
          have hgrows : exists got,
              (collect item _ _ _ offset).stored = some (items ++ got) :=
            collect_grows (count + 1) items (buf ++ more) offset
          rcases hgrows with ⟨got, hgot⟩
          rw [collect_of_error hres]
          exact ⟨items, items ++ got, rfl, hgot, List.prefix_append _ _⟩
      | ok a =>
          have hstable := Decoder.Lawful.stable (d := item) buf offset a hle
            hres more
          rw [collect_of_ok hres, collect_of_ok (hstable ▸ hres), hstable]
          exact ih _ (Decoder.Lawful.bounded (d := item) buf offset hle).right

end Collect

theorem assignEach_of_error {count : Decoder ω Nat} {item : Decoder ω α}
    {buf : Bytes} {offset : Nat} {e : Failure}
    (h : (count.run buf offset).result = Except.error e) :
    (assignEach count item).run buf offset =
      ⟨none, some e, (count.run buf offset).offset,
        (count.run buf offset).notes⟩ := by
  simp only [assignEach, h]

theorem assignEach_of_ok {count : Decoder ω Nat} {item : Decoder ω α}
    {buf : Bytes} {offset n : Nat}
    (h : (count.run buf offset).result = Except.ok n) :
    (assignEach count item).run buf offset =
      { collect item n [] buf (count.run buf offset).offset with
        notes := (count.run buf offset).notes ++
          (collect item n [] buf (count.run buf offset).offset).notes } := by
  simp only [assignEach, h]

/-- With more behind the buffer the count is the same, and the items start where
they did. -/
theorem assignEach_append_of_ok {count : Decoder ω Nat} {item : Decoder ω α}
    [Decoder.Lawful count] {buf : Bytes} {offset n : Nat}
    (hle : offset ≤ buf.length)
    (h : (count.run buf offset).result = Except.ok n) (more : Bytes) :
    (assignEach count item).run (buf ++ more) offset =
      { collect item n [] (buf ++ more) (count.run buf offset).offset with
        notes := (count.run buf offset).notes ++
          (collect item n [] (buf ++ more)
            (count.run buf offset).offset).notes } := by
  have hstable := Decoder.Lawful.stable (d := count) buf offset n hle h more
  rw [assignEach_of_ok (hstable ▸ h), hstable]

theorem assignEach_quiet (count : Decoder ω Nat) (item : Decoder ω α)
    [Decoder.Lawful count] [Decoder.Lawful item] :
    (assignEach count item).Quiet := by
  intro buf offset
  cases hres : (count.run buf offset).result with
  | error e =>
      rw [assignEach_of_error hres]
      exact Decoder.Lawful.quiet buf offset
  | ok n =>
      rw [assignEach_of_ok hres]
      simp only [collect_quiet, Decoder.Lawful.quiet, List.append_nil]

theorem assignEach_extends (count : Decoder ω Nat) (item : Decoder ω α)
    [Decoder.Lawful count] [Decoder.Lawful item] :
    (assignEach count item).Extends (assignEach count item).shortage
      (fun xs ys => xs <+: ys) where
  bounded buf offset hle := by
    have hcount := Decoder.Lawful.bounded (d := count) buf offset hle
    cases hres : (count.run buf offset).result with
    | error e =>
        rw [assignEach_of_error hres]
        exact hcount
    | ok n =>
        rw [assignEach_of_ok hres]
        have hitems : _ ∧ (collect item n [] buf _).offset ≤ buf.length :=
          collect_bounded n [] hcount.right
        exact ⟨Nat.le_trans hcount.left hitems.left, hitems.right⟩
  settled buf offset h := Option.map_eq_none_iff.mp h
  stable buf offset hle h more := by
    cases hres : (count.run buf offset).result with
    | error e =>
        rw [shortage, assignEach_of_error hres] at h
        cases h
    | ok n =>
        rw [shortage, assignEach_of_ok hres] at h
        rw [assignEach_of_ok hres, assignEach_append_of_ok hle hres,
          collect_stable n [] (Decoder.Lawful.bounded (d := count) buf offset
            hle).right (Option.map_eq_none_iff.mp h)]
  starved buf offset k hle h more hmore := by
    cases hres : (count.run buf offset).result with
    | error e =>
        rw [shortage, assignEach_of_error hres] at h
        injection h with hk
        rcases Decoder.Lawful.starved (d := count) buf offset e hle hres with
          ⟨requested, remaining, start, he, hend⟩
        rw [he, Failure.missing] at hk
        have hoffset := hend more (by rw [hmore, hk])
        cases hres' : (count.run (buf ++ more) offset).result with
        | error e' =>
            rw [assignEach_of_error hres']
            exact hoffset
        | ok n =>
            rw [assignEach_of_ok hres', hoffset]
            exact collect_at_end _ _ _
    | ok n =>
        rw [shortage, assignEach_of_ok hres] at h
        rcases Option.map_eq_some_iff.mp h with ⟨e, he, hk⟩
        rw [assignEach_append_of_ok hle hres]
        exact collect_starved n [] (Decoder.Lawful.bounded (d := count) buf
          offset hle).right he (by rw [hmore, hk])
  grows buf offset v hle h more := by
    cases hres : (count.run buf offset).result with
    | error e =>
        rw [assignEach_of_error hres] at h
        cases h
    | ok n =>
        have hcount := Decoder.Lawful.bounded (d := count) buf offset hle
        have hitems : exists xs ys, (collect item _ _ _ _).stored = _ ∧ _ :=
          collect_isPrefix n [] hcount.right more
        rcases hitems with ⟨xs, ys, hx, hy, hxy⟩
        rw [assignEach_of_ok hres] at h
        rw [assignEach_append_of_ok hle hres]
        have hv : xs = v := Option.some.inj (hx.symm.trans h)
        exact ⟨ys, hy, hv ▸ hxy⟩

/-- A field assigned as a whole, by a lawful decoder. -/
def Plain (d : FieldDecoder ω α) : Prop :=
  exists whole : Decoder ω α, Decoder.Lawful whole ∧ d = assign whole

theorem assign_plain (d : Decoder ω α) [Decoder.Lawful d] :
    (assign d).Plain :=
  ⟨d, inferInstance, rfl⟩

namespace Plain

variable {d : FieldDecoder ω α}

theorem quiet (h : d.Plain) : d.Quiet := by
  rcases h with ⟨whole, _, rfl⟩
  exact assign_quiet whole

theorem stores (h : d.Plain) : d.Stores := by
  rcases h with ⟨whole, _, rfl⟩
  exact assign_stores whole

theorem allOrNothing (h : d.Plain) : d.AllOrNothing := by
  rcases h with ⟨whole, _, rfl⟩
  exact assign_allOrNothing whole

theorem extends_shortage (h : d.Plain) : d.Extends d.shortage Eq := by
  rcases h with ⟨whole, _, rfl⟩
  exact assign_extends whole

end Plain

end FieldDecoder

end Foundation
end AvtTracker
