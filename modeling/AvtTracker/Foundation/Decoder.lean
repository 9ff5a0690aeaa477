import AvtTracker.Foundation.Bytes

/-!
# Sequential decoders

A decoder reads a buffer through a forward-only cursor.  A read past the end of
the buffer fails; the cursor and the notes taken so far outlive the failure.

The module defines decoders and their combinators, and {lit}`Lawful`: what a
decoder does is settled by the bytes it has read.  Bytes appended behind the
buffer do not change a successful run, and if they are exactly the bytes a
failed run was short of, the new run ends at the end of the buffer.
-/

namespace AvtTracker
namespace Foundation

/-- Why a decoder gave up: a read past the end, or a value it refused. -/
inductive Failure where
  | truncated (requested remaining offset : Nat)
  | rejected (message : String)
  deriving DecidableEq, Repr

/-- What a decoder leaves behind. -/
structure Outcome (ω α : Type) where
  result : Except Failure α
  offset : Nat
  notes : List ω

/-- A decoder with notes of type {lit}`ω`. -/
structure Decoder (ω α : Type) where
  run : Bytes -> Nat -> Outcome ω α

namespace Decoder

variable {ω α β : Type}

/-- Continue behind a successful run; a failure keeps its cursor and notes. -/
def andThen (d : Decoder ω α) (next : α -> Decoder ω β) : Decoder ω β where
  run buf offset :=
    match (d.run buf offset).result with
    | Except.error e =>
        { result := Except.error e
          offset := (d.run buf offset).offset
          notes := (d.run buf offset).notes }
    | Except.ok a =>
        let second := (next a).run buf (d.run buf offset).offset
        { second with notes := (d.run buf offset).notes ++ second.notes }

instance : Monad (Decoder ω) where
  pure a := { run := fun _ offset => ⟨Except.ok a, offset, []⟩ }
  bind := andThen

/-- Read a number of bytes, or fail without moving the cursor. -/
def take (count : Nat) : Decoder ω Bytes where
  run buf offset :=
    if buf.length - offset < count then
      { result := Except.error
          (Failure.truncated count (buf.length - offset) offset)
        offset := offset
        notes := [] }
    else
      { result := Except.ok ((buf.drop offset).take count)
        offset := offset + count
        notes := [] }

/-- Refuse a value by an error message. -/
def ofExcept : Except String α -> Decoder ω α
  | Except.ok a => pure a
  | Except.error message =>
      { run := fun _ offset =>
          ⟨Except.error (Failure.rejected message), offset, []⟩ }

def position : Decoder ω Nat where
  run _ offset := ⟨Except.ok offset, offset, []⟩

def size : Decoder ω Nat where
  run buf offset := ⟨Except.ok buf.length, offset, []⟩

def note (notes : List ω) : Decoder ω Unit where
  run _ offset := ⟨Except.ok (), offset, notes⟩

/-- Big-endian unsigned integer of {lit}`width` bytes. -/
def unsigned (width : Nat) : Decoder ω Nat := do
  let bytes ← take width
  pure (beNat bytes)

/-- Big-endian two's-complement integer of {lit}`width` bytes. -/
def signed (width : Nat) : Decoder ω Int := do
  let bytes ← take width
  pure (toSigned width (beNat bytes))

def optionally (condition : Bool) (d : Decoder ω α) :
    Decoder ω (Option α) :=
  if condition then d >>= fun a => pure (some a) else pure none

def times : Nat -> Decoder ω α -> Decoder ω (List α)
  | 0, _ => pure []
  | count + 1, d => do
      let a ← d
      let rest ← times count d
      pure (a :: rest)

/-!
## Running combinators
-/

@[simp] theorem run_pure (a : α) (buf : Bytes) (offset : Nat) :
    (pure a : Decoder ω α).run buf offset = ⟨Except.ok a, offset, []⟩ :=
  rfl

theorem run_bind_ok {d : Decoder ω α} {next : α -> Decoder ω β} {buf : Bytes}
    {offset : Nat} {a : α} (h : (d.run buf offset).result = Except.ok a) :
    (d >>= next).run buf offset =
      { (next a).run buf (d.run buf offset).offset with
        notes := (d.run buf offset).notes ++
          ((next a).run buf (d.run buf offset).offset).notes } := by
  change (andThen d next).run buf offset = _
  simp only [andThen, h]

theorem run_bind_error {d : Decoder ω α} {next : α -> Decoder ω β}
    {buf : Bytes} {offset : Nat} {e : Failure}
    (h : (d.run buf offset).result = Except.error e) :
    (d >>= next).run buf offset =
      { result := Except.error e
        offset := (d.run buf offset).offset
        notes := (d.run buf offset).notes } := by
  change (andThen d next).run buf offset = _
  simp only [andThen, h]

/-- Continue behind a run that took no notes. -/
theorem run_bind_quiet {d : Decoder ω α} {next : α -> Decoder ω β}
    {buf : Bytes} {offset o : Nat} {a : α}
    (h : d.run buf offset = ⟨Except.ok a, o, []⟩) :
    (d >>= next).run buf offset = (next a).run buf o := by
  rw [run_bind_ok (by rw [h]), h]
  rfl

theorem run_note_bind {notes : List ω} {next : Unit -> Decoder ω β}
    {buf : Bytes} {offset o : Nat} {r : Except Failure β}
    (h : (next ()).run buf offset = ⟨r, o, []⟩) :
    (note notes >>= next).run buf offset = ⟨r, o, notes⟩ := by
  rw [run_bind_ok rfl]
  simp only [note, h, List.append_nil]

theorem run_take_ok {count : Nat} {buf : Bytes} {offset : Nat}
    (h : count ≤ buf.length - offset) :
    (take count : Decoder ω Bytes).run buf offset =
      ⟨Except.ok ((buf.drop offset).take count), offset + count, []⟩ :=
  if_neg (Nat.not_lt.mpr h)

theorem run_take_short {count : Nat} {buf : Bytes} {offset : Nat}
    (h : buf.length - offset < count) :
    (take count : Decoder ω Bytes).run buf offset =
      ⟨Except.error (Failure.truncated count (buf.length - offset) offset),
        offset, []⟩ :=
  if_pos h

theorem run_unsigned_ok {width : Nat} {buf : Bytes} {offset : Nat}
    (h : width ≤ buf.length - offset) :
    (unsigned width : Decoder ω Nat).run buf offset =
      ⟨Except.ok (beNat ((buf.drop offset).take width)), offset + width,
        []⟩ := by
  have htake := run_take_ok (ω := ω) h
  rw [unsigned, run_bind_ok (by rw [htake]), htake]
  rfl

theorem run_unsigned_short {width : Nat} {buf : Bytes} {offset : Nat}
    (h : buf.length - offset < width) :
    (unsigned width : Decoder ω Nat).run buf offset =
      ⟨Except.error (Failure.truncated width (buf.length - offset) offset),
        offset, []⟩ := by
  have htake := run_take_short (ω := ω) h
  rw [unsigned, run_bind_error (by rw [htake]), htake]

/-!
## Lawful decoders
-/

/-- A decoder whose run is settled by the bytes it has read. -/
class Lawful (d : Decoder ω α) : Prop where
  quiet : forall buf offset, (d.run buf offset).notes = []
  bounded : forall buf offset, offset ≤ buf.length ->
    offset ≤ (d.run buf offset).offset ∧
      (d.run buf offset).offset ≤ buf.length
  stable : forall buf offset a, offset ≤ buf.length ->
    (d.run buf offset).result = Except.ok a ->
    forall more, d.run (buf ++ more) offset = d.run buf offset
  starved : forall buf offset e, offset ≤ buf.length ->
    (d.run buf offset).result = Except.error e ->
    exists requested remaining start,
      e = Failure.truncated requested remaining start ∧
        forall more : Bytes, more.length = requested - remaining ->
          (d.run (buf ++ more) offset).offset = (buf ++ more).length

instance lawful_pure (a : α) : Lawful (pure a : Decoder ω α) where
  quiet _ _ := rfl
  bounded _ _ h := ⟨Nat.le_refl _, h⟩
  stable _ _ _ _ _ _ := rfl
  starved _ _ _ _ h := by cases h

instance lawful_take (count : Nat) : Lawful (take count : Decoder ω Bytes) where
  quiet buf offset := by
    by_cases h : buf.length - offset < count
    · rw [run_take_short h]
    · rw [run_take_ok (Nat.not_lt.mp h)]
  bounded buf offset hle := by
    by_cases h : buf.length - offset < count
    · rw [run_take_short h]
      exact ⟨Nat.le_refl _, hle⟩
    · rw [run_take_ok (Nat.not_lt.mp h)]
      lia
  stable buf offset a hle hok more := by
    by_cases h : buf.length - offset < count
    · rw [run_take_short h] at hok
      cases hok
    · have hcount := Nat.not_lt.mp h
      rw [run_take_ok hcount,
        run_take_ok (by rw [List.length_append]; lia),
        List.drop_append_of_le_length hle,
        List.take_append_of_le_length (by rw [List.length_drop]; exact hcount)]
  starved buf offset e hle herr := by
    by_cases h : buf.length - offset < count
    · rw [run_take_short h] at herr
      injection herr with herr
      refine ⟨count, buf.length - offset, offset, herr.symm, ?_⟩
      intro more hmore
      have hlen : (buf ++ more).length = offset + count := by
        rw [List.length_append]
        lia
      rw [run_take_ok (by lia), hlen]
    · rw [run_take_ok (Nat.not_lt.mp h)] at herr
      cases herr

theorem bind_offset_of_end {d : Decoder ω α} {next : α -> Decoder ω β}
    [forall a, Lawful (next a)] {buf : Bytes} {offset : Nat}
    (h : (d.run buf offset).offset = buf.length) :
    ((d >>= next).run buf offset).offset = buf.length := by
  cases hres : (d.run buf offset).result with
  | error e => rw [run_bind_error hres, h]
  | ok a =>
      rw [run_bind_ok hres, h]
      have hb := Lawful.bounded (d := next a) buf buf.length (Nat.le_refl _)
      exact Nat.le_antisymm hb.right hb.left

instance lawful_bind (d : Decoder ω α) (next : α -> Decoder ω β) [Lawful d]
    [forall a, Lawful (next a)] : Lawful (d >>= next) where
  quiet buf offset := by
    have hd := Lawful.quiet (d := d) buf offset
    cases hres : (d.run buf offset).result with
    | error e => rw [run_bind_error hres, hd]
    | ok a => simp only [run_bind_ok hres, Lawful.quiet, List.append_nil]
  bounded buf offset hle := by
    have hd := Lawful.bounded (d := d) buf offset hle
    cases hres : (d.run buf offset).result with
    | error e =>
        rw [run_bind_error hres]
        exact hd
    | ok a =>
        rw [run_bind_ok hres]
        have hnext := Lawful.bounded (d := next a) buf _ hd.right
        exact ⟨Nat.le_trans hd.left hnext.left, hnext.right⟩
  stable buf offset b hle hok more := by
    cases hres : (d.run buf offset).result with
    | error e =>
        rw [run_bind_error hres] at hok
        cases hok
    | ok a =>
        have hd := Lawful.stable (d := d) buf offset a hle hres more
        rw [run_bind_ok hres] at hok
        have hnext := Lawful.stable (d := next a) buf _ b
          (Lawful.bounded (d := d) buf offset hle).right hok more
        rw [run_bind_ok hres, run_bind_ok (hd ▸ hres), hd, hnext]
  starved buf offset e hle herr := by
    cases hres : (d.run buf offset).result with
    | error e' =>
        rw [run_bind_error hres] at herr
        injection herr with herr
        rcases Lawful.starved (d := d) buf offset e' hle hres with
          ⟨requested, remaining, start, he, hend⟩
        refine ⟨requested, remaining, start, herr ▸ he, ?_⟩
        intro more hmore
        exact bind_offset_of_end (hend more hmore)
    | ok a =>
        have hd := Lawful.stable (d := d) buf offset a hle hres
        rw [run_bind_ok hres] at herr
        rcases Lawful.starved (d := next a) buf _ e
          (Lawful.bounded (d := d) buf offset hle).right herr with
          ⟨requested, remaining, start, he, hend⟩
        refine ⟨requested, remaining, start, he, ?_⟩
        intro more hmore
        rw [run_bind_ok ((hd more) ▸ hres), hd more]
        exact hend more hmore

instance lawful_unsigned (width : Nat) :
    Lawful (unsigned width : Decoder ω Nat) :=
  inferInstanceAs (Lawful (take width >>= fun bytes => pure (beNat bytes)))

instance lawful_signed (width : Nat) :
    Lawful (signed width : Decoder ω Int) :=
  inferInstanceAs (Lawful
    (take width >>= fun bytes => pure (toSigned width (beNat bytes))))

instance lawful_optionally (condition : Bool) (d : Decoder ω α) [Lawful d] :
    Lawful (optionally condition d) := by
  cases condition
  · exact lawful_pure none
  · exact lawful_bind d _

instance lawful_times (count : Nat) (d : Decoder ω α) [Lawful d] :
    Lawful (times count d) := by
  induction count with
  | zero => exact lawful_pure []
  | succ count ih => exact lawful_bind d _

/-- Bytes of the right number are not refused, so refusing is no obstacle. -/
theorem lawful_take_ofExcept {count : Nat} {decode : Bytes -> Except String α}
    (h : forall bytes : Bytes, bytes.length = count ->
      exists a, decode bytes = Except.ok a) :
    Lawful (take count >>= fun bytes => (ofExcept (decode bytes) :
      Decoder ω α)) := by
  rcases h (List.replicate count 0) List.length_replicate with ⟨default, _⟩
  let value (bytes : Bytes) : α := (decode bytes).toOption.getD default
  have heq : (take count >>= fun bytes =>
      (ofExcept (decode bytes) : Decoder ω α)) =
      take count >>= fun bytes => pure (value bytes) := by
    suffices hrun : forall buf offset,
        (take count >>= fun bytes =>
          (ofExcept (decode bytes) : Decoder ω α)).run buf offset =
        (take count >>= fun bytes =>
          (pure (value bytes) : Decoder ω α)).run buf offset from
      congrArg Decoder.mk (funext fun buf => funext (hrun buf))
    intro buf offset
    by_cases hlt : buf.length - offset < count
    · rw [run_bind_error (by rw [run_take_short hlt]),
        run_bind_error (by rw [run_take_short hlt])]
    · have hcount := Nat.not_lt.mp hlt
      have hlen : ((buf.drop offset).take count).length = count := by
        rw [List.length_take, List.length_drop, Nat.min_eq_left hcount]
      rcases h _ hlen with ⟨a, ha⟩
      have hvalue : value ((buf.drop offset).take count) = a := by
        simp only [value, ha]
        rfl
      rw [run_bind_ok (by rw [run_take_ok hcount]),
        run_bind_ok (by rw [run_take_ok hcount]), ha, hvalue]
      rfl
  rw [heq]
  exact inferInstance

end Decoder

end Foundation
end AvtTracker
