import AvtTracker.Foundation.MaskLayout

/-!
# Wire formats

A wire format says which values go over the wire, how each is encoded, and
which value a decoder should make of it.  A decoder reads a format if it turns
every encoding, wherever it stands in a buffer, into its meaning, ends right
behind it and notes nothing.
-/

namespace AvtTracker
namespace Foundation

/-- A buffer holds bytes at an offset. -/
def Holds (buf : Bytes) (offset : Nat) (bytes : Bytes) : Prop :=
  bytes <+: buf.drop offset

theorem holds_append_iff {buf xs ys : Bytes} {offset : Nat} :
    Holds buf offset (xs ++ ys) <->
      Holds buf offset xs ∧ Holds buf (offset + xs.length) ys := by
  unfold Holds
  constructor
  · rintro ⟨rest, h⟩
    constructor
    · exact ⟨ys ++ rest, by rw [← h, List.append_assoc]⟩
    · refine ⟨rest, ?_⟩
      rw [← List.drop_drop, ← h, List.append_assoc, List.drop_left]
  · rintro ⟨⟨rest, h⟩, ⟨rest', h'⟩⟩
    rw [← List.drop_drop, ← h, List.drop_left] at h'
    exact ⟨rest', by rw [← h, ← h', List.append_assoc]⟩

theorem holds_self (bytes : Bytes) : Holds bytes 0 bytes :=
  List.prefix_rfl

theorem Holds.take_drop {buf bytes : Bytes} {offset : Nat}
    (h : Holds buf offset bytes) :
    (buf.drop offset).take bytes.length = bytes :=
  (List.prefix_iff_eq_take.mp h).symm

theorem Holds.length_le {buf bytes : Bytes} {offset : Nat}
    (h : Holds buf offset bytes) : bytes.length ≤ buf.length - offset := by
  have hlen := List.IsPrefix.length_le h
  rwa [List.length_drop] at hlen

/-- Values on the wire: their encodings and what a decoder makes of them. -/
structure WireFormat (α : Type) where
  Wire : Type
  encode : Wire -> Bytes
  meaning : Wire -> α

variable {ω α β : Type}

/-- A decoder turns the given bytes into a value, wherever they stand. -/
def Decodes (d : Decoder ω α) (bytes : Bytes) (a : α) : Prop :=
  forall buf offset, Holds buf offset bytes ->
    d.run buf offset = ⟨Except.ok a, offset + bytes.length, []⟩

/-- A decoder turns every encoding of a format into its meaning. -/
def Reads (d : Decoder ω α) (W : WireFormat α) : Prop :=
  forall w, Decodes d (W.encode w) (W.meaning w)

/-- A field decoder assigns the meaning of every encoding of a format. -/
def FieldReads (d : FieldDecoder ω α) (W : WireFormat α) : Prop :=
  forall w buf offset, Holds buf offset (W.encode w) ->
    d.run buf offset =
      ⟨some (W.meaning w), none, offset + (W.encode w).length, []⟩

/-!
## Composing decoders
-/

theorem decodes_pure (a : α) : Decodes (pure a : Decoder ω α) [] a := by
  intro buf offset _
  rfl

theorem Decodes.bind {d : Decoder ω α} {next : α -> Decoder ω β}
    {xs ys : Bytes} {a : α} {b : β} (h : Decodes d xs a)
    (hnext : Decodes (next a) ys b) : Decodes (d >>= next) (xs ++ ys) b := by
  intro buf offset hholds
  rcases holds_append_iff.mp hholds with ⟨hx, hy⟩
  have hd := h buf offset hx
  rw [Decoder.run_bind_ok (by rw [hd]), hd, hnext buf _ hy,
    List.length_append, Nat.add_assoc]
  rfl

theorem Decodes.map {d : Decoder ω α} {f : α -> β} {xs : Bytes} {a : α}
    (h : Decodes d xs a) : Decodes (d >>= fun x => pure (f x)) xs (f a) := by
  have hbind : Decodes (d >>= fun x => pure (f x)) (xs ++ []) (f a) :=
    h.bind (decodes_pure (f a))
  rwa [List.append_nil] at hbind

theorem decodes_take (bytes : Bytes) :
    Decodes (Decoder.take bytes.length : Decoder ω Bytes) bytes bytes := by
  intro buf offset h
  rw [Decoder.run_take_ok h.length_le, h.take_drop]

theorem decodes_take_ofExcept {decode : Bytes -> Except String α}
    {bytes : Bytes} {a : α} (h : decode bytes = Except.ok a) :
    Decodes (Decoder.take bytes.length >>= fun bytes =>
      (Decoder.ofExcept (decode bytes) : Decoder ω α)) bytes a := by
  have hcodec : Decodes (Decoder.ofExcept (decode bytes) : Decoder ω α) [] a := by
    rw [h]
    exact decodes_pure a
  have hbind : Decodes (Decoder.take bytes.length >>= fun bytes =>
      (Decoder.ofExcept (decode bytes) : Decoder ω α)) (bytes ++ []) a :=
    (decodes_take bytes).bind hcodec
  rwa [List.append_nil] at hbind

theorem decodes_unsigned {width n : Nat} (h : n < 256 ^ width) :
    Decodes (Decoder.unsigned width : Decoder ω Nat) (beBytes width n) n := by
  have htake := (decodes_take (ω := ω) (beBytes width n)).map (f := beNat)
  rwa [beBytes_length, beNat_beBytes_of_lt h] at htake

theorem decodes_signed {width : Nat} {z : Int} (h : SignedRange width z) :
    Decodes (Decoder.signed width : Decoder ω Int)
      (beBytes width (ofSigned width z)) z := by
  have htake := (decodes_take (ω := ω) (beBytes width (ofSigned width z))).map
    (f := fun bytes => toSigned width (beNat bytes))
  rwa [beBytes_length, beNat_beBytes_of_lt (ofSigned_lt width z),
    toSigned_ofSigned h] at htake

theorem decodes_optionally {d : Decoder ω α} {bytes : Bytes} {a : α}
    (condition : Bool) (h : Decodes d bytes a) :
    Decodes (Decoder.optionally condition d)
      (if condition then bytes else []) (if condition then some a else none) := by
  cases condition with
  | false => exact decodes_pure none
  | true => exact h.map

theorem decodes_times {d : Decoder ω α} {β : Type} {encode : β -> Bytes}
    {meaning : β -> α} (h : forall w, Decodes d (encode w) (meaning w)) :
    forall ws : List β,
      Decodes (Decoder.times ws.length d) (ws.flatMap encode)
        (ws.map meaning)
  | [] => decodes_pure []
  | w :: ws => (h w).bind ((decodes_times h ws).map)

/-!
## Basic formats
-/

/-- Unsigned integers of a number of bytes. -/
def unsignedFormat (width : Nat) : WireFormat Nat where
  Wire := Fin (256 ^ width)
  encode n := beBytes width n
  meaning n := n

/-- Two's-complement integers of a number of bytes. -/
def signedFormat (width : Nat) : WireFormat Int where
  Wire := { z : Int // SignedRange width z }
  encode z := beBytes width (ofSigned width z)
  meaning z := z

def WireFormat.map (f : α -> β) (W : WireFormat α) : WireFormat β where
  Wire := W.Wire
  encode := W.encode
  meaning w := f (W.meaning w)

def WireFormat.pair (V : WireFormat α) (W : WireFormat β) :
    WireFormat (α × β) where
  Wire := V.Wire × W.Wire
  encode w := V.encode w.1 ++ W.encode w.2
  meaning w := (V.meaning w.1, W.meaning w.2)

/-- A count byte and that many values. -/
def countedFormat (W : WireFormat α) : WireFormat (List α) where
  Wire := { ws : List W.Wire // ws.length < 256 }
  encode ws := beBytes 1 ws.val.length ++ ws.val.flatMap W.encode
  meaning ws := ws.val.map W.meaning

/-- A number of arbitrary bytes. -/
def rawFormat (count : Nat) : WireFormat Bytes where
  Wire := { bytes : Bytes // bytes.length = count }
  encode bytes := bytes
  meaning bytes := bytes

/-- A length byte and that many arbitrary bytes. -/
def prefixedFormat : WireFormat Bytes where
  Wire := { bytes : Bytes // bytes.length < 256 }
  encode bytes := beBytes 1 bytes.val.length ++ bytes
  meaning bytes := bytes

theorem reads_unsigned (width : Nat) :
    Reads (Decoder.unsigned width : Decoder ω Nat) (unsignedFormat width) :=
  fun n => decodes_unsigned n.isLt

theorem reads_signed (width : Nat) :
    Reads (Decoder.signed width : Decoder ω Int) (signedFormat width) :=
  fun z => decodes_signed z.property

theorem reads_raw (count : Nat) :
    Reads (Decoder.take count : Decoder ω Bytes) (rawFormat count) := by
  rintro ⟨bytes, rfl⟩
  exact decodes_take bytes

theorem Reads.map {d : Decoder ω α} {W : WireFormat α} {f : α -> β}
    (h : Reads d W) : Reads (d >>= fun x => pure (f x)) (W.map f) :=
  fun w => (h w).map

theorem reads_counted {d : Decoder ω α} {W : WireFormat α}
    (h : Reads d W) :
    Reads (Decoder.unsigned 1 >>= fun count => Decoder.times count d)
      (countedFormat W) :=
  fun ws => (decodes_unsigned ws.property).bind (decodes_times h ws.val)

theorem reads_prefixed :
    Reads (Decoder.unsigned 1 >>= fun count =>
      (Decoder.take count : Decoder ω Bytes)) prefixedFormat :=
  fun bytes => (decodes_unsigned bytes.property).bind (decodes_take bytes.val)

/-!
## Fields
-/

theorem fieldReads_assign {d : Decoder ω α} {W : WireFormat α}
    (h : Reads d W) : FieldReads (FieldDecoder.assign d) W := by
  intro w buf offset hholds
  simp only [FieldDecoder.assign, h w buf offset hholds]
  rfl

theorem collect_of_holds {item : Decoder ω α} {W : WireFormat α}
    (h : Reads item W) (ws : List W.Wire) (items : List α) (buf : Bytes)
    (offset : Nat) (hholds : Holds buf offset (ws.flatMap W.encode)) :
    FieldDecoder.collect item ws.length items buf offset =
      ⟨some (items ++ ws.map W.meaning), none,
        offset + (ws.flatMap W.encode).length, []⟩ := by
  induction ws generalizing items offset with
  | nil => simp [FieldDecoder.collect]
  | cons w ws ih =>
      rcases holds_append_iff.mp hholds with ⟨hw, hws⟩
      rw [List.length_cons, FieldDecoder.collect, h w buf offset hw]
      simp only [ih _ _ hws, List.flatMap_cons, List.length_append,
        List.map_cons, List.append_assoc, List.singleton_append, Nat.add_assoc,
        List.nil_append]

theorem fieldReads_assignEach {item : Decoder ω α} {W : WireFormat α}
    (h : Reads item W) :
    FieldReads (FieldDecoder.assignEach (Decoder.unsigned 1) item)
      (countedFormat W) := by
  intro ws buf offset hholds
  rcases holds_append_iff.mp hholds with ⟨hcount, hitems⟩
  have hread := decodes_unsigned (ω := ω) ws.property buf offset hcount
  simp only [FieldDecoder.assignEach, hread]
  rw [collect_of_holds h ws.val [] buf _ hitems]
  simp only [countedFormat, List.length_append, Nat.add_assoc,
    List.nil_append]

/-!
## Blocks
-/

/-- A walk over bits whose encodings are held reads all of them. -/
theorem walk_of_holds {adv : Nat -> Bytes -> Nat -> Advance ω} {buf : Bytes}
    {encodeBit : Nat -> Bytes} {bits : List Nat}
    (hadv : forall bit, bit ∈ bits -> forall offset,
      Holds buf offset (encodeBit bit) ->
        adv bit buf offset = ⟨none, offset + (encodeBit bit).length, []⟩)
    (offset : Nat) (hholds : Holds buf offset (bits.flatMap encodeBit)) :
    (walk adv bits buf offset).stop = none ∧
      (walk adv bits buf offset).offset =
        offset + (bits.flatMap encodeBit).length ∧
      (walk adv bits buf offset).notes = [] ∧
      forall visit, visit ∈ (walk adv bits buf offset).visits ->
        Holds buf visit.2 (encodeBit visit.1) := by
  induction bits generalizing offset with
  | nil => exact ⟨rfl, rfl, rfl, fun visit h => by cases h⟩
  | cons bit bits ih =>
      rcases holds_append_iff.mp hholds with ⟨hbit, hbits⟩
      have hhead := hadv bit List.mem_cons_self offset hbit
      have hok : (adv bit buf offset).failure = none := by rw [hhead]
      rw [walk_cons_next hok, hhead]
      rcases ih (fun b hb => hadv b (List.mem_cons_of_mem bit hb)) _ hbits with
        ⟨hstop, hoffset, hnotes, hvisits⟩
      refine ⟨hstop, ?_, ?_, ?_⟩
      · simp only [hoffset, List.flatMap_cons, List.length_append,
          Nat.add_assoc]
      · simp only [hnotes, List.append_nil]
      · intro visit hvisit
        cases hvisit with
        | head => exact hbit
        | tail _ hvisit => exact hvisits visit hvisit

variable {L : MaskLayout ω}

/-- A block on the wire: a mask of known bits, and a value for every field.
Only the values of set bits are sent. -/
structure WireBlock (L : MaskLayout ω)
    (W : (f : L.Field) -> WireFormat (L.Value f)) where
  mask : Nat
  mask_lt : mask < 256 ^ 4
  modelled : forall bit, bit ∈ setBits mask ->
    L.bitCase bit ≠ BitCase.unsupported
  values : (f : L.Field) -> (W f).Wire

namespace WireBlock

variable {W : (f : L.Field) -> WireFormat (L.Value f)}

def encodeBit (w : WireBlock L W) (bit : Nat) : Bytes :=
  match L.bitCase bit with
  | BitCase.field f => (W f).encode (w.values f)
  | BitCase.reserved => []
  | BitCase.unsupported => []

/-- The fields of the set bits, in ascending order. -/
def encodeFields (w : WireBlock L W) : Bytes :=
  (setBits w.mask).flatMap w.encodeBit

/-- Every field is present exactly when its bit is set. -/
def meaning (w : WireBlock L W) : MaskBlock L where
  mask := w.mask
  fields f :=
    if L.bitOf f ∈ setBits w.mask then some ((W f).meaning (w.values f))
    else none
  unsupportedBits := []

end WireBlock

/-- A four-byte mask and the fields of its set bits. -/
def blockFormat (L : MaskLayout ω)
    (W : (f : L.Field) -> WireFormat (L.Value f)) :
    WireFormat (MaskBlock L) where
  Wire := WireBlock L W
  encode w := beBytes 4 w.mask ++ w.encodeFields
  meaning w := w.meaning

variable {W : (f : L.Field) -> WireFormat (L.Value f)}

theorem advance_of_holds (h : forall f, FieldReads (L.read f) (W f))
    (w : WireBlock L W) (bit : Nat) (buf : Bytes) (offset : Nat)
    (hholds : Holds buf offset (w.encodeBit bit)) :
    L.advance bit buf offset =
      ⟨none, offset + (w.encodeBit bit).length, []⟩ := by
  unfold WireBlock.encodeBit at hholds ⊢
  unfold MaskLayout.advance
  cases hcase : L.bitCase bit with
  | field f =>
      rw [hcase] at hholds
      simp only [h f (w.values f) buf offset hholds]
  | reserved => rfl
  | unsupported => rfl

/-- If every field reads its format, the loop inverts the encoding of the
fields. -/
theorem parseFields_decodes (h : forall f, FieldReads (L.read f) (W f))
    (w : WireBlock L W) :
    Decodes (L.parseFields w.mask) w.encodeFields w.meaning := by
  intro buf offset hholds
  rcases walk_of_holds
    (fun bit _ o ho => advance_of_holds h w bit buf o ho) offset hholds with
    ⟨hstop, hoffset, hnotes, hvisits⟩
  have hbits := walk_visits_of_no_stop hstop
  have hunsupported : (L.loop w.mask buf offset).state.unsupportedBits =
      [] := by
    rw [MaskLayout.loop_unsupportedBits]
    refine List.filter_eq_nil_iff.mpr ?_
    intro bit hbit hlisted
    rw [MaskLayout.walkMask, hbits] at hbit
    apply w.modelled bit hbit
    unfold MaskLayout.isUnsupported at hlisted
    cases hcase : L.bitCase bit with
    | field f => simp [hcase] at hlisted
    | reserved => simp [hcase] at hlisted
    | unsupported => rfl
  have hblock : (L.loop w.mask buf offset).state = w.meaning := by
    refine MaskBlock.ext ?_ ?_ hunsupported
    · exact MaskLayout.loop_mask
    · funext f
      by_cases hset : L.bitOf f ∈ setBits w.mask
      · rw [← hbits] at hset
        rcases List.mem_map.mp hset with ⟨⟨b, o⟩, hvisit, hb⟩
        have hvisit' : (L.bitOf f, o) ∈ (L.walkMask w.mask buf offset).visits :=
          hb ▸ hvisit
        have hheld := hvisits _ hvisit'
        simp only [WireBlock.encodeBit,
          L.bitCase_eq_field_iff.mpr (rfl : L.bitOf f = L.bitOf f)] at hheld
        rw [MaskLayout.loop_fields_of_visit hvisit', h f _ buf o hheld]
        rw [hbits] at hset
        exact (if_pos hset).symm
      · rw [MaskLayout.loop_fields_of_unvisited]
        · exact (if_neg hset).symm
        · rw [MaskLayout.walkMask, hbits]
          exact hset
  have hloop := L.loop_eq w.mask buf offset
  have hwalk : L.walkMask w.mask buf offset =
    walk L.advance (setBits w.mask) buf offset := rfl
  have hout : (L.loop w.mask buf offset).offset =
      offset + w.encodeFields.length := by
    rw [hloop, hwalk]
    exact hoffset
  have hquiet : (L.loop w.mask buf offset).notes = [] := by
    rw [hloop, hwalk]
    simp only [hstop, hnotes, stopNotes, List.append_nil]
  change Outcome.mk (Except.ok (L.loop w.mask buf offset).state)
    (L.loop w.mask buf offset).offset
    ((L.loop w.mask buf offset).notes ++
      L.skippedNotes (L.loop w.mask buf offset).state) = _
  rw [hblock, hout, hquiet]
  rfl

/-- If every field reads its format, the block decoder inverts the encoding of
the block. -/
theorem reads_parseBlock (h : forall f, FieldReads (L.read f) (W f)) :
    Reads L.parseBlock (blockFormat L W) :=
  fun w => (decodes_unsigned w.mask_lt).bind (parseFields_decodes h w)

end Foundation
end AvtTracker
