import Mathlib.Algebra.Group.Nat.Defs
import Mathlib.Algebra.Ring.Int.Defs
import Mathlib.Data.List.Induction
import Mathlib.Tactic.Common

/-!
# Byte sequences

Buffers are finite lists of bytes.  This module fixes the operations every
later layer reads them with: searching for a byte from an offset, big-endian
integers of any width, two's complement, and hexadecimal text.
-/

namespace AvtTracker
namespace Foundation

abbrev Bytes : Type := List UInt8

/-!
## Searching
-/

/-- First offset at or after {lit}`start` that holds {lit}`value`. -/
def indexOfFrom (buf : Bytes) (value : UInt8) (start : Nat) : Option Nat :=
  ((buf.drop start).findIdx? (fun b => b == value)).map (fun i => i + start)

/-- First offset that holds {lit}`value`. -/
def indexOf (buf : Bytes) (value : UInt8) : Option Nat :=
  indexOfFrom buf value 0

theorem indexOfFrom_eq_some_iff
    {buf : Bytes} {value : UInt8} {start i : Nat} :
    indexOfFrom buf value start = some i <->
      start ≤ i ∧ buf[i]? = some value ∧
        forall j, start ≤ j -> j < i -> buf[j]? ≠ some value := by
  constructor
  · intro h
    rcases Option.map_eq_some_iff.mp h with ⟨k, hk, rfl⟩
    rcases List.findIdx?_eq_some_iff_getElem.mp hk with ⟨hlt, hval, hbefore⟩
    have hlt' : start + k < buf.length := by
      rw [List.length_drop] at hlt
      lia
    refine ⟨Nat.le_add_left _ _, ?_, ?_⟩
    · rw [Nat.add_comm k start, List.getElem?_eq_getElem hlt']
      simpa using hval
    · intro j hj hjk
      have hjlt : j - start < k := by lia
      have hne := hbefore (j - start) hjlt
      have hjlen : j < buf.length := by lia
      rw [List.getElem?_eq_getElem hjlen]
      simpa [Nat.add_sub_cancel' hj] using hne
  · intro ⟨hstart, hval, hbefore⟩
    rcases List.getElem?_eq_some_iff.mp hval with ⟨hlen, hget⟩
    refine Option.map_eq_some_iff.mpr ⟨i - start, ?_, Nat.sub_add_cancel hstart⟩
    refine List.findIdx?_eq_some_iff_getElem.mpr ⟨?_, ?_, ?_⟩
    · rw [List.length_drop]
      lia
    · simpa [Nat.add_sub_cancel' hstart] using hget
    · intro j hj
      have hne := hbefore (start + j) (Nat.le_add_right _ _) (by lia)
      rw [List.getElem?_eq_getElem (by lia)] at hne
      simpa using hne

theorem indexOfFrom_eq_none_iff
    {buf : Bytes} {value : UInt8} {start : Nat} :
    indexOfFrom buf value start = none <->
      forall j, start ≤ j -> buf[j]? ≠ some value := by
  unfold indexOfFrom
  rw [Option.map_eq_none_iff, List.findIdx?_eq_none_iff]
  constructor
  · intro h j hj hval
    have hmem : value ∈ buf.drop start := by
      apply List.mem_of_getElem? (i := j - start)
      rw [List.getElem?_drop, Nat.add_sub_cancel' hj]
      exact hval
    simpa using h value hmem
  · intro h b hb
    rcases List.getElem?_of_mem hb with ⟨k, hk⟩
    rw [List.getElem?_drop] at hk
    have hne := h (start + k) (Nat.le_add_right _ _)
    rw [hk] at hne
    simpa using hne

theorem indexOf_eq_some_iff {buf : Bytes} {value : UInt8} {i : Nat} :
    indexOf buf value = some i <->
      buf[i]? = some value ∧ forall j, j < i -> buf[j]? ≠ some value := by
  simp [indexOf, indexOfFrom_eq_some_iff]

theorem indexOf_eq_none_iff {buf : Bytes} {value : UInt8} :
    indexOf buf value = none <-> forall j : Nat, buf[j]? ≠ some value := by
  simp [indexOf, indexOfFrom_eq_none_iff]

theorem indexOf_eq_none_iff_not_mem {buf : Bytes} {value : UInt8} :
    indexOf buf value = none <-> value ∉ buf := by
  rw [indexOf_eq_none_iff]
  constructor
  · intro h hmem
    rcases List.getElem?_of_mem hmem with ⟨i, hval⟩
    exact h i hval
  · intro h i hval
    exact h (List.mem_of_getElem? hval)

theorem indexOf_append_cons {front rest : Bytes} {value : UInt8}
    (h : value ∉ front) :
    indexOf (front ++ value :: rest) value = some front.length := by
  rw [indexOf_eq_some_iff]
  constructor
  · rw [List.getElem?_append_right (Nat.le_refl _), Nat.sub_self]
    rfl
  · intro j hj hval
    rw [List.getElem?_append_left hj] at hval
    exact h (List.mem_of_getElem? hval)

theorem lt_length_of_getElem?_eq_some {buf : Bytes} {i : Nat} {b : UInt8}
    (h : buf[i]? = some b) : i < buf.length :=
  (List.getElem?_eq_some_iff.mp h).choose

theorem getElem?_of_isPrefix {p buf : Bytes} (h : p <+: buf) {i : Nat}
    (hi : i < p.length) : p[i]? = buf[i]? := by
  rcases h with ⟨s, rfl⟩
  exact (List.getElem?_append_left hi).symm

theorem indexOf_of_isPrefix {p buf : Bytes} (h : p <+: buf) {value : UInt8}
    {i : Nat} (hidx : indexOf p value = some i) :
    indexOf buf value = some i := by
  rcases indexOf_eq_some_iff.mp hidx with ⟨hval, hbefore⟩
  have hlt := lt_length_of_getElem?_eq_some hval
  apply indexOf_eq_some_iff.mpr
  constructor
  · rw [← getElem?_of_isPrefix h hlt]
    exact hval
  · intro j hj
    rw [← getElem?_of_isPrefix h (Nat.lt_trans hj hlt)]
    exact hbefore j hj

theorem indexOf_isPrefix_of_lt {p buf : Bytes} (h : p <+: buf) {value : UInt8}
    {i : Nat} (hidx : indexOf buf value = some i) (hi : i < p.length) :
    indexOf p value = some i := by
  rcases indexOf_eq_some_iff.mp hidx with ⟨hval, hbefore⟩
  apply indexOf_eq_some_iff.mpr
  constructor
  · rw [getElem?_of_isPrefix h hi]
    exact hval
  · intro j hj
    rw [getElem?_of_isPrefix h (Nat.lt_trans hj hi)]
    exact hbefore j hj

theorem drop_append_cons {α : Type} (front rest : List α) (x : α) :
    (front ++ x :: rest).drop (front.length + 1) = rest := by
  rw [← List.drop_drop, List.drop_left]
  rfl

/-!
## Big-endian integers
-/

/-- Value of a big-endian byte sequence. -/
def beNat (bs : Bytes) : Nat :=
  bs.foldl (fun acc b => acc * 256 + b.toNat) 0

/-- The low {lit}`width` bytes of a natural number, most significant first. -/
def beBytes : Nat -> Nat -> Bytes
  | 0, _ => []
  | width + 1, n => beBytes width (n / 256) ++ [UInt8.ofNat n]

@[simp] theorem beBytes_length (width n : Nat) :
    (beBytes width n).length = width := by
  induction width generalizing n with
  | zero => rfl
  | succ width ih => simp [beBytes, ih]

theorem beNat_snoc (bs : Bytes) (b : UInt8) :
    beNat (bs ++ [b]) = beNat bs * 256 + b.toNat := by
  simp [beNat, List.foldl_append]

theorem beNat_beBytes (width n : Nat) :
    beNat (beBytes width n) = n % 256 ^ width := by
  induction width generalizing n with
  | zero => simp [beBytes, beNat, Nat.mod_one]
  | succ width ih =>
      rw [beBytes, beNat_snoc, ih, UInt8.toNat_ofNat']
      have hsplit : n % 256 ^ (width + 1) =
          n % 256 + 256 * (n / 256 % 256 ^ width) := by
        rw [Nat.pow_succ, Nat.mul_comm (256 ^ width) 256, Nat.mod_mul]
      rw [hsplit]
      lia

theorem beNat_beBytes_of_lt {width n : Nat} (h : n < 256 ^ width) :
    beNat (beBytes width n) = n := by
  rw [beNat_beBytes, Nat.mod_eq_of_lt h]

theorem beBytes_beNat (bs : Bytes) : beBytes bs.length (beNat bs) = bs := by
  induction bs using List.reverseRecOn with
  | nil => rfl
  | append_singleton bs b ih =>
      have hb := b.toNat_lt
      have hinit : (beNat bs * 256 + b.toNat) / 256 = beNat bs := by lia
      have hlast : UInt8.ofNat (beNat bs * 256 + b.toNat) = b := by
        apply UInt8.toNat_inj.mp
        rw [UInt8.toNat_ofNat']
        lia
      rw [beNat_snoc, List.length_append, List.length_singleton, beBytes, hinit,
        ih, hlast]

theorem map_getD_range (bs : Bytes) :
    (List.range bs.length).map (fun i => bs.getD i 0) = bs := by
  apply List.ext_getElem
  · simp
  · intro i _ hlt
    simp [List.getElem?_eq_getElem hlt]

/-- Two's-complement reading of an unsigned value of {lit}`width` bytes. -/
def toSigned (width n : Nat) : Int :=
  if 2 * n < 256 ^ width then (n : Int) else (n : Int) - 256 ^ width

/-- Two's-complement representation of an integer in {lit}`width` bytes. -/
def ofSigned (width : Nat) (z : Int) : Nat :=
  (z % 256 ^ width).toNat

/-- The integers a signed field of {lit}`width` bytes can carry. -/
def SignedRange (width : Nat) (z : Int) : Prop :=
  -(256 ^ width : Nat) ≤ 2 * z ∧ 2 * z < (256 ^ width : Nat)

instance (width : Nat) (z : Int) : Decidable (SignedRange width z) :=
  inferInstanceAs (Decidable (_ ∧ _))

theorem ofSigned_lt (width : Nat) (z : Int) :
    ofSigned width z < 256 ^ width := by
  have hpos : (0 : Int) < 256 ^ width := Int.pow_pos (by decide)
  have hnonneg := Int.emod_nonneg z (Int.ne_of_gt hpos)
  have hlt := Int.emod_lt_of_pos z hpos
  unfold ofSigned
  have hcast : ((256 ^ width : Nat) : Int) = 256 ^ width := by simp
  lia

theorem toSigned_ofSigned {width : Nat} {z : Int} (h : SignedRange width z) :
    toSigned width (ofSigned width z) = z := by
  have hcast : ((256 ^ width : Nat) : Int) = 256 ^ width := by simp
  have hpos : (0 : Int) < 256 ^ width := Int.pow_pos (by decide)
  rcases h with ⟨hlo, hhi⟩
  rw [hcast] at hlo hhi
  unfold toSigned ofSigned
  by_cases hz : 0 ≤ z
  · rw [Int.emod_eq_of_lt hz (by lia), if_pos (by lia)]
    exact Int.toNat_of_nonneg hz
  · have hmod : z % 256 ^ width = z + 256 ^ width := by
      rw [← Int.add_emod_right, Int.emod_eq_of_lt (by lia) (by lia)]
    rw [hmod, if_neg (by lia)]
    lia

def readUInt16BE (buf : Bytes) (offset : Nat) : Nat :=
  beNat ((buf.drop offset).take 2)

theorem beNat_lt (bs : Bytes) : beNat bs < 256 ^ bs.length := by
  induction bs using List.reverseRecOn with
  | nil => exact Nat.one_pos
  | append_singleton bs b ih =>
      have hb := b.toNat_lt
      rw [beNat_snoc, List.length_append, List.length_singleton, Nat.pow_succ]
      lia

theorem readUInt16BE_lt (buf : Bytes) (offset : Nat) :
    readUInt16BE buf offset < 65536 := by
  have hlen : ((buf.drop offset).take 2).length ≤ 2 := by
    rw [List.length_take]
    exact Nat.min_le_left _ _
  exact Nat.lt_of_lt_of_le (beNat_lt _)
    (Nat.pow_le_pow_right (by decide) hlen)

theorem readUInt16BE_append (pre : Bytes) {n : Nat} (hn : n < 65536)
    (post : Bytes) :
    readUInt16BE (pre ++ (beBytes 2 n ++ post)) pre.length = n := by
  unfold readUInt16BE
  rw [List.drop_left, List.take_left' (beBytes_length 2 n)]
  exact beNat_beBytes_of_lt hn

theorem readUInt16BE_of_isPrefix {p buf : Bytes} (h : p <+: buf) {offset : Nat}
    (hlen : offset + 2 ≤ p.length) :
    readUInt16BE p offset = readUInt16BE buf offset := by
  rcases h with ⟨s, rfl⟩
  unfold readUInt16BE
  rw [List.drop_append_of_le_length (by lia),
    List.take_append_of_le_length (by rw [List.length_drop]; lia)]

/-!
## Hexadecimal text
-/

def hexDigit (n : Nat) : Char :=
  (n.digitChar).toUpper

def hexChars (bs : Bytes) : List Char :=
  bs.flatMap (fun b => [hexDigit (b.toNat / 16), hexDigit (b.toNat % 16)])

def toHex (bs : Bytes) : String :=
  String.ofList (hexChars bs)

theorem hexDigit_mem {n : Nat} (h : n < 16) :
    hexDigit n ∈ "0123456789ABCDEF".toList := by
  have hall : forall m, m < 16 -> hexDigit m ∈ "0123456789ABCDEF".toList := by
    decide
  exact hall n h

theorem hexChars_length (bs : Bytes) :
    (hexChars bs).length = 2 * bs.length := by
  induction bs with
  | nil => rfl
  | cons b bs ih =>
      rw [hexChars, List.flatMap_cons, List.length_append, ← hexChars, ih,
        List.length_cons, List.length_cons, List.length_cons]
      simp only [List.length_nil]
      lia

theorem hexDigits_injective {b c : UInt8}
    (hhigh : hexDigit (b.toNat / 16) = hexDigit (c.toNat / 16))
    (hlow : hexDigit (b.toNat % 16) = hexDigit (c.toNat % 16)) : b = c := by
  have hall : forall m, m < 16 -> forall n, n < 16 ->
      hexDigit m = hexDigit n -> m = n := by
    decide
  have hb := b.toNat_lt
  have hc := c.toNat_lt
  have hdiv := hall _ (by lia) _ (by lia) hhigh
  have hmod := hall _ (by lia) _ (by lia) hlow
  exact UInt8.toNat_inj.mp (by lia)

theorem hexChars_injective {bs cs : Bytes} (h : hexChars bs = hexChars cs) :
    bs = cs := by
  induction bs generalizing cs with
  | nil =>
      cases cs with
      | nil => rfl
      | cons c cs => cases h
  | cons b bs ih =>
      cases cs with
      | nil => cases h
      | cons c cs =>
          rcases List.cons.inj h with ⟨hhigh, hrest⟩
          rcases List.cons.inj hrest with ⟨hlow, htail⟩
          rw [hexDigits_injective hhigh hlow, ih htail]

theorem toHex_injective {bs cs : Bytes} (h : toHex bs = toHex cs) : bs = cs :=
  hexChars_injective (String.ofList_injective h)

theorem mem_hexChars {bs : Bytes} {c : Char} (h : c ∈ hexChars bs) :
    c ∈ "0123456789ABCDEF".toList := by
  rcases List.mem_flatMap.mp h with ⟨b, _, hc⟩
  have hb := b.toNat_lt
  rcases List.mem_cons.mp hc with hc | hc
  · rw [hc]
    exact hexDigit_mem (by lia)
  · rw [List.mem_singleton.mp hc]
    exact hexDigit_mem (by lia)

end Foundation
end AvtTracker
