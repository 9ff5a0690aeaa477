import AvtTracker.Foundation.Utf8
import Mathlib.Tactic.SplitIfs

/-!
# Encoding strings

{lit}`Buffer.from(text)` writes a string as UTF-8.  A pair of surrogates is one
code point, and a surrogate without its other half is written as the replacement
character; every other string is decoded again as it was.
-/

namespace AvtTracker
namespace Foundation

def tailByte (n : Nat) : UInt8 :=
  UInt8.ofNat (0x80 + n % 64)

def utf8Point (codePoint : Nat) : Bytes :=
  if codePoint < 0x80 then [UInt8.ofNat codePoint]
  else if codePoint < 0x800 then
    [UInt8.ofNat (0xc0 + codePoint / 64), tailByte codePoint]
  else if codePoint < 0x10000 then
    [UInt8.ofNat (0xe0 + codePoint / 4096), tailByte (codePoint / 64),
      tailByte codePoint]
  else
    [UInt8.ofNat (0xf0 + codePoint / 262144), tailByte (codePoint / 4096),
      tailByte (codePoint / 64), tailByte codePoint]

def isHighSurrogate (unit : UInt16) : Bool :=
  0xd800 ≤ unit && unit ≤ 0xdbff

def isLowSurrogate (unit : UInt16) : Bool :=
  0xdc00 ≤ unit && unit ≤ 0xdfff

def isSurrogate (unit : UInt16) : Bool :=
  isHighSurrogate unit || isLowSurrogate unit

def utf8Unit (unit : UInt16) : Bytes :=
  if isSurrogate unit then utf8Point replacementCharacter.toNat
  else utf8Point unit.toNat

/-- The code point of a pair of surrogates. -/
def pairPoint (high low : UInt16) : Nat :=
  0x10000 + (high.toNat - 0xd800) * 0x400 + (low.toNat - 0xdc00)

/-- {lit}`Buffer.from(text)` -/
def utf8Bytes : Utf16 -> Bytes
  | [] => []
  | [unit] => utf8Unit unit
  | high :: low :: rest =>
      if isHighSurrogate high && isLowSurrogate low then
        utf8Point (pairPoint high low) ++ utf8Bytes rest
      else utf8Unit high ++ utf8Bytes (low :: rest)

/-- {lit}`isWellFormed` of a string: no surrogate is without its other half. -/
def wellFormed : Utf16 -> Bool
  | [] => true
  | [unit] => !isSurrogate unit
  | high :: low :: rest =>
      if isHighSurrogate high && isLowSurrogate low then wellFormed rest
      else !isSurrogate high && wellFormed (low :: rest)

/-!
## One code point
-/

namespace Utf8State

theorem lead_one {n : Nat} (h : n < 0x80) :
    lead (UInt8.ofNat n) = ([UInt16.ofNat n], start) := by
  have hb : (UInt8.ofNat n).toNat = n :=
    UInt8.toNat_ofNat_of_lt' (by simp [UInt8.size]; lia)
  have hunit : (UInt8.ofNat n).toUInt16 = UInt16.ofNat n := by
    apply UInt16.toNat_inj.mp
    rw [UInt8.toNat_toUInt16, hb,
      UInt16.toNat_ofNat_of_lt' (by simp [UInt16.size]; lia)]
  unfold lead
  rw [if_pos, hunit]
  rw [UInt8.le_iff_toNat_le, hb]
  exact Nat.le_of_lt_succ h

theorem lead_two {n : Nat} (hlo : 2 ≤ n) (hhi : n < 32) :
    lead (UInt8.ofNat (0xc0 + n)) = ([], inside 1 n 0x80 0xbf) := by
  revert n
  decide

/-- The lowest tail keeps out code points that need fewer bytes, the highest one
surrogates. -/
theorem lead_three {n : Nat} (h : n < 16) :
    lead (UInt8.ofNat (0xe0 + n)) =
      ([], inside 2 n (if n = 0 then 0xa0 else 0x80)
        (if n = 13 then 0x9f else 0xbf)) := by
  revert n
  decide

theorem lead_four {n : Nat} (h : n < 5) :
    lead (UInt8.ofNat (0xf0 + n)) =
      ([], inside 3 n (if n = 0 then 0x90 else 0x80)
        (if n = 4 then 0x8f else 0xbf)) := by
  revert n
  decide

theorem toNat_tailByte (n : Nat) : (tailByte n).toNat = 0x80 + n % 64 :=
  UInt8.toNat_ofNat_of_lt' (by simp [UInt8.size]; lia)

theorem next_tail {needed codePoint n : Nat} {lower upper : UInt8}
    (hlo : lower.toNat ≤ 0x80 + n % 64) (hhi : 0x80 + n % 64 ≤ upper.toNat) :
    (inside needed codePoint lower upper).next (tailByte n) =
      if needed ≤ 1 then (codeUnits (codePoint * 64 + n % 64), start)
      else ([], inside (needed - 1) (codePoint * 64 + n % 64) 0x80 0xbf) := by
  have hbounds : lower ≤ tailByte n ∧ tailByte n ≤ upper := by
    rw [UInt8.le_iff_toNat_le, UInt8.le_iff_toNat_le, toNat_tailByte]
    exact ⟨hlo, hhi⟩
  simp only [next, if_pos hbounds, toNat_tailByte, Nat.add_sub_cancel_left]

theorem decode_cons (s : Utf8State) (b : UInt8) (bytes : Bytes) :
    s.decode (b :: bytes) = (s.next b).1 ++ (s.next b).2.decode bytes := by
  cases s <;> rfl

theorem decode_last (codePoint n : Nat) (rest : Bytes) :
    (inside 1 codePoint 0x80 0xbf).decode (tailByte n :: rest) =
      codeUnits (codePoint * 64 + n % 64) ++ start.decode rest := by
  rw [decode_cons, next_tail (by simp) (by simp; lia), if_pos (Nat.le_refl 1)]

theorem decode_more {needed codePoint n : Nat} {lower upper : UInt8}
    (hneeded : 1 < needed) (hlo : lower.toNat ≤ 0x80 + n % 64)
    (hhi : 0x80 + n % 64 ≤ upper.toNat) (rest : Bytes) :
    (inside needed codePoint lower upper).decode (tailByte n :: rest) =
      (inside (needed - 1) (codePoint * 64 + n % 64) 0x80 0xbf).decode
        rest := by
  rw [decode_cons, next_tail hlo hhi, if_neg (Nat.not_le.mpr hneeded)]
  rfl

theorem decode_utf8Point {c : Nat} (h : c < 0x110000)
    (hsurrogate : c < 0xd800 ∨ 0xe000 ≤ c) (rest : Bytes) :
    start.decode (utf8Point c ++ rest) = codeUnits c ++ start.decode rest := by
  unfold utf8Point
  by_cases hone : c < 0x80
  · have hunits : codeUnits c = [UInt16.ofNat c] := if_pos (by lia)
    rw [if_pos hone, List.singleton_append, decode_cons, hunits]
    show (lead _).1 ++ (lead _).2.decode rest = _
    rw [lead_one hone]
  rw [if_neg hone]
  by_cases htwo : c < 0x800
  · rw [if_pos htwo, List.cons_append, decode_cons]
    show (lead _).1 ++ (lead _).2.decode _ = _
    rw [lead_two (by lia) (by lia), List.nil_append, List.singleton_append,
      decode_last]
    congr 2
    lia
  rw [if_neg htwo]
  by_cases hthree : c < 0x10000
  · rw [if_pos hthree, List.cons_append, decode_cons]
    show (lead _).1 ++ (lead _).2.decode _ = _
    rw [lead_three (by lia), List.nil_append, List.cons_append,
      decode_more (by decide), List.singleton_append, decode_last]
    · congr 2
      lia
    · split_ifs
      · simp
        lia
      · simp
    · split_ifs
      · simp
        lia
      · simp
        lia
  · rw [if_neg hthree, List.cons_append, decode_cons]
    show (lead _).1 ++ (lead _).2.decode _ = _
    rw [lead_four (by lia), List.nil_append, List.cons_append,
      decode_more (by decide), List.cons_append,
      decode_more (by decide) (by simp) (by simp; lia), List.singleton_append,
      decode_last]
    · congr 2
      lia
    · split_ifs
      · simp
        lia
      · simp
    · split_ifs
      · simp
        lia
      · simp
        lia

end Utf8State

/-!
## Strings
-/

theorem isHighSurrogate_iff {unit : UInt16} :
    isHighSurrogate unit = true <->
      0xd800 ≤ unit.toNat ∧ unit.toNat ≤ 0xdbff := by
  simp [isHighSurrogate, UInt16.le_iff_toNat_le]

theorem isLowSurrogate_iff {unit : UInt16} :
    isLowSurrogate unit = true <->
      0xdc00 ≤ unit.toNat ∧ unit.toNat ≤ 0xdfff := by
  simp [isLowSurrogate, UInt16.le_iff_toNat_le]

theorem isSurrogate_eq_false_iff {unit : UInt16} :
    isSurrogate unit = false <->
      unit.toNat < 0xd800 ∨ 0xe000 ≤ unit.toNat := by
  rw [← Bool.not_eq_true, isSurrogate, Bool.or_eq_true, isHighSurrogate_iff,
    isLowSurrogate_iff]
  lia

theorem codeUnits_toNat (unit : UInt16) : codeUnits unit.toNat = [unit] := by
  rw [codeUnits, if_pos (UInt16.toNat_lt unit), UInt16.ofNat_toNat]

theorem codeUnits_pairPoint {high low : UInt16}
    (h : isHighSurrogate high = true) (h' : isLowSurrogate low = true) :
    codeUnits (pairPoint high low) = [high, low] := by
  rw [isHighSurrogate_iff] at h
  rw [isLowSurrogate_iff] at h'
  have hhigh : 0xd800 + (pairPoint high low - 0x10000) / 0x400 =
      high.toNat := by
    unfold pairPoint
    lia
  have hlow : 0xdc00 + (pairPoint high low - 0x10000) % 0x400 =
      low.toNat := by
    unfold pairPoint
    lia
  rw [codeUnits, if_neg (by unfold pairPoint; lia)]
  simp only [hhigh, hlow, UInt16.ofNat_toNat]

theorem decode_utf8Unit {unit : UInt16} (h : isSurrogate unit = false)
    (rest : Bytes) :
    Utf8State.start.decode (utf8Unit unit ++ rest) =
      unit :: Utf8State.start.decode rest := by
  have hlt := UInt16.toNat_lt unit
  rw [utf8Unit, h, if_neg Bool.false_ne_true, Utf8State.decode_utf8Point
    (by lia) (isSurrogate_eq_false_iff.mp h), codeUnits_toNat]
  rfl

theorem decode_utf8Bytes {text : Utf16} (h : wellFormed text = true)
    (rest : Bytes) :
    Utf8State.start.decode (utf8Bytes text ++ rest) =
      text ++ Utf8State.start.decode rest := by
  fun_induction utf8Bytes text with
  | case1 => rfl
  | case2 unit =>
      rw [wellFormed, Bool.not_eq_true'] at h
      exact decode_utf8Unit h rest
  | case3 high low more hpair ih =>
      rw [wellFormed, if_pos hpair] at h
      rw [Bool.and_eq_true] at hpair
      have hbounds := isHighSurrogate_iff.mp hpair.left
      have hbounds' := isLowSurrogate_iff.mp hpair.right
      rw [List.append_assoc, Utf8State.decode_utf8Point
        (by unfold pairPoint; lia) (by unfold pairPoint; lia),
        codeUnits_pairPoint hpair.left hpair.right, ih h]
      rfl
  | case4 high low more hpair ih =>
      rw [wellFormed, if_neg hpair, Bool.and_eq_true, Bool.not_eq_true'] at h
      rw [List.append_assoc, decode_utf8Unit h.left, ih h.right]
      rfl

/-- A string without lone surrogates survives being written as UTF-8. -/
theorem utf8Text_utf8Bytes {text : Utf16} (h : wellFormed text = true) :
    utf8Text (utf8Bytes text) = text := by
  have hdecode := decode_utf8Bytes h []
  rw [List.append_nil] at hdecode
  rw [utf8Text, hdecode]
  exact List.append_nil text

/-- A lone surrogate does not. -/
example : utf8Text (utf8Bytes [0x41, 0xd83d, 0xde97, 0xd83d]) =
    [0x41, 0xd83d, 0xde97, 0xfffd] := by
  decide

theorem wellFormed_append {text : Utf16} (h : wellFormed text = true)
    (more : Utf16) : wellFormed (text ++ more) = wellFormed more := by
  fun_induction utf8Bytes text with
  | case1 => rfl
  | case2 unit =>
      rw [wellFormed, Bool.not_eq_true'] at h
      cases more with
      | nil => simp [wellFormed, h]
      | cons next more =>
          have hhigh : isHighSurrogate unit = false :=
            (Bool.or_eq_false_iff.mp h).left
          simp [wellFormed, h, hhigh]
  | case3 high low rest hpair ih =>
      rw [wellFormed, if_pos hpair] at h
      show wellFormed (high :: low :: (rest ++ more)) = _
      rw [wellFormed, if_pos hpair, ih h]
  | case4 high low rest hpair ih =>
      rw [wellFormed, if_neg hpair, Bool.and_eq_true] at h
      show wellFormed (high :: low :: (rest ++ more)) = _
      rw [wellFormed, if_neg hpair, h.left, Bool.true_and]
      exact ih h.right

theorem wellFormed_of_forall {text : Utf16}
    (h : forall unit, unit ∈ text -> isSurrogate unit = false) :
    wellFormed text = true := by
  induction text with
  | nil => rfl
  | cons unit rest ih =>
      have hunit : wellFormed [unit] = true := by
        rw [wellFormed, h unit List.mem_cons_self]
        rfl
      have happend := wellFormed_append hunit rest
      rw [List.singleton_append] at happend
      rw [happend]
      exact ih fun next hnext => h next (List.mem_cons_of_mem _ hnext)

/-!
## Bytes of ASCII characters
-/

section Ascii

variable {b : UInt8} (hb : b.toNat < 0x80)

include hb

theorem toNat_of_mem_utf8Point {c : Nat} (hc : c < 0x110000)
    (h : b ∈ utf8Point c) : c = b.toNat := by
  have htail : forall n, b ≠ tailByte n := by
    rintro n rfl
    rw [Utf8State.toNat_tailByte] at hb
    lia
  have hlead : forall n, 0x80 ≤ n -> n < 0x100 -> b ≠ UInt8.ofNat n := by
    rintro n hlo hhi rfl
    rw [UInt8.toNat_ofNat_of_lt' hhi] at hb
    lia
  unfold utf8Point at h
  split_ifs at h with hone htwo hthree
  · rw [List.mem_singleton.mp h, UInt8.toNat_ofNat_of_lt']
    simp [UInt8.size]
    lia
  · simp only [List.mem_cons, List.not_mem_nil, htail, or_false] at h
    exact absurd h (hlead _ (by lia) (by lia))
  · simp only [List.mem_cons, List.not_mem_nil, htail, or_false] at h
    exact absurd h (hlead _ (by lia) (by lia))
  · simp only [List.mem_cons, List.not_mem_nil, htail, or_false] at h
    exact absurd h (hlead _ (by lia) (by lia))

theorem mem_of_mem_utf8Unit {unit : UInt16} (h : b ∈ utf8Unit unit) :
    unit = b.toUInt16 := by
  have hlt := UInt16.toNat_lt unit
  apply UInt16.toNat_inj.mp
  rw [UInt8.toNat_toUInt16]
  unfold utf8Unit at h
  split_ifs at h
  · have hreplacement := toNat_of_mem_utf8Point hb (by decide) h
    rw [← hreplacement] at hb
    exact absurd hb (by decide)
  · exact toNat_of_mem_utf8Point hb (by lia) h

theorem mem_of_mem_utf8Bytes {text : Utf16} (h : b ∈ utf8Bytes text) :
    b.toUInt16 ∈ text := by
  fun_induction utf8Bytes text with
  | case1 => cases h
  | case2 unit =>
      rw [mem_of_mem_utf8Unit hb h]
      exact List.mem_singleton_self _
  | case3 high low more hpair ih =>
      rw [Bool.and_eq_true] at hpair
      have hbounds := isHighSurrogate_iff.mp hpair.left
      have hbounds' := isLowSurrogate_iff.mp hpair.right
      cases List.mem_append.mp h with
      | inl hpoint =>
          have hsmall := toNat_of_mem_utf8Point hb
            (by unfold pairPoint; lia) hpoint
          unfold pairPoint at hsmall
          lia
      | inr hmore =>
          exact List.mem_cons_of_mem _ (List.mem_cons_of_mem _ (ih hmore))
  | case4 high low more hpair ih =>
      cases List.mem_append.mp h with
      | inl hunit =>
          rw [mem_of_mem_utf8Unit hb hunit]
          exact List.mem_cons_self
      | inr hmore => exact List.mem_cons_of_mem _ (ih hmore)

end Ascii

end Foundation
end AvtTracker
