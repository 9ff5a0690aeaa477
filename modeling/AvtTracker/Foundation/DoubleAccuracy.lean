import AvtTracker.Foundation.Doubles
import Mathlib.Algebra.Order.Field.Power
import Mathlib.Tactic.FieldSimp
import Mathlib.Tactic.GCongr
import Mathlib.Tactic.Linarith
import Mathlib.Tactic.NormNum
import Mathlib.Tactic.Positivity

/-!
# How far a number is rounded

A double that is not near the largest ones differs from what it stands for by at
most half a unit of its last place: a 2^53th of the magnitude, or half the
smallest double.  What a computation loses is the sum of what its steps lose.
-/

namespace AvtTracker
namespace Foundation
namespace JsNumber

/-- Half the smallest double. -/
def leastError : Rat := 1 / 2 ^ 1075

/-- No rational up to here is rounded to infinity. -/
def roundable : Rat := 2 ^ 1023

/-- What rounding may change in a number up to a bound. -/
def roundingError (bound : Rat) : Rat :=
  bound / 2 ^ 53 + leastError

/-- The number is a double near a rational. -/
def Near (number : JsNumber) (value error : Rat) : Prop :=
  exists x : Rat, number = finite x ∧ |x - value| ≤ error

theorem leastError_pos : 0 < leastError := by
  unfold leastError
  positivity

theorem leastError_le : leastError ≤ 1 / 2 ^ 64 :=
  one_div_le_one_div_of_le (by positivity)
    (pow_le_pow_right₀ one_le_two (by decide))

theorem le_roundable {k : Nat} (h : k ≤ 1023) : (2 : Rat) ^ k ≤ roundable :=
  pow_le_pow_right₀ one_le_two h

/-!
## One rounding
-/

theorem roundedQuotient_near (numerator : Nat) {denominator : Nat}
    (h : 0 < denominator) :
    |((roundedQuotient numerator denominator : Nat) : Rat) * denominator -
      numerator| ≤ denominator / 2 := by
  have hdivide := Nat.div_add_mod numerator denominator
  have hrest := Nat.mod_lt numerator h
  have hbounds :
      2 * (roundedQuotient numerator denominator * denominator) ≤
          2 * numerator + denominator ∧
        2 * numerator ≤
          2 * (roundedQuotient numerator denominator * denominator) +
            denominator := by
    unfold roundedQuotient
    generalize numerator / denominator = quotient at *
    generalize numerator % denominator = rest at *
    have hcomm := Nat.mul_comm denominator quotient
    have hparity := Nat.mod_lt quotient (by decide : 0 < 2)
    dsimp only
    split_ifs with hless hmore
    · lia
    · rw [Nat.add_mul]
      lia
    · have htie : 2 * rest = denominator := by lia
      rw [Nat.add_mul]
      have hcases : quotient % 2 = 0 ∨ quotient % 2 = 1 := by lia
      rcases hcases with heven | hodd
      · rw [heven]
        lia
      · rw [hodd]
        lia
  have hlow : (2 : Rat) *
      (roundedQuotient numerator denominator * denominator) ≤
        2 * numerator + denominator := by
    exact_mod_cast hbounds.left
  have hhigh : (2 : Rat) * numerator ≤
      2 * (roundedQuotient numerator denominator * denominator) +
        denominator := by
    exact_mod_cast hbounds.right
  rw [abs_le]
  constructor
  · linarith
  · linarith

/-- A power of two is a quotient of natural ones. -/
theorem two_pow_toNat (e : Int) :
    (2 : Rat) ^ e.toNat = (2 : Rat) ^ e * (2 : Rat) ^ (-e).toNat := by
  rw [← zpow_natCast, ← zpow_natCast, ← zpow_add₀ two_ne_zero]
  congr 1
  lia

section Magnitudes

variable {numerator denominator : Nat} (hnumerator : 0 < numerator)

include hnumerator

theorem two_pow_estimate_le :
    (2 : Rat) ^ ((numerator.log2 : Int) - denominator.log2 - 1) * denominator ≤
      numerator := by
  have hlow : ((2 ^ numerator.log2 : Nat) : Rat) ≤ numerator :=
    Nat.cast_le.mpr (Nat.log2_self_le (Nat.ne_of_gt hnumerator))
  have hhigh : (denominator : Rat) ≤ ((2 ^ (denominator.log2 + 1) : Nat) : Rat) :=
    Nat.cast_le.mpr (Nat.le_of_lt Nat.lt_log2_self)
  have hexponent : (numerator.log2 : Int) - denominator.log2 - 1 +
      ((denominator.log2 + 1 : Nat) : Int) = (numerator.log2 : Int) := by
    lia
  calc (2 : Rat) ^ ((numerator.log2 : Int) - denominator.log2 - 1) *
        denominator
      ≤ (2 : Rat) ^ ((numerator.log2 : Int) - denominator.log2 - 1) *
          ((2 ^ (denominator.log2 + 1) : Nat) : Rat) := by gcongr
    _ = ((2 ^ numerator.log2 : Nat) : Rat) := by
        rw [Nat.cast_pow, Nat.cast_ofNat, ← zpow_natCast,
          ← zpow_add₀ two_ne_zero, hexponent, Nat.cast_pow, Nat.cast_ofNat,
          zpow_natCast]
    _ ≤ numerator := hlow

variable (hdenominator : 0 < denominator)

include hdenominator

/-- The last place is that of a double no larger than the quotient, unless the
quotient is subnormal. -/
theorem two_pow_lastPlace_le :
    (2 : Rat) ^ lastPlace numerator denominator ≤
      2 * roundingError (numerator / denominator) := by
  have hd : (0 : Rat) < denominator := Nat.cast_pos.mpr hdenominator
  have hn : (0 : Rat) < numerator := Nat.cast_pos.mpr hnumerator
  have hnormal : forall exponent : Int,
      (2 : Rat) ^ exponent * denominator ≤ numerator ->
        (2 : Rat) ^ max (exponent - 52) (-1074) ≤
          2 * roundingError (numerator / denominator) := by
    intro exponent hle
    have hquotient : (2 : Rat) ^ exponent ≤ numerator / denominator :=
      (le_div_iff₀ hd).mpr hle
    have hpositive : (0 : Rat) < numerator / denominator := div_pos hn hd
    unfold roundingError
    rcases max_choice (exponent - 52) (-1074) with hmax | hmax
    · rw [hmax, zpow_sub₀ two_ne_zero]
      have hsmall := leastError_pos
      have hshift : (2 : Rat) ^ (52 : Int) = 2 ^ 52 := rfl
      rw [hshift]
      linarith
    · rw [hmax]
      have hlast : (2 : Rat) ^ (-1074 : Int) = 2 * leastError := by
        rw [leastError, zpow_neg, pow_succ (2 : Rat) 1074]
        field_simp
      rw [hlast]
      linarith [div_pos hpositive (by positivity : (0 : Rat) < 2 ^ 53)]
  unfold lastPlace
  dsimp only
  apply hnormal
  split_ifs with hsmaller
  · exact two_pow_estimate_le hnumerator
  · have hle := Nat.not_lt.mp hsmaller
    generalize (numerator.log2 : Int) - denominator.log2 = estimate at hle ⊢
    have hcast : (2 : Rat) ^ estimate.toNat * denominator ≤
        2 ^ (-estimate).toNat * numerator := by
      exact_mod_cast hle
    have hpositive : (0 : Rat) < 2 ^ (-estimate).toNat := by positivity
    rw [two_pow_toNat] at hcast
    apply le_of_mul_le_mul_right _ hpositive
    linarith

theorem roundedMagnitude_near :
    |roundedMagnitude numerator denominator - numerator / denominator| ≤
      roundingError (numerator / denominator) := by
  have hplace := two_pow_lastPlace_le hnumerator hdenominator
  have hd : (0 : Rat) < denominator := Nat.cast_pos.mpr hdenominator
  unfold roundedMagnitude
  dsimp only
  generalize lastPlace numerator denominator = place at hplace ⊢
  have hscaled : 0 < 2 ^ place.toNat * denominator :=
    Nat.mul_pos (Nat.two_pow_pos _) hdenominator
  have hnear := roundedQuotient_near (2 ^ (-place).toNat * numerator) hscaled
  generalize roundedQuotient (2 ^ (-place).toNat * numerator)
    (2 ^ place.toNat * denominator) = significand at hnear ⊢
  push_cast at hnear ⊢
  rw [two_pow_toNat place] at hnear ⊢
  have hp : (0 : Rat) < 2 ^ (-place).toNat := by positivity
  generalize (2 : Rat) ^ (-place).toNat = p at hnear hp ⊢
  generalize (2 : Rat) ^ place = unit at hnear hplace ⊢
  have hcancel : (significand : Rat) * (unit * p) / p = significand * unit := by
    field_simp
  rw [hcancel]
  have hhalf : |(significand : Rat) * unit - numerator / denominator| ≤
      unit / 2 := by
    have hwhole : (significand : Rat) * (unit * p * denominator) -
        p * numerator =
        ((significand : Rat) * unit - numerator / denominator) *
          (p * denominator) := by
      field_simp
    rw [hwhole, abs_mul, abs_of_pos (mul_pos hp hd)] at hnear
    apply le_of_mul_le_mul_right _ (mul_pos hp hd)
    linarith
  linarith

end Magnitudes

theorem roundingError_nonneg {bound : Rat} (h : 0 ≤ bound) :
    0 ≤ roundingError bound :=
  add_nonneg (div_nonneg h (by positivity)) (le_of_lt leastError_pos)

theorem roundingError_mono {bound more : Rat} (h : bound ≤ more) :
    roundingError bound ≤ roundingError more := by
  unfold roundingError
  gcongr

theorem roundingError_lt {bound : Rat} (h : bound ≤ roundable) :
    bound + roundingError bound < 2 ^ 1024 := by
  have htwo : (2 : Rat) ≤ roundable := le_roundable (k := 1) (by decide)
  have hleast := leastError_le
  rw [show (2 : Rat) ^ 1024 = roundable * 2 from pow_succ 2 1023]
  unfold roundingError
  linarith

/-- A rational that is not too large is rounded to a double near it. -/
theorem ofRat_near {value bound : Rat} (h : |value| ≤ bound)
    (hbound : bound ≤ roundable) :
    (ofRat value).Near value (roundingError bound) := by
  by_cases hzero : value = 0
  · refine ⟨0, if_pos hzero, ?_⟩
    rw [hzero, sub_zero, abs_zero]
    exact roundingError_nonneg (le_trans (abs_nonneg value) h)
  · have hnum : 0 < value.num.natAbs :=
      Int.natAbs_pos.mpr (Rat.num_ne_zero.mpr hzero)
    have hnear := roundedMagnitude_near hnum value.den_pos
    have habs : (value.num.natAbs : Rat) / value.den = |value| := by
      rw [Rat.abs_def, Rat.divInt_eq_div, Int.cast_natCast, Int.cast_natCast]
    rw [habs] at hnear
    have hmagnitude := abs_le.mp (le_trans hnear (roundingError_mono h))
    have hless := roundingError_lt hbound
    unfold ofRat
    rw [if_neg hzero]
    dsimp only
    generalize roundedMagnitude value.num.natAbs value.den = magnitude at *
    have hle : magnitude ≤ bound + roundingError bound := by linarith
    rw [if_neg (not_le.mpr (lt_of_le_of_lt hle hless))]
    refine ⟨_, rfl, ?_⟩
    rw [abs_le]
    by_cases hsign : value < 0
    · rw [if_pos hsign]
      rw [abs_of_neg hsign] at hmagnitude
      constructor
      · linarith
      · linarith
    · rw [if_neg hsign]
      rw [abs_of_nonneg (not_lt.mp hsign)] at hmagnitude
      constructor
      · linarith
      · linarith

/-!
## Errors add up
-/

section Steps

variable {a b : JsNumber} {x y bound : Rat} {e f : Rat}

theorem Near.neg (h : a.Near x e) : a.neg.Near (-x) e := by
  rcases h with ⟨x', rfl, hx⟩
  refine ⟨-x', rfl, ?_⟩
  rw [neg_sub_neg, abs_sub_comm]
  exact hx

theorem Near.mono (h : a.Near x e) (hle : e ≤ f) : a.Near x f := by
  rcases h with ⟨x', rfl, hx⟩
  exact ⟨x', rfl, le_trans hx hle⟩

/-- A sum has the errors of both numbers and that of its own rounding. -/
theorem Near.add (ha : a.Near x e) (hb : b.Near y f)
    (hsum : |x + y| + (e + f) ≤ bound) (hbound : bound ≤ roundable) :
    (a.add b).Near (x + y) (e + f + roundingError bound) := by
  rcases ha with ⟨x', rfl, hx⟩
  rcases hb with ⟨y', rfl, hy⟩
  have hclose : |x' + y' - (x + y)| ≤ e + f := by
    rw [add_sub_add_comm]
    exact le_trans (abs_add_le _ _) (add_le_add hx hy)
  have hsize : |x' + y'| ≤ bound := by
    have htriangle := abs_sub_abs_le_abs_sub (x' + y') (x + y)
    linarith
  rcases ofRat_near hsize hbound with ⟨z, hz, hnear⟩
  refine ⟨z, hz, ?_⟩
  have htriangle := abs_sub_le z (x' + y') (x + y)
  linarith

/-- The error of a number is multiplied with it. -/
theorem Near.scale {factor : Rat} (ha : a.Near x e) (hfactor : 0 < factor)
    (hproduct : |x * factor| + e * factor ≤ bound)
    (hbound : bound ≤ roundable) :
    (a.scale factor).Near (x * factor) (e * factor + roundingError bound) := by
  rcases ha with ⟨x', rfl, hx⟩
  have hclose : |x' * factor - x * factor| ≤ e * factor := by
    rw [← sub_mul, abs_mul, abs_of_pos hfactor]
    gcongr
  have hsize : |x' * factor| ≤ bound := by
    have htriangle := abs_sub_abs_le_abs_sub (x' * factor) (x * factor)
    linarith
  rcases ofRat_near hsize hbound with ⟨z, hz, hnear⟩
  refine ⟨z, hz, ?_⟩
  have htriangle := abs_sub_le z (x' * factor) (x * factor)
  linarith

/-- An integer is found again where the errors leave less than one half. -/
theorem Near.round_eq {n : Int} (h : a.Near n e) (hless : e < 1 / 2) :
    a.round = finite n := by
  rcases h with ⟨x, rfl, hx⟩
  have hbounds := abs_le.mp hx
  have hfloor : (x + 1 / 2).floor = n := by
    apply le_antisymm
    · apply Int.lt_add_one_iff.mp
      rw [Rat.floor_lt_iff, Int.cast_add, Int.cast_one]
      linarith
    · rw [Rat.le_floor_iff]
      linarith
  rw [round, hfloor]

end Steps

end JsNumber
end Foundation
end AvtTracker
