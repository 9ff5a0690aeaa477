import Mathlib.Algebra.Field.Rat
import Mathlib.Data.Rat.Cast.Order
import Mathlib.Tactic.Common

/-!
# Numbers of the language

A number is a double: not a number, an infinity, or a rational of the binary64
format.  Operations are carried out exactly and then rounded to the nearest
double, ties to even.  The sign of a zero is not kept.
-/

namespace AvtTracker
namespace Foundation

inductive JsNumber where
  | nan
  | infinity (negative : Bool)
  | finite (value : Rat)
  deriving DecidableEq, Repr

namespace JsNumber

/-!
## Rounding
-/

/-- The quotient of two naturals, rounded to the nearest natural, ties to
even. -/
def roundedQuotient (numerator denominator : Nat) : Nat :=
  let quotient := numerator / denominator
  let rest := numerator % denominator
  if 2 * rest < denominator then quotient
  else if denominator < 2 * rest then quotient + 1
  else quotient + quotient % 2

/-- The exponent of the last place of the doubles around a positive rational:
its significand has 53 bits, unless it is subnormal. -/
def lastPlace (numerator denominator : Nat) : Int :=
  let estimate : Int := (numerator.log2 : Int) - denominator.log2
  let exponent :=
    if 2 ^ (-estimate).toNat * numerator < 2 ^ estimate.toNat * denominator
    then estimate - 1
    else estimate
  max (exponent - 52) (-1074)

/-- The magnitude of the double nearest to a positive rational, before an
overflow is noticed. -/
def roundedMagnitude (numerator denominator : Nat) : Rat :=
  let place := lastPlace numerator denominator
  let significand := roundedQuotient (2 ^ (-place).toNat * numerator)
    (2 ^ place.toNat * denominator)
  ((significand * 2 ^ place.toNat : Nat) : Rat) /
    ((2 ^ (-place).toNat : Nat) : Rat)

/-- The double nearest to a rational. -/
def ofRat (value : Rat) : JsNumber :=
  if value = 0 then finite 0
  else
    let magnitude := roundedMagnitude value.num.natAbs value.den
    if 2 ^ 1024 ≤ magnitude then infinity (decide (value < 0))
    else finite (if value < 0 then -magnitude else magnitude)

def ofInt (value : Int) : JsNumber :=
  ofRat value

instance (n : Nat) : OfNat JsNumber n where
  ofNat := finite n

/-!
## Arithmetic
-/

def neg : JsNumber -> JsNumber
  | nan => nan
  | infinity negative => infinity (!negative)
  | finite value => finite (-value)

def add : JsNumber -> JsNumber -> JsNumber
  | nan, _ => nan
  | _, nan => nan
  | infinity a, infinity b => if a = b then infinity a else nan
  | infinity a, finite _ => infinity a
  | finite _, infinity b => infinity b
  | finite a, finite b => ofRat (a + b)

def sub (a b : JsNumber) : JsNumber :=
  a.add b.neg

def scale (factor : Rat) : JsNumber -> JsNumber
  | nan => nan
  | infinity negative => infinity negative
  | finite value => ofRat (value * factor)

def addWith (rounding : Rat -> JsNumber) : JsNumber -> JsNumber -> JsNumber
  | nan, _ => nan
  | _, nan => nan
  | infinity a, infinity b => if a = b then infinity a else nan
  | infinity a, finite _ => infinity a
  | finite _, infinity b => infinity b
  | finite a, finite b => rounding (a + b)

def scaleWith (rounding : Rat -> JsNumber) (factor : Rat) :
    JsNumber -> JsNumber
  | nan => nan
  | infinity negative => infinity negative
  | finite value => rounding (value * factor)

theorem add_eq (a b : JsNumber) : a.add b = addWith ofRat a b := by
  cases a <;> cases b <;> rfl

theorem scale_eq (factor : Rat) (a : JsNumber) :
    a.scale factor = scaleWith ofRat factor a := by
  cases a <;> rfl

/-- {lit}`Math.round` -/
def round : JsNumber -> JsNumber
  | nan => nan
  | infinity negative => infinity negative
  | finite value => finite (value + 1 / 2).floor

/-- The operator {lit}`<`; nothing is less or greater than {lit}`NaN`. -/
def lt : JsNumber -> JsNumber -> Bool
  | nan, _ => false
  | _, nan => false
  | infinity a, infinity b => a && !b
  | infinity a, finite _ => a
  | finite _, infinity b => !b
  | finite a, finite b => decide (a < b)

def isPositive : JsNumber -> Bool
  | nan => false
  | infinity negative => !negative
  | finite value => decide (0 < value)

end JsNumber

namespace JsNumber

/-!
## Small integers are doubles
-/

theorem roundedQuotient_one (numerator : Nat) :
    roundedQuotient numerator 1 = numerator := by
  simp [roundedQuotient, Nat.mod_one]

theorem lastPlace_one {n : Nat} (hpos : n ≠ 0) (hlt : n < 2 ^ 53) :
    exists k : Nat, lastPlace n 1 = -(k : Int) := by
  have hlog : n.log2 < 53 := (Nat.log2_lt hpos).mpr hlt
  have hone : Nat.log2 1 = 0 := by decide
  have hself : ¬ n < 2 ^ n.log2 := Nat.not_lt.mpr (Nat.log2_self_le hpos)
  refine ⟨52 - n.log2, ?_⟩
  simp only [lastPlace, hone]
  rw [if_neg]
  · lia
  · simpa using hself

theorem roundedMagnitude_one {n : Nat} (hpos : n ≠ 0) (hlt : n < 2 ^ 53) :
    roundedMagnitude n 1 = n := by
  rcases lastPlace_one hpos hlt with ⟨k, hplace⟩
  have hpow : ((2 ^ k : Nat) : Rat) ≠ 0 :=
    Nat.cast_ne_zero.mpr (Nat.ne_of_gt (Nat.two_pow_pos k))
  simp only [roundedMagnitude, hplace, Int.neg_neg, Int.toNat_natCast,
    Int.toNat_neg_natCast, Nat.pow_zero, Nat.mul_one, roundedQuotient_one]
  rw [Nat.cast_mul, mul_comm, mul_div_assoc, div_self hpow, mul_one]

theorem not_pow_le {n a b : Nat} (h : n < 2 ^ a) (hab : a ≤ b) :
    ¬ (2 : Rat) ^ b ≤ (n : Rat) := by
  intro hc
  have hle : 2 ^ b ≤ n := by exact_mod_cast hc
  have hmono : 2 ^ a ≤ 2 ^ b := Nat.pow_le_pow_right (by decide) hab
  exact absurd (Nat.le_trans hmono hle) (Nat.not_le.mpr h)

theorem ofInt_eq {n : Int} (h : n.natAbs < 2 ^ 53) : ofInt n = finite n := by
  unfold ofInt ofRat
  by_cases hzero : n = 0
  · subst hzero
    rfl
  · have hcast : (n : Rat) ≠ 0 := Int.cast_ne_zero.mpr hzero
    have hsmall := not_pow_le h (show 53 ≤ 1024 by decide)
    have hmagnitude := roundedMagnitude_one (Int.natAbs_ne_zero.mpr hzero) h
    rw [if_neg hcast]
    simp only [Rat.num_intCast, Rat.den_intCast, hmagnitude, if_neg hsmall]
    congr 1
    by_cases hsign : n < 0
    · rw [if_pos (Int.cast_lt_zero.mpr hsign), Nat.cast_natAbs,
        abs_of_neg hsign, Int.cast_neg, neg_neg]
    · have hnonneg := not_lt.mp hsign
      rw [if_neg (by simpa using hnonneg), Nat.cast_natAbs,
        abs_of_nonneg hnonneg]

theorem ofInt_natCast {n : Nat} (h : n < 2 ^ 53) :
    ofInt (n : Int) = finite n := by
  rw [ofInt_eq (by simpa using h), Int.cast_natCast]

/-!
## Large integers
-/

theorem two_pow_le_roundedMagnitude {n : Nat} (h : 2 ^ 53 ≤ n) :
    (2 : Rat) ^ 53 ≤ roundedMagnitude n 1 := by
  have hpos : n ≠ 0 := by
    intro hzero
    rw [hzero] at h
    cases Nat.not_lt.mpr h (by decide)
  have hlog : 53 ≤ n.log2 := (Nat.le_log2 hpos).mpr h
  have hone : Nat.log2 1 = 0 := by decide
  have hself : ¬ n < 2 ^ n.log2 := Nat.not_lt.mpr (Nat.log2_self_le hpos)
  have hplace : lastPlace n 1 = ((n.log2 - 52 : Nat) : Int) := by
    simp only [lastPlace, hone]
    rw [if_neg]
    · lia
    · simpa using hself
  have hquotient : 2 ^ 52 ≤ n / 2 ^ (n.log2 - 52) := by
    rw [Nat.le_div_iff_mul_le (Nat.two_pow_pos _), ← Nat.pow_add]
    have hsum : 52 + (n.log2 - 52) = n.log2 := by lia
    rw [hsum]
    exact Nat.log2_self_le hpos
  have hrounded : n / 2 ^ (n.log2 - 52) ≤
      roundedQuotient n (2 ^ (n.log2 - 52)) := by
    unfold roundedQuotient
    dsimp only
    split_ifs <;> lia
  have hscale : 2 ^ 1 ≤ 2 ^ (n.log2 - 52) :=
    Nat.pow_le_pow_right (by decide) (by lia)
  have hproduct : 2 ^ 53 ≤
      roundedQuotient n (2 ^ (n.log2 - 52)) * 2 ^ (n.log2 - 52) :=
    Nat.mul_le_mul (Nat.le_trans hquotient hrounded) hscale
  simp only [roundedMagnitude, hplace, Int.toNat_natCast,
    Int.toNat_neg_natCast, Nat.pow_zero, Nat.one_mul, Nat.mul_one,
    Nat.cast_one, div_one]
  exact_mod_cast hproduct

/-- No larger integer is rounded to an integer of up to 53 bits. -/
theorem ofRat_natCast_ne {m n : Nat} (hn : n < 2 ^ 53) (h : n < m) :
    ofRat m ≠ finite n := by
  intro hround
  by_cases hm : m < 2 ^ 53
  · have hexact : ofRat m = finite m := by
      have hread := ofInt_natCast hm
      rwa [ofInt, Int.cast_natCast] at hread
    rw [hexact, finite.injEq, Nat.cast_inj] at hround
    lia
  · have hlarge := two_pow_le_roundedMagnitude (Nat.not_lt.mp hm)
    have hcast : (m : Rat) ≠ 0 := Nat.cast_ne_zero.mpr (by lia)
    have hsign : ¬ (m : Rat) < 0 := not_lt.mpr (Nat.cast_nonneg m)
    unfold ofRat at hround
    rw [if_neg hcast] at hround
    simp only [Rat.num_natCast, Rat.den_natCast, Int.natAbs_natCast,
      if_neg hsign] at hround
    split_ifs at hround
    rw [finite.injEq] at hround
    rw [hround] at hlarge
    exact not_pow_le hn (Nat.le_refl 53) hlarge

end JsNumber

end Foundation
end AvtTracker
