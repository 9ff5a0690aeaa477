import AvtTracker.Foundation.Doubles
import Mathlib.Algebra.Order.Field.Power
import Mathlib.Data.List.TakeWhile
import Mathlib.Tactic.Positivity

/-!
# Numbers written as text

The conversion of a number to text of the language standard.  Of the decimals that
are read back as the number those with the fewest digits are looked for, and of
these the one nearest to it is written, with an exponent where it is very large or
very small.
-/

namespace AvtTracker
namespace Foundation

/-- A natural number of units of a power of ten. -/
structure Decimal where
  digits : Nat
  exponent : Int
  deriving DecidableEq, Repr

namespace Decimal

def value (d : Decimal) : Rat :=
  d.digits * (10 : Rat) ^ d.exponent

/-- The decimal is read as the double. -/
def reads (number : Rat) (d : Decimal) : Bool :=
  decide (JsNumber.ofRat d.value = JsNumber.finite number)

end Decimal

/-!
## The shortest decimal
-/

/-- How many digits a positive rational has in front of its point; zeros behind
the point count negatively. -/
def pointPlace (number : Rat) : Int :=
  let estimate : Int := ((Nat.toDigits 10 number.num.natAbs).length : Int) -
    (Nat.toDigits 10 number.den).length
  if number < (10 : Rat) ^ estimate then estimate else estimate + 1

/-- The decimals around a number whose last digits are at a place, the nearer one
first; of two as near the even one. -/
def decimalsAround (number : Rat) (exponent : Int) : List Decimal :=
  let below : Decimal :=
    { digits := (number / (10 : Rat) ^ exponent).floor.toNat
      exponent := exponent }
  let above : Decimal := { below with digits := below.digits + 1 }
  if above.value - number < number - below.value ∨
      above.value - number = number - below.value ∧ below.digits % 2 = 1
  then [above, below]
  else [below, above]

def decimalAt (number : Rat) (exponent : Int) : Option Decimal :=
  (decimalsAround number exponent).find? (Decimal.reads number)

/-- The decimal of the first place, among so many from one on, that has one. -/
def firstDecimal (number : Rat) : Nat -> Int -> Option Decimal
  | 0, _ => none
  | places + 1, exponent =>
      match decimalAt number exponent with
      | some d => some d
      | none => firstDecimal number places (exponent - 1)

/-- Seventeen digits are enough for every double. -/
def shortestDecimal (number : Rat) : Option Decimal :=
  firstDecimal number 17 (pointPlace number - 1)

/-!
## Its text
-/

/-- Digits without the zeros behind them. -/
def stripZeros (digits : List Char) : List Char :=
  (digits.reverse.dropWhile (fun c => c == '0')).reverse

/-- Digits whose point is at a place, as the standard lays them out. -/
def layOut (digits : List Char) (point : Int) : List Char :=
  if (digits.length : Int) ≤ point ∧ point ≤ 21 then
    digits ++ List.replicate (point.toNat - digits.length) '0'
  else if 0 < point ∧ point ≤ 21 then
    digits.take point.toNat ++ '.' :: digits.drop point.toNat
  else if -6 < point ∧ point ≤ 0 then
    '0' :: '.' :: (List.replicate (-point).toNat '0' ++ digits)
  else
    let exponent := point - 1
    digits.take 1 ++ (if digits.length = 1 then [] else '.' :: digits.drop 1) ++
      'e' :: (if exponent < 0 then '-' else '+') ::
        Nat.toDigits 10 exponent.natAbs

def Decimal.text (d : Decimal) : List Char :=
  let digits := Nat.toDigits 10 d.digits
  layOut (stripZeros digits) (digits.length + d.exponent)

def numberText (number : Rat) : String :=
  if number = 0 then "0"
  else String.ofList ((if number < 0 then ['-'] else []) ++
    ((shortestDecimal number.abs).map Decimal.text).getD [])

def JsNumber.text : JsNumber -> String
  | nan => "NaN"
  | infinity true => "-Infinity"
  | infinity false => "Infinity"
  | finite value => numberText value

/-- The digits behind the seventeenth are not those of the integer. -/
example : (JsNumber.ofInt 123456789012345678901).text =
    "123456789012345680000" := by
  decide +kernel

/-- Of two decimals with sixteen digits only the one further away is read back. -/
example : (JsNumber.ofRat (1 / 2 ^ 44)).text = "5.684341886080802e-14" := by
  decide +kernel

/-!
## Integers
-/

section Integers

variable {n e : Nat}

theorem decimalsAround_bounds {number : Rat} (hnumber : 0 ≤ number)
    (exponent : Int) : exists digits : Nat,
      (digits : Rat) * (10 : Rat) ^ exponent ≤ number ∧
        number < ((digits + 1 : Nat) : Rat) * (10 : Rat) ^ exponent ∧
          forall d, d ∈ decimalsAround number exponent ->
            d = { digits := digits, exponent := exponent } ∨
              d = { digits := digits + 1, exponent := exponent } := by
  have hunit : (0 : Rat) < (10 : Rat) ^ exponent := by positivity
  have hnonneg : 0 ≤ (number / (10 : Rat) ^ exponent).floor :=
    Rat.le_floor_iff.mpr (div_nonneg hnumber (le_of_lt hunit))
  have hfloor : (((number / (10 : Rat) ^ exponent).floor.toNat : Nat) : Rat) =
      ((number / (10 : Rat) ^ exponent).floor : Rat) := by
    exact_mod_cast Int.toNat_of_nonneg hnonneg
  refine ⟨(number / (10 : Rat) ^ exponent).floor.toNat, ?_, ?_, ?_⟩
  · rw [hfloor, ← le_div_iff₀ hunit]
    exact Rat.floor_le _
  · have hlt := Rat.lt_floor_add_one (number / (10 : Rat) ^ exponent)
    rw [Int.cast_add, Int.cast_one] at hlt
    rw [Nat.cast_add, Nat.cast_one, hfloor, ← div_lt_iff₀ hunit]
    exact hlt
  · intro d hd
    unfold decimalsAround at hd
    dsimp only at hd
    split_ifs at hd
    · rcases List.mem_pair.mp hd with habove | hbelow
      · exact Or.inr habove
      · exact Or.inl hbelow
    · exact List.mem_pair.mp hd

theorem value_natural (digits e : Nat) :
    Decimal.value { digits := digits, exponent := e } =
      ((digits * 10 ^ e : Nat) : Rat) := by
  rw [Decimal.value, zpow_natCast]
  push_cast
  rfl

theorem ofRat_natCast (h : n < 2 ^ 53) :
    JsNumber.ofRat n = JsNumber.finite n := by
  have hread := JsNumber.ofInt_natCast h
  rwa [JsNumber.ofInt, Int.cast_natCast] at hread

/-- A decimal that is read as an integer and does not end behind its point is
that integer. -/
theorem decimalAt_natCast (hn : n < 2 ^ 53) {d : Decimal}
    (h : decimalAt n e = some d) :
    exists digits : Nat, d = { digits := digits, exponent := e } ∧
      digits * 10 ^ e = n := by
  rcases decimalsAround_bounds (Nat.cast_nonneg n) (e : Int) with
    ⟨digits, hbelow, habove, hcases⟩
  have hread : JsNumber.ofRat d.value = JsNumber.finite n :=
    of_decide_eq_true (List.find?_some (p := Decimal.reads n) h)
  rw [zpow_natCast] at hbelow habove
  have hbelow' : digits * 10 ^ e ≤ n := by exact_mod_cast hbelow
  have habove' : n < (digits + 1) * 10 ^ e := by exact_mod_cast habove
  rcases hcases d (List.mem_of_find?_eq_some h) with rfl | rfl
  · rw [value_natural, ofRat_natCast (Nat.lt_of_le_of_lt hbelow' hn),
      JsNumber.finite.injEq, Nat.cast_inj] at hread
    exact ⟨digits, rfl, hread⟩
  · rw [value_natural] at hread
    exact absurd hread (JsNumber.ofRat_natCast_ne hn habove')

theorem decimalAt_zero (hn : n < 2 ^ 53) :
    (decimalAt n 0).isSome = true := by
  unfold decimalAt
  rw [List.find?_isSome]
  refine ⟨{ digits := n, exponent := 0 }, ?_, ?_⟩
  · have hfloor : ((n : Rat) / (10 : Rat) ^ (0 : Int)).floor.toNat = n := by
      have hcast := Rat.floor_intCast (n : Int)
      rw [Int.cast_natCast] at hcast
      rw [zpow_zero, div_one, hcast, Int.toNat_natCast]
    unfold decimalsAround
    dsimp only
    rw [hfloor]
    split_ifs
    · exact List.mem_pair.mpr (Or.inr rfl)
    · exact List.mem_pair.mpr (Or.inl rfl)
  · apply decide_eq_true
    have hvalue := value_natural n 0
    rw [Nat.pow_zero, Nat.mul_one] at hvalue
    rw [show Decimal.value { digits := n, exponent := 0 } = n from hvalue]
    exact ofRat_natCast hn

theorem firstDecimal_natCast (hn : n < 2 ^ 53) (places : Nat) (h : e < places) :
    exists digits place : Nat,
      firstDecimal n places e =
          some { digits := digits, exponent := place } ∧
        digits * 10 ^ place = n := by
  induction e generalizing places with
  | zero =>
      cases places with
      | zero => cases h
      | succ places =>
          rcases Option.isSome_iff_exists.mp (decimalAt_zero hn) with ⟨d, hd⟩
          rcases decimalAt_natCast (e := 0) hn hd with ⟨digits, rfl, hdigits⟩
          refine ⟨digits, 0, ?_, hdigits⟩
          show (match decimalAt n 0 with
            | some d => some d
            | none => firstDecimal n places (0 - 1)) = _
          rw [hd]
  | succ e ih =>
      cases places with
      | zero => cases h
      | succ places =>
          rw [firstDecimal]
          cases hd : decimalAt n ((e + 1 : Nat) : Int) with
          | some d =>
              rcases decimalAt_natCast hn hd with ⟨digits, rfl, hdigits⟩
              exact ⟨digits, e + 1, rfl, hdigits⟩
          | none =>
              have hplace : ((e + 1 : Nat) : Int) - 1 = (e : Int) := by lia
              rw [hplace]
              exact ih places (Nat.lt_of_succ_lt_succ h)

theorem pow_le_of_length_toDigits {k : Nat} (hpos : n ≠ 0)
    (h : (Nat.toDigits 10 n).length = k + 1) : 10 ^ k ≤ n := by
  cases k with
  | zero => exact Nat.one_le_iff_ne_zero.mpr hpos
  | succ k =>
      apply Nat.not_lt.mp
      intro hlt
      have hle := (Nat.length_toDigits_le_iff (by decide)
        (Nat.succ_pos k)).mpr hlt
      lia

theorem pointPlace_natCast (hpos : n ≠ 0) :
    pointPlace n = (Nat.toDigits 10 n).length := by
  have hlength : 0 < (Nat.toDigits 10 n).length := Nat.length_toDigits_pos
  rcases Nat.exists_eq_add_one.mpr hlength with ⟨k, hk⟩
  have hle := pow_le_of_length_toDigits hpos hk
  have hone : (Nat.toDigits 10 1).length = 1 := rfl
  have hestimate : ((k + 1 : Nat) : Int) - (1 : Nat) = (k : Int) := by lia
  unfold pointPlace
  dsimp only
  rw [Rat.num_natCast, Rat.den_natCast, Int.natAbs_natCast, hone, hk, hestimate,
    zpow_natCast, if_neg]
  · rw [Nat.cast_succ]
  · rw [not_lt]
    exact_mod_cast hle

theorem toDigits_mul_pow (hpos : n ≠ 0) (e : Nat) :
    Nat.toDigits 10 (n * 10 ^ e) =
      Nat.toDigits 10 n ++ List.replicate e '0' := by
  induction e with
  | zero => simp
  | succ e ih =>
      have hproduct : 0 < n * 10 ^ e :=
        Nat.mul_pos (Nat.pos_of_ne_zero hpos) (Nat.pow_pos (by decide))
      have hshift := Nat.toDigits_append_toDigits (b := 10) (by decide)
        hproduct (show 0 < 10 by decide)
      rw [Nat.add_zero, ih] at hshift
      rw [Nat.pow_succ, ← Nat.mul_assoc, Nat.mul_comm _ 10, ← hshift,
        List.append_assoc, List.replicate_succ']
      rfl

theorem exists_stripZeros (digits : List Char) :
    exists zeros, digits = stripZeros digits ++ List.replicate zeros '0' := by
  refine ⟨(digits.reverse.takeWhile (fun c => c == '0')).length, ?_⟩
  have hzeros : digits.reverse.takeWhile (fun c => c == '0') =
      List.replicate (digits.reverse.takeWhile (fun c => c == '0')).length
        '0' := by
    apply List.eq_replicate_length.mpr
    intro c hc
    exact beq_iff_eq.mp
      (List.mem_takeWhile_imp (p := fun c => c == '0') hc)
  have hsplit := List.takeWhile_append_dropWhile
    (p := fun c => c == '0') (l := digits.reverse)
  rw [hzeros] at hsplit
  have hreverse := congrArg List.reverse hsplit
  rw [List.reverse_append, List.reverse_reverse, List.reverse_replicate]
    at hreverse
  exact hreverse.symm

theorem text_natural {digits place : Nat} (hpos : digits ≠ 0)
    (h : (Nat.toDigits 10 (digits * 10 ^ place)).length ≤ 21) :
    Decimal.text { digits := digits, exponent := place } =
      Nat.toDigits 10 (digits * 10 ^ place) := by
  rcases exists_stripZeros (Nat.toDigits 10 digits) with ⟨zeros, hstrip⟩
  have hdigits := toDigits_mul_pow hpos place
  have hlength := congrArg List.length hdigits
  have hkept := congrArg List.length hstrip
  rw [List.length_append, List.length_replicate] at hlength hkept
  have hpoint : ((Nat.toDigits 10 digits).length : Int) + place =
      ((Nat.toDigits 10 (digits * 10 ^ place)).length : Int) := by
    lia
  have hzeros : (Nat.toDigits 10 (digits * 10 ^ place)).length -
      (stripZeros (Nat.toDigits 10 digits)).length = zeros + place := by
    lia
  unfold Decimal.text
  dsimp only
  rw [hpoint, layOut, if_pos (by lia), Int.toNat_natCast, hzeros,
    List.replicate_add, ← List.append_assoc, ← hstrip, hdigits]

theorem numberText_natCast (hn : n < 2 ^ 53) :
    numberText (n : Rat) = String.ofList (Nat.toDigits 10 n) := by
  unfold numberText
  by_cases hzero : n = 0
  · subst hzero
    rfl
  · have hcast : (n : Rat) ≠ 0 := Nat.cast_ne_zero.mpr hzero
    have hsign : ¬ (n : Rat) < 0 := not_lt.mpr (Nat.cast_nonneg n)
    have habs : (n : Rat).abs = n := Rat.abs_of_nonneg (Nat.cast_nonneg n)
    have hlength : (Nat.toDigits 10 n).length ≤ 16 := by
      apply (Nat.length_toDigits_le_iff (by decide) (by decide)).mpr
      exact Nat.lt_trans hn (by decide)
    rcases Nat.exists_eq_add_one.mpr
      (Nat.length_toDigits_pos (b := 10) (n := n)) with ⟨k, hk⟩
    have hplace : pointPlace n - 1 = (k : Int) := by
      rw [pointPlace_natCast hzero, hk]
      lia
    rcases firstDecimal_natCast (e := k) hn 17 (by lia) with
      ⟨digits, place, hfirst, hdigits⟩
    have hnonzero : digits ≠ 0 := by
      rintro rfl
      rw [Nat.zero_mul] at hdigits
      exact hzero hdigits.symm
    have hplaces : (Nat.toDigits 10 (digits * 10 ^ place)).length ≤ 21 := by
      rw [hdigits]
      lia
    rw [if_neg hcast, if_neg hsign, habs, shortestDecimal, hplace, hfirst,
      Option.map_some, Option.getD_some, text_natural hnonzero hplaces, hdigits,
      List.nil_append]

end Integers

end Foundation
end AvtTracker
