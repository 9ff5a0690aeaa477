import AvtTracker.Foundation.DoubleAccuracy
import AvtTracker.Starlink.ReportValues

/-!
# How accurate decoded numbers are

Every number of a report goes through doubles.  Integers survive this, a distance
in whole meters too, and a coordinate is off by less than anyone can measure.
-/

namespace AvtTracker
namespace Starlink

open Foundation JsNumber

section Numerals

theorem decimal_near (x : DecimalNumeral) (h : |x.value| ≤ roundable) :
    x.number.Near x.value (roundingError |x.value|) :=
  ofRat_near (le_refl _) h

theorem thousandfold_eq (x : DecimalNumeral) {meters : Int}
    (hmeters : x.value * 1000 = meters) (h : |meters| ≤ 2 ^ 50) :
    x.thousandfold = JsNumber.finite meters := by
  have hsize : |x.value * 1000| ≤ 2 ^ 50 := by
    rw [hmeters]
    exact_mod_cast h
  have hvalue : |x.value| * 1000 ≤ 2 ^ 50 := by
    rwa [abs_mul, abs_of_pos (by norm_num : (0 : Rat) < 1000)] at hsize
  have hlarge : (2 : Rat) ^ 51 ≤ roundable := le_roundable (by decide)
  have hleast := leastError_le
  have hscaled : (x.number.scale 1000).Near (x.value * 1000)
      (roundingError |x.value| * 1000 + roundingError (2 ^ 51)) := by
    apply (decimal_near x (by linarith)).scale (by norm_num) _ hlarge
    unfold roundingError
    linarith
  rw [hmeters] at hscaled
  apply hscaled.round_eq
  unfold roundingError
  linarith

/-- Degrees and minutes are rounded, divided and added: four times the error of
the outcome covers all of it. -/
theorem sum_near {degrees minutes : Rat} (hdegrees : 0 ≤ degrees)
    (hminutes : 0 ≤ minutes)
    (h : 64 * (degrees + minutes / 60) ≤ roundable) :
    ((JsNumber.ofRat degrees).add ((JsNumber.ofRat minutes).scale
        (1 / 60))).Near (degrees + minutes / 60)
      (4 * roundingError (degrees + minutes / 60)) := by
  have hlarge : (2 : Rat) ^ 51 ≤ roundable := le_roundable (by decide)
  have hleast := leastError_le
  have hpositive := leastError_pos
  have hdegreesNear := ofRat_near (le_of_eq (abs_of_nonneg hdegrees))
    (by linarith)
  have hminutesNear := ofRat_near (le_of_eq (abs_of_nonneg hminutes))
    (by linarith)
  have hquotient : |minutes * (1 / 60)| = minutes / 60 := by
    rw [mul_one_div, abs_of_nonneg (by positivity)]
  have hdivided : ((JsNumber.ofRat minutes).scale (1 / 60)).Near
      (minutes * (1 / 60)) (roundingError minutes * (1 / 60) +
        roundingError (minutes / 60 + roundingError minutes / 60)) := by
    apply hminutesNear.scale (by norm_num)
    · rw [hquotient]
      linarith
    · unfold roundingError
      linarith
  rw [mul_one_div] at hdivided
  have hsize : |degrees + minutes / 60| = degrees + minutes / 60 :=
    abs_of_nonneg (by positivity)
  have hsum := hdegreesNear.add hdivided
    (le_of_eq (congrArg (fun size => size + _) hsize))
    (by
      unfold roundingError
      linarith)
  apply hsum.mono
  unfold roundingError
  linarith

theorem minutesValue_nonneg (c : Coordinate) : 0 ≤ c.minutesValue := by
  unfold Coordinate.minutesValue
  positivity

theorem abs_value (c : Coordinate) :
    |c.value| = digitsValue (chars c.degrees) + c.minutesValue / 60 := by
  have hminutes := minutesValue_nonneg c
  have hnonneg : (0 : Rat) ≤
      digitsValue (chars c.degrees) + c.minutesValue / 60 := by
    positivity
  unfold Coordinate.value
  dsimp only
  split_ifs
  · rw [abs_neg, abs_of_nonneg hnonneg]
  · exact abs_of_nonneg hnonneg

theorem coordinate_near (c : Coordinate) (h : 64 * |c.value| ≤ roundable) :
    c.number.Near c.value (4 * roundingError |c.value|) := by
  rw [abs_value] at h ⊢
  have hsum := sum_near (Nat.cast_nonneg (digitsValue (chars c.degrees)))
    (minutesValue_nonneg c) h
  rw [add_eq, scale_eq] at hsum
  unfold Coordinate.number combined Coordinate.value Coordinate.text
  cases c.negative with
  | false => exact hsum
  | true => exact hsum.neg

end Numerals

/-!
## What the decoder returns
-/

/--
The numbers of a report are decoded accurately: an integer of up to 53 bits and a
distance in whole meters as they are, a decimal number within half a unit of the
last place of a double, and a coordinate of the globe within a ten-trillionth of
a degree.
-/
theorem decodedNumbers_accurate :
    (forall n : IntegerNumeral, n.value.natAbs < 2 ^ 53 ->
      parseStrictInt n.text = Except.ok (JsNumber.finite n.value)) ∧
    (forall x : DecimalNumeral, |x.value| ≤ roundable ->
      exists number, parseStrictFloat x.text = Except.ok number ∧
        number.Near x.value (roundingError |x.value|)) ∧
    (forall (x : DecimalNumeral) (meters : Int) (p : StarlinkReportPayload),
      x.value * 1000 = meters -> |meters| ≤ 2 ^ 50 ->
        applyTag "#ODO#" x.text p = Except.ok { p with
          odometerM := some (JsNumber.finite meters) }) ∧
    forall c : Coordinate, |c.value| ≤ 180 ->
      exists number, parseStarlinkCoordinate c.text = Except.ok number ∧
        number.Near c.value (1 / 10 ^ 13) := by
  refine ⟨?_, ?_, ?_, ?_⟩
  · intro n h
    rw [parseStrictInt_text, IntegerNumeral.number, ofInt_eq h]
  · intro x h
    exact ⟨_, parseStrictFloat_text x, decimal_near x h⟩
  · intro x meters p hmeters h
    simp only [applyTag, parseStrictFloat_text]
    rw [← thousandfold_eq x hmeters h]
    rfl
  · intro c h
    have hlarge : (2 : Rat) ^ 51 ≤ roundable := le_roundable (by decide)
    have hleast := leastError_le
    refine ⟨_, parseStarlinkCoordinate_text c, ?_⟩
    apply (coordinate_near c (by linarith)).mono
    unfold roundingError
    linarith

/-- The largest integer below 2^53. -/
def largestInteger : IntegerNumeral where
  sign := NumeralSign.unsigned
  digits := utf16 "9007199254740991"
  digits_valid := by decide

/-- Forty-seven kilometers and 333 meters. -/
def distance : DecimalNumeral where
  sign := NumeralSign.unsigned
  whole := utf16 "47"
  fraction := utf16 "333"
  whole_valid := by decide
  fraction_valid := by decide

def latitude : Coordinate where
  negative := true
  degrees := utf16 "39"
  minutes := utf16 "34"
  fraction := utf16 "567890"
  degrees_valid := by decide
  minutes_valid := by decide
  fraction_valid := by decide

theorem decodedNumbers_accurate_latitude :
    parseStrictInt (utf16 "9007199254740991") =
        Except.ok (JsNumber.finite 9007199254740991) ∧
    (exists number, parseStrictFloat (utf16 "47.333") = Except.ok number ∧
      number.Near (47333 / 1000) (roundingError (47333 / 1000))) ∧
    applyTag "#ODO#" (utf16 "47.333") {} =
        Except.ok { odometerM := some (JsNumber.finite 47333) } ∧
    exists number,
      parseStarlinkCoordinate (utf16 "-3934.567890") = Except.ok number ∧
        number.Near (-395761315 / 10000000) (1 / 10 ^ 13) := by
  rcases decodedNumbers_accurate with ⟨hint, hfloat, hodometer, hcoordinate⟩
  have hdistance : distance.value = 47333 / 1000 := by
    decide +kernel
  have hlatitude : latitude.value = -395761315 / 10000000 := by
    decide +kernel
  refine ⟨hint largestInteger (by decide +kernel), ?_, ?_, ?_⟩
  · have hnear := hfloat distance (by decide +kernel)
    rw [hdistance, abs_of_nonneg (by norm_num)] at hnear
    exact hnear
  · exact hodometer distance 47333 {} (by decide +kernel) (by decide +kernel)
  · have hnear := hcoordinate latitude (by decide +kernel)
    rw [hlatitude] at hnear
    exact hnear

end Starlink
end AvtTracker
