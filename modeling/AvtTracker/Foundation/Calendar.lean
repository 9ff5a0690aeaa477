import Mathlib.Tactic.Common

/-!
# Calendar arithmetic

The time values of the ECMAScript {lit}`Date` object: milliseconds since the
epoch, decomposed and composed in the proleptic Gregorian calendar in UTC.  A
{lit}`Date` whose time value is {lit}`none` is an invalid date.
-/

namespace AvtTracker
namespace Foundation
namespace Calendar

def msPerDay : Int := 86400000

/-- Number of the first day of a year, counted from the epoch. -/
def dayFromYear (y : Int) : Int :=
  365 * (y - 1970) + (y - 1969) / 4 - (y - 1901) / 100 + (y - 1601) / 400

def isLeapYear (y : Int) : Bool :=
  y % 4 == 0 && (y % 100 != 0 || y % 400 == 0)

/-- Days of a year in front of each of its months. -/
def monthStarts (leap : Bool) : List Int :=
  [0, 31, 59 + leap.toInt, 90 + leap.toInt, 120 + leap.toInt,
    151 + leap.toInt, 181 + leap.toInt, 212 + leap.toInt, 243 + leap.toInt,
    273 + leap.toInt, 304 + leap.toInt, 334 + leap.toInt]

/-- Days of a year in front of its zero-based month. -/
def daysBeforeMonth (leap : Bool) (month : Nat) : Int :=
  (monthStarts leap).getD month 0

def daysInMonth (leap : Bool) (month : Nat) : Int :=
  [31, 28 + leap.toInt, 31, 30, 31, 30, 31, 31, 30, 31, 30, 31].getD month 0

/-- The year that contains a day.  The average year length puts the estimate
at most one year off. -/
def yearFromDay (d : Int) : Int :=
  let estimate := 1970 + 400 * d / 146097
  if d < dayFromYear estimate then estimate - 1
  else if dayFromYear (estimate + 1) ≤ d then estimate + 1
  else estimate

def dayWithinYear (d : Int) : Int :=
  d - dayFromYear (yearFromDay d)

/-- Zero-based month of the {lit}`n`-th day of a year. -/
def monthWithinYear (leap : Bool) (n : Int) : Nat :=
  if n < 31 then 0
  else if n < 59 + leap.toInt then 1
  else if n < 90 + leap.toInt then 2
  else if n < 120 + leap.toInt then 3
  else if n < 151 + leap.toInt then 4
  else if n < 181 + leap.toInt then 5
  else if n < 212 + leap.toInt then 6
  else if n < 243 + leap.toInt then 7
  else if n < 273 + leap.toInt then 8
  else if n < 304 + leap.toInt then 9
  else if n < 334 + leap.toInt then 10
  else 11

def monthFromDay (d : Int) : Int :=
  monthWithinYear (isLeapYear (yearFromDay d)) (dayWithinYear d)

def dateFromDay (d : Int) : Int :=
  let leap := isLeapYear (yearFromDay d)
  dayWithinYear d - daysBeforeMonth leap (monthFromDay d).toNat + 1

/-- The day a year, zero-based month and day of the month name.  Months and
days outside their calendar range carry over. -/
def makeDay (year month date : Int) : Int :=
  let y := year + month / 12
  dayFromYear y + daysBeforeMonth (isLeapYear y) (month % 12).toNat + date - 1

def makeTime (hour minute second : Int) : Int :=
  hour * 3600000 + minute * 60000 + second * 1000

/-!
## Years
-/

theorem dayFromYear_succ (y : Int) :
    dayFromYear (y + 1) = dayFromYear y + 365 + (isLeapYear y).toInt := by
  have hleap : (isLeapYear y).toInt =
      if y % 4 = 0 ∧ (y % 100 ≠ 0 ∨ y % 400 = 0) then 1 else 0 := by
    by_cases h : y % 4 = 0 ∧ (y % 100 ≠ 0 ∨ y % 400 = 0)
    · have hb : isLeapYear y = true := by simpa [isLeapYear] using h
      rw [if_pos h, hb]
      rfl
    · have hb : isLeapYear y = false := by
        rw [Bool.eq_false_iff]
        intro ht
        exact h (by simpa [isLeapYear] using ht)
      rw [if_neg h, hb]
      rfl
  rw [hleap]
  unfold dayFromYear
  split <;> omega

theorem yearFromDay_estimate (d : Int) :
    dayFromYear (1970 + 400 * d / 146097 - 1) ≤ d ∧
      d < dayFromYear (1970 + 400 * d / 146097 + 2) := by
  unfold dayFromYear
  omega

theorem dayFromYear_yearFromDay (d : Int) :
    dayFromYear (yearFromDay d) ≤ d ∧ d < dayFromYear (yearFromDay d + 1) := by
  have hest := yearFromDay_estimate d
  unfold yearFromDay
  simp only
  generalize 1970 + 400 * d / 146097 = y at hest
  by_cases hlo : d < dayFromYear y
  · rw [if_pos hlo, Int.sub_add_cancel]
    exact ⟨hest.left, hlo⟩
  · rw [if_neg hlo]
    by_cases hhi : dayFromYear (y + 1) ≤ d
    · rw [if_pos hhi, Int.add_assoc]
      exact ⟨hhi, hest.right⟩
    · rw [if_neg hhi]
      exact ⟨Int.not_lt.mp hlo, Int.not_le.mp hhi⟩

theorem dayWithinYear_bounds (d : Int) :
    0 ≤ dayWithinYear d ∧
      dayWithinYear d < 365 + (isLeapYear (yearFromDay d)).toInt := by
  have h := dayFromYear_yearFromDay d
  rw [dayFromYear_succ] at h
  unfold dayWithinYear
  lia

/-!
## Months and days
-/

theorem toInt_bounds (b : Bool) : 0 ≤ b.toInt ∧ b.toInt ≤ 1 := by
  cases b <;> decide

theorem daysInMonth_le (leap : Bool) {month : Nat} (h : month ≤ 11) :
    daysInMonth leap month ≤ 31 := by
  have hall : forall leap : Bool, forall month, month < 12 ->
      daysInMonth leap month ≤ 31 := by
    decide
  exact hall leap month (Nat.lt_succ_of_le h)

theorem monthWithinYear_bounds {leap : Bool} {n : Int} (hlo : 0 ≤ n)
    (hhi : n < 365 + leap.toInt) :
    monthWithinYear leap n ≤ 11 ∧
      daysBeforeMonth leap (monthWithinYear leap n) ≤ n ∧
      n < daysBeforeMonth leap (monthWithinYear leap n) +
        daysInMonth leap (monthWithinYear leap n) := by
  have hleap := toInt_bounds leap
  generalize hm : monthWithinYear leap n = m
  unfold monthWithinYear at hm
  iterate 11
    rcases ite_eq_iff.mp hm with ⟨_, hmonth⟩ | ⟨_, hm⟩
    · subst hmonth
      simp only [daysBeforeMonth, monthStarts, daysInMonth,
        List.getD_cons_succ, List.getD_cons_zero]
      omega
  subst hm
  simp only [daysBeforeMonth, monthStarts, daysInMonth, List.getD_cons_succ,
    List.getD_cons_zero]
  omega

theorem month_date_bounds (d : Int) :
    (0 ≤ monthFromDay d ∧ monthFromDay d ≤ 11) ∧
      1 ≤ dateFromDay d ∧ dateFromDay d ≤ 31 := by
  have hday := dayWithinYear_bounds d
  have hmonth := monthWithinYear_bounds hday.left hday.right
  have hlength := daysInMonth_le (isLeapYear (yearFromDay d)) hmonth.left
  unfold dateFromDay monthFromDay
  simp only [Int.toNat_natCast]
  lia

theorem makeDay_fromDay (d : Int) :
    makeDay (yearFromDay d) (monthFromDay d) (dateFromDay d) = d := by
  have hmonth := (month_date_bounds d).left
  have hdiv : monthFromDay d / 12 = 0 := by omega
  have hmod : monthFromDay d % 12 = monthFromDay d := by omega
  unfold makeDay
  simp only [hdiv, hmod, Int.add_zero]
  unfold dateFromDay dayWithinYear
  simp only
  omega

theorem daysBeforeMonth_bounds (leap : Bool) (month : Nat) :
    0 ≤ daysBeforeMonth leap month ∧ daysBeforeMonth leap month ≤ 335 := by
  have hleap := toInt_bounds leap
  have hmem : daysBeforeMonth leap month ∈ (0 : Int) :: monthStarts leap := by
    unfold daysBeforeMonth
    rw [List.getD_eq_getElem?_getD]
    cases hget : (monthStarts leap)[month]? with
    | none => exact List.mem_cons_self
    | some days => exact List.mem_cons_of_mem _ (List.mem_of_getElem? hget)
  simp only [monthStarts, List.mem_cons, List.not_mem_nil, or_false] at hmem
  omega

end Calendar

/-- An ECMAScript {lit}`Date`; {lit}`none` is the time value {lit}`NaN`. -/
structure Date where
  time : Option Int
  deriving DecidableEq, Repr

namespace Date

open Calendar

/-- {lit}`TimeClip`: time values more than 8.64e15 milliseconds away from the
epoch are not representable. -/
def timeClip (t : Int) : Option Int :=
  if t.natAbs ≤ 8640000000000000 then some t else none

/-- {lit}`Date.UTC`: years zero to ninety-nine mean 1900 to 1999. -/
def utc (year month date hour minute second : Int) : Option Int :=
  let fullYear := if 0 ≤ year ∧ year ≤ 99 then 1900 + year else year
  timeClip (makeDay fullYear month date * msPerDay +
    makeTime hour minute second)

def getUTCFullYear (t : Int) : Int := yearFromDay (t / msPerDay)
def getUTCMonth (t : Int) : Int := monthFromDay (t / msPerDay)
def getUTCDate (t : Int) : Int := dateFromDay (t / msPerDay)
def getUTCHours (t : Int) : Int := t % msPerDay / 3600000
def getUTCMinutes (t : Int) : Int := t % 3600000 / 60000
def getUTCSeconds (t : Int) : Int := t % 60000 / 1000

theorem clock_bounds (t : Int) :
    (0 ≤ getUTCHours t ∧ getUTCHours t ≤ 23) ∧
      (0 ≤ getUTCMinutes t ∧ getUTCMinutes t ≤ 59) ∧
      0 ≤ getUTCSeconds t ∧ getUTCSeconds t ≤ 59 := by
  unfold getUTCHours getUTCMinutes getUTCSeconds msPerDay
  omega

/-- Composing the UTC components of a whole second gives the second back, for
every year {lit}`Date.UTC` does not reinterpret. -/
theorem utc_components {t : Int} (hsecond : t % 1000 = 0)
    (hyear : 100 ≤ getUTCFullYear t) :
    utc (getUTCFullYear t) (getUTCMonth t) (getUTCDate t) (getUTCHours t)
      (getUTCMinutes t) (getUTCSeconds t) = timeClip t := by
  have hnot : ¬ (0 ≤ getUTCFullYear t ∧ getUTCFullYear t ≤ 99) := by lia
  unfold utc
  rw [if_neg hnot]
  have hday : makeDay (getUTCFullYear t) (getUTCMonth t) (getUTCDate t) =
      t / msPerDay := makeDay_fromDay (t / msPerDay)
  have hsum : t / msPerDay * msPerDay +
      makeTime (getUTCHours t) (getUTCMinutes t) (getUTCSeconds t) = t := by
    unfold makeTime getUTCHours getUTCMinutes getUTCSeconds msPerDay
    omega
  simp only [hday, hsum]

/-- A year of two bytes, and components of one byte, name a time between the year
one before the first and the year 65557. -/
theorem utc_range {year month date hour minute second : Int}
    (hyear : 0 ≤ year ∧ year < 65536) (hmonth : -1 ≤ month ∧ month < 256)
    (hdate : 0 ≤ date ∧ date < 256) (hhour : 0 ≤ hour ∧ hour < 256)
    (hminute : 0 ≤ minute ∧ minute < 256)
    (hsecond : 0 ≤ second ∧ second < 256) :
    exists t, utc year month date hour minute second = some t ∧
      -62200000000000 ≤ t ∧ t ≤ 2100000000000000 := by
  have hday : forall y, 0 ≤ y -> y < 65536 ->
      -719900 ≤ makeDay y month date ∧ makeDay y month date ≤ 24000000 := by
    intro y hlo hhi
    have hmonths := daysBeforeMonth_bounds (isLeapYear (y + month / 12))
      (month % 12).toNat
    unfold makeDay dayFromYear
    dsimp only
    omega
  have hclock : 0 ≤ makeTime hour minute second ∧
      makeTime hour minute second ≤ 1000000000 := by
    unfold makeTime
    omega
  have hbounds := hday (if 0 ≤ year ∧ year ≤ 99 then 1900 + year else year)
    (by split_ifs <;> lia) (by split_ifs <;> lia)
  unfold utc timeClip
  rw [if_pos]
  · refine ⟨_, rfl, ?_, ?_⟩
    all_goals
      unfold msPerDay
      omega
  · unfold msPerDay
    omega

theorem exists_utc {year month date hour minute second : Int}
    (hyear : 0 ≤ year ∧ year < 65536) (hmonth : -1 ≤ month ∧ month < 256)
    (hdate : 0 ≤ date ∧ date < 256) (hhour : 0 ≤ hour ∧ hour < 256)
    (hminute : 0 ≤ minute ∧ minute < 256)
    (hsecond : 0 ≤ second ∧ second < 256) :
    exists t, utc year month date hour minute second = some t := by
  rcases utc_range hyear hmonth hdate hhour hminute hsecond with ⟨t, ht, _⟩
  exact ⟨t, ht⟩

end Date

end Foundation
end AvtTracker
