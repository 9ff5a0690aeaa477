import AvtTracker.Foundation.Calendar

/-!
# Calendar instants

{lit}`Date.UTC` carries a component outside its calendar range over to the next
one.  The time it gives shows the components it was handed exactly if they name
an instant of the calendar, in a year that is taken as it is.
-/

namespace AvtTracker
namespace Foundation
namespace Calendar

/-!
## Days of a year
-/

theorem dayFromYear_le {y z : Int} (h : y ≤ z) :
    dayFromYear y ≤ dayFromYear z := by
  unfold dayFromYear
  omega

theorem yearFromDay_eq {y d : Int} (hlo : dayFromYear y ≤ d)
    (hhi : d < dayFromYear (y + 1)) : yearFromDay d = y := by
  have hyear := dayFromYear_yearFromDay d
  apply Int.le_antisymm
  · apply Int.not_lt.mp
    intro hlt
    have := dayFromYear_le (show y + 1 ≤ yearFromDay d from hlt)
    lia
  · apply Int.not_lt.mp
    intro hlt
    have := dayFromYear_le (show yearFromDay d + 1 ≤ y from hlt)
    lia

theorem month_end_le {m k : Nat} (leap : Bool) (hk : k ≤ 11) (h : m < k) :
    daysBeforeMonth leap m + daysInMonth leap m ≤ daysBeforeMonth leap k := by
  have hall : forall leap : Bool, forall k, k < 12 -> forall m, m < k ->
      daysBeforeMonth leap m + daysInMonth leap m ≤ daysBeforeMonth leap k := by
    decide
  exact hall leap k (Nat.lt_succ_of_le hk) m h

theorem month_end_le_year {m : Nat} (leap : Bool) (hm : m ≤ 11) :
    daysBeforeMonth leap m + daysInMonth leap m ≤ 365 + leap.toInt := by
  have hall : forall leap : Bool, forall m, m < 12 ->
      daysBeforeMonth leap m + daysInMonth leap m ≤ 365 + leap.toInt := by
    decide
  exact hall leap m (Nat.lt_succ_of_le hm)

theorem monthWithinYear_eq {leap : Bool} {m : Nat} {n : Int} (hm : m ≤ 11)
    (hlo : daysBeforeMonth leap m ≤ n)
    (hhi : n < daysBeforeMonth leap m + daysInMonth leap m) :
    monthWithinYear leap n = m := by
  have hstart := (daysBeforeMonth_bounds leap m).left
  have hend := month_end_le_year leap hm
  have hmonth := monthWithinYear_bounds (by lia : 0 ≤ n)
    (by lia : n < 365 + leap.toInt)
  apply Nat.le_antisymm
  · apply Nat.not_lt.mp
    intro hlt
    have := month_end_le leap hmonth.left hlt
    lia
  · apply Nat.not_lt.mp
    intro hlt
    have := month_end_le leap hm hlt
    lia

/-!
## Instants of the calendar
-/

/-- The components name an instant; the month is zero-based. -/
structure NamesInstant (year month date hour minute second : Int) : Prop where
  month_bounds : 0 ≤ month ∧ month ≤ 11
  date_bounds :
    1 ≤ date ∧ date ≤ daysInMonth (isLeapYear year) month.toNat
  hour_bounds : 0 ≤ hour ∧ hour ≤ 23
  minute_bounds : 0 ≤ minute ∧ minute ≤ 59
  second_bounds : 0 ≤ second ∧ second ≤ 59

theorem namesInstant_iff {year month date hour minute second : Int} :
    NamesInstant year month date hour minute second <->
      (0 ≤ month ∧ month ≤ 11) ∧
        (1 ≤ date ∧ date ≤ daysInMonth (isLeapYear year) month.toNat) ∧
        (0 ≤ hour ∧ hour ≤ 23) ∧ (0 ≤ minute ∧ minute ≤ 59) ∧
        0 ≤ second ∧ second ≤ 59 := by
  constructor
  · intro h
    exact ⟨h.month_bounds, h.date_bounds, h.hour_bounds, h.minute_bounds,
      h.second_bounds⟩
  · intro ⟨hmonth, hdate, hhour, hminute, hsecond⟩
    exact ⟨hmonth, hdate, hhour, hminute, hsecond⟩

instance (year month date hour minute second : Int) :
    Decidable (NamesInstant year month date hour minute second) :=
  decidable_of_iff _ namesInstant_iff.symm

example : NamesInstant 2024 1 29 0 0 0 ∧ ¬ NamesInstant 2025 1 29 0 0 0 := by
  decide

section Day

variable {year month date : Int}

theorem makeDay_of_month (h : 0 ≤ month ∧ month ≤ 11) :
    makeDay year month date = dayFromYear year +
      daysBeforeMonth (isLeapYear year) month.toNat + date - 1 := by
  unfold makeDay
  rw [show month / 12 = 0 by omega, show month % 12 = month by omega,
    Int.add_zero]

variable (hmonth : 0 ≤ month ∧ month ≤ 11)
  (hdate : 1 ≤ date ∧ date ≤ daysInMonth (isLeapYear year) month.toNat)

include hmonth hdate

theorem yearFromDay_makeDay : yearFromDay (makeDay year month date) = year := by
  have hstart :=
    (daysBeforeMonth_bounds (isLeapYear year) month.toNat).left
  have hend := month_end_le_year (isLeapYear year)
    (show month.toNat ≤ 11 by lia)
  rw [makeDay_of_month hmonth]
  apply yearFromDay_eq
  · lia
  · rw [dayFromYear_succ]
    lia

theorem dayWithinYear_makeDay :
    dayWithinYear (makeDay year month date) =
      daysBeforeMonth (isLeapYear year) month.toNat + date - 1 := by
  unfold dayWithinYear
  rw [yearFromDay_makeDay hmonth hdate, makeDay_of_month hmonth]
  lia

theorem monthFromDay_makeDay :
    monthFromDay (makeDay year month date) = month := by
  unfold monthFromDay
  rw [yearFromDay_makeDay hmonth hdate, dayWithinYear_makeDay hmonth hdate,
    monthWithinYear_eq (m := month.toNat) (by lia) (by lia) (by lia)]
  lia

theorem dateFromDay_makeDay :
    dateFromDay (makeDay year month date) = date := by
  unfold dateFromDay
  rw [monthFromDay_makeDay hmonth hdate, yearFromDay_makeDay hmonth hdate,
    dayWithinYear_makeDay hmonth hdate]
  lia

end Day

end Calendar

namespace Date

open Calendar

/-- The UTC components of a time are these. -/
structure Shows (t year month date hour minute second : Int) : Prop where
  fullYear : getUTCFullYear t = year
  month : getUTCMonth t = month
  date : getUTCDate t = date
  hours : getUTCHours t = hour
  minutes : getUTCMinutes t = minute
  seconds : getUTCSeconds t = second

section Shows

variable {t year month date hour minute second : Int}

theorem Shows.namesInstant (h : Shows t year month date hour minute second) :
    NamesInstant year month date hour minute second := by
  have hcalendar := month_date_bounds (t / msPerDay)
  have hday := dayWithinYear_bounds (t / msPerDay)
  have hlength := (monthWithinYear_bounds hday.left hday.right).right.right
  have hclock := clock_bounds t
  rcases h with ⟨rfl, rfl, rfl, rfl, rfl, rfl⟩
  constructor
  · exact hcalendar.left
  · refine ⟨hcalendar.right.left, ?_⟩
    unfold getUTCDate getUTCFullYear getUTCMonth dateFromDay monthFromDay
    simp only [Int.toNat_natCast]
    lia
  · exact hclock.left
  · exact hclock.right.left
  · exact hclock.right.right

theorem shows_of_namesInstant
    (h : NamesInstant year month date hour minute second) :
    Shows (makeDay year month date * msPerDay + makeTime hour minute second)
      year month date hour minute second := by
  have hhour := h.hour_bounds
  have hminute := h.minute_bounds
  have hsecond := h.second_bounds
  have hday : (makeDay year month date * msPerDay +
      makeTime hour minute second) / msPerDay = makeDay year month date := by
    unfold makeTime msPerDay
    omega
  constructor
  · rw [getUTCFullYear, hday]
    exact yearFromDay_makeDay h.month_bounds h.date_bounds
  · rw [getUTCMonth, hday]
    exact monthFromDay_makeDay h.month_bounds h.date_bounds
  · rw [getUTCDate, hday]
    exact dateFromDay_makeDay h.month_bounds h.date_bounds
  · unfold getUTCHours makeTime msPerDay
    omega
  · unfold getUTCMinutes makeTime msPerDay
    omega
  · unfold getUTCSeconds makeTime msPerDay
    omega

theorem eq_of_timeClip {s : Int} (h : timeClip s = some t) : s = t := by
  unfold timeClip at h
  rcases ite_eq_iff.mp h with ⟨_, h⟩ | ⟨_, h⟩
  · exact Option.some.inj h
  · cases h

theorem hundred_le_of_shows
    (h : utc year month date hour minute second = some t)
    (hshows : Shows t year month date hour minute second) :
    ¬ (0 ≤ year ∧ year ≤ 99) := by
  intro hyear
  have hnames := hshows.namesInstant
  have hmonth := hnames.month_bounds
  have hdate := hnames.date_bounds
  have hstart :=
    (daysBeforeMonth_bounds (isLeapYear (1900 + year)) month.toNat).left
  have hhour := hnames.hour_bounds
  have hminute := hnames.minute_bounds
  have hsecond := hnames.second_bounds
  unfold utc at h
  rw [if_pos hyear] at h
  have ht := eq_of_timeClip h
  have hday : t / msPerDay = makeDay (1900 + year) month date := by
    rw [← ht]
    unfold makeTime msPerDay
    omega
  have hshown : yearFromDay (t / msPerDay) = year := hshows.fullYear
  have hlt := (dayFromYear_yearFromDay (t / msPerDay)).right
  rw [hshown, hday, makeDay_of_month hmonth] at hlt
  have hle := dayFromYear_le (show year + 1 ≤ 1900 + year by lia)
  lia

/-- {lit}`Date.UTC` gives the time that shows what it was handed exactly for the
instants of the years it takes as they are. -/
theorem utc_shows_iff (h : utc year month date hour minute second = some t) :
    Shows t year month date hour minute second <->
      ¬ (0 ≤ year ∧ year ≤ 99) ∧
        NamesInstant year month date hour minute second := by
  constructor
  · intro hshows
    exact ⟨hundred_le_of_shows h hshows, hshows.namesInstant⟩
  · intro ⟨hyear, hnames⟩
    unfold utc at h
    rw [if_neg hyear] at h
    rw [← eq_of_timeClip h]
    exact shows_of_namesInstant hnames

end Shows

end Date

end Foundation
end AvtTracker
