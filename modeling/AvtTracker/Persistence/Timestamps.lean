import AvtTracker.Foundation.CalendarFields
import AvtTracker.Starlink.ParseFrame
import AvtTracker.Tracker.Fixtures

/-!
# Timestamps of devices

Both protocols hand the fields of a timestamp to {lit}`Date.UTC` without
comparing them to the calendar.  A field that names an instant is read as that
instant; any other one is dropped only if the decoder refuses its form, and is
read as some other instant if it does not.
-/

namespace AvtTracker
namespace Persistence

open Foundation

/-!
## Generated times
-/

section GTime

variable {field : Bytes}

/-- The components of a field are those of an instant. -/
def GTimeShows (field : Bytes) (t : Int) : Prop :=
  Date.Shows t (readUInt16BE field 0)
    ((Tracker.byteAt field 2 : Int) - 1) (Tracker.byteAt field 3)
    (Tracker.byteAt field 4) (Tracker.byteAt field 5) (Tracker.byteAt field 6)

/-- A field is dropped, or read as an instant that shows it and encodes it. -/
def FaithfulGTime (field : Bytes) : Prop :=
  Tracker.decodeGTime field = Except.ok none ∨
    exists t, Tracker.decodeGTime field =
        Except.ok (some { time := some t }) ∧
      GTimeShows field t ∧
        Tracker.encodeGTime { time := some t } = Except.ok field

/-- The year, the month or the day is missing. -/
def UnsetGTime (field : Bytes) : Prop :=
  readUInt16BE field 0 = 0 ∨ Tracker.byteAt field 2 = 0 ∨
    Tracker.byteAt field 3 = 0

/-- The field names an instant of the calendar, from the year 100 on. -/
def InstantGTime (field : Bytes) : Prop :=
  100 ≤ readUInt16BE field 0 ∧
    Calendar.NamesInstant (readUInt16BE field 0)
      ((Tracker.byteAt field 2 : Int) - 1) (Tracker.byteAt field 3)
      (Tracker.byteAt field 4) (Tracker.byteAt field 5)
      (Tracker.byteAt field 6)

instance (field : Bytes) : Decidable (UnsetGTime field) :=
  inferInstanceAs (Decidable (_ ∨ _ ∨ _))

instance (field : Bytes) : Decidable (InstantGTime field) :=
  inferInstanceAs (Decidable (_ ∧ _))

theorem decodeGTime_of_unset (hlen : field.length = 7)
    (h : UnsetGTime field) : Tracker.decodeGTime field = Except.ok none := by
  unfold Tracker.decodeGTime
  rw [if_neg (not_not_intro hlen)]
  exact if_pos h

theorem decodeGTime_of_set (hlen : field.length = 7)
    (h : ¬ UnsetGTime field) :
    exists t, Tracker.decodeGTime field =
        Except.ok (some { time := some t }) ∧
      Date.utc (readUInt16BE field 0) ((Tracker.byteAt field 2 : Int) - 1)
        (Tracker.byteAt field 3) (Tracker.byteAt field 4)
        (Tracker.byteAt field 5) (Tracker.byteAt field 6) = some t := by
  have hbyte : forall i, Tracker.byteAt field i < 256 :=
    fun i => UInt8.toNat_lt _
  have hyear := readUInt16BE_lt field 0
  have hmonth := hbyte 2
  have hdate := hbyte 3
  have hhour := hbyte 4
  have hminute := hbyte 5
  have hsecond := hbyte 6
  have hutc : exists t, Date.utc (readUInt16BE field 0)
      ((Tracker.byteAt field 2 : Int) - 1) (Tracker.byteAt field 3)
      (Tracker.byteAt field 4) (Tracker.byteAt field 5)
      (Tracker.byteAt field 6) = some t := by
    apply Date.exists_utc <;> constructor <;> lia
  rcases hutc with ⟨t, ht⟩
  refine ⟨t, ?_, ht⟩
  unfold Tracker.decodeGTime
  rw [if_neg (not_not_intro hlen), ← ht]
  exact if_neg h

theorem toByte_byteAt (i : Nat) :
    Tracker.toByte (some (Tracker.byteAt field i)) = field.getD i 0 := by
  have hbyte : Tracker.byteAt field i < 256 := UInt8.toNat_lt _
  apply UInt8.toNat_inj.mp
  have htoNat := Tracker.toByte_toNat
    (Int.natCast_nonneg (Tracker.byteAt field i)) (by lia)
  exact Int.natCast_inj.mp htoNat

theorem encodeGTime_of_shows {t : Int} (hlen : field.length = 7)
    (h : GTimeShows field t) :
    Tracker.encodeGTime { time := some t } = Except.ok field := by
  have hyear := readUInt16BE_lt field 0
  simp only [Tracker.encodeGTime, Tracker.writeUInt16BE, Option.map_some,
    h.fullYear, h.month, h.date, h.hours, h.minutes, h.seconds,
    Int.sub_add_cancel, toByte_byteAt]
  rw [if_pos ⟨Int.natCast_nonneg _, by lia⟩, Int.toNat_natCast]
  have hfield := map_getD_range field
  rw [hlen] at hfield
  have htake : field.take 2 = [field.getD 0 0, field.getD 1 0] := by
    rw [← hfield]
    rfl
  have hread : readUInt16BE field 0 =
      beNat [field.getD 0 0, field.getD 1 0] := congrArg beNat htake
  have hwritten : beBytes 2 (beNat [field.getD 0 0, field.getD 1 0]) =
      [field.getD 0 0, field.getD 1 0] := beBytes_beNat [_, _]
  rw [hread, hwritten]
  exact congrArg Except.ok hfield

theorem faithfulGTime_iff (hlen : field.length = 7) :
    FaithfulGTime field <-> UnsetGTime field ∨ InstantGTime field := by
  by_cases hunset : UnsetGTime field
  · constructor
    · intro _
      exact Or.inl hunset
    · intro _
      exact Or.inl (decodeGTime_of_unset hlen hunset)
  · rcases decodeGTime_of_set hlen hunset with ⟨t, hdecode, ht⟩
    have hshows := Date.utc_shows_iff ht
    constructor
    · intro hfaithful
      apply Or.inr
      rcases hfaithful with hnone | ⟨s, hs, hfield, _⟩
      · rw [hdecode] at hnone
        cases hnone
      · rw [hdecode] at hs
        cases hs
        rcases hshows.mp hfield with ⟨hyear, hnames⟩
        exact ⟨by lia, hnames⟩
    · intro hcases
      apply Or.inr
      rcases hcases with hnone | ⟨hyear, hnames⟩
      · exact absurd hnone hunset
      · have hfield := hshows.mpr ⟨by lia, hnames⟩
        exact ⟨t, hdecode, hfield, encodeGTime_of_shows hlen hfield⟩

end GTime

/-!
## Device times
-/

section DateTime

open Starlink (twoDigits parseStarlinkDateTime isDigitUnit)

variable {value : Utf16}

/-- The value is dropped, or read as an instant that shows it. -/
def FaithfulDateTime (value : Utf16) : Prop :=
  parseStarlinkDateTime value = none ∨
    exists t, parseStarlinkDateTime value = some { time := some t } ∧
      Date.Shows t (2000 + twoDigits value 0) (twoDigits value 2 - 1)
        (twoDigits value 4) (twoDigits value 6) (twoDigits value 8)
        (twoDigits value 10)

def TwelveDigits (value : Utf16) : Prop :=
  value.length = 12 ∧ value.all isDigitUnit = true

/-- The digits name an instant of the calendar. -/
def InstantDateTime (value : Utf16) : Prop :=
  Calendar.NamesInstant (2000 + twoDigits value 0) (twoDigits value 2 - 1)
    (twoDigits value 4) (twoDigits value 6) (twoDigits value 8)
    (twoDigits value 10)

instance (value : Utf16) : Decidable (TwelveDigits value) :=
  inferInstanceAs (Decidable (_ ∧ _))

instance (value : Utf16) : Decidable (InstantDateTime value) :=
  inferInstanceAs (Decidable (Calendar.NamesInstant _ _ _ _ _ _))

theorem twoDigits_bounds (h : TwelveDigits value) (start : Nat) :
    0 ≤ twoDigits value start ∧ twoDigits value start < 100 := by
  have hdigits : ((value.drop start).take 2).all isDigitUnit = true := by
    apply List.all_eq_true.mpr
    intro unit hunit
    exact List.all_eq_true.mp h.right unit
      (List.mem_of_mem_drop (List.mem_of_mem_take hunit))
  have hlength : (Starlink.chars ((value.drop start).take 2)).length ≤ 2 := by
    rw [Starlink.chars, List.length_map, List.length_take]
    exact Nat.min_le_left _ _
  have hlt := Nat.lt_of_lt_of_le (digitsValue_lt
    (Starlink.isDigit_of_mem_chars hdigits))
    (Nat.pow_le_pow_right (by decide) hlength)
  unfold twoDigits
  lia

theorem parseStarlinkDateTime_of_digits (h : TwelveDigits value) :
    exists t, parseStarlinkDateTime value = some { time := some t } ∧
      Date.utc (2000 + twoDigits value 0) (twoDigits value 2 - 1)
        (twoDigits value 4) (twoDigits value 6) (twoDigits value 8)
        (twoDigits value 10) = some t := by
  have hyear := twoDigits_bounds h 0
  have hmonth := twoDigits_bounds h 2
  have hdate := twoDigits_bounds h 4
  have hhour := twoDigits_bounds h 6
  have hminute := twoDigits_bounds h 8
  have hsecond := twoDigits_bounds h 10
  have hutc : exists t, Date.utc (2000 + twoDigits value 0)
      (twoDigits value 2 - 1) (twoDigits value 4) (twoDigits value 6)
      (twoDigits value 8) (twoDigits value 10) = some t := by
    apply Date.exists_utc <;> constructor <;> lia
  rcases hutc with ⟨t, ht⟩
  refine ⟨t, ?_, ht⟩
  unfold parseStarlinkDateTime
  rw [← ht]
  exact if_pos h

theorem faithfulDateTime_iff :
    FaithfulDateTime value <-> (TwelveDigits value -> InstantDateTime value) := by
  by_cases hdigits : TwelveDigits value
  · have hyear := twoDigits_bounds hdigits 0
    rcases parseStarlinkDateTime_of_digits hdigits with ⟨t, hparse, ht⟩
    have hshows := Date.utc_shows_iff ht
    constructor
    · intro hfaithful _
      rcases hfaithful with hnone | ⟨s, hs, hfield⟩
      · rw [hparse] at hnone
        cases hnone
      · rw [hparse] at hs
        cases hs
        exact (hshows.mp hfield).right
    · intro hinstant
      apply Or.inr
      exact ⟨t, hparse, hshows.mpr ⟨by lia, hinstant hdigits⟩⟩
  · constructor
    · intro _ hyes
      exact absurd hyes hdigits
    · intro _
      exact Or.inl (if_neg hdigits)

end DateTime

/-!
## Both protocols
-/

/-- A timestamp is faithful exactly when it is refused by its form or names an
instant of the calendar. -/
theorem timestamps_faithful_iff {field : Bytes} (hlen : field.length = 7)
    (value : Utf16) :
    (FaithfulGTime field <-> UnsetGTime field ∨ InstantGTime field) ∧
      (FaithfulDateTime value <->
        (TwelveDigits value -> InstantDateTime value)) := by
  constructor
  · exact faithfulGTime_iff hlen
  · exact faithfulDateTime_iff

/-- The last second of a leap day. -/
theorem timestamps_faithful_leap_day :
    FaithfulGTime [0x07, 0xe8, 2, 29, 23, 59, 59] ∧
      FaithfulDateTime (utf16 "240229235959") := by
  have hlen : [(0x07 : UInt8), 0xe8, 2, 29, 23, 59, 59].length = 7 := rfl
  have hiff := timestamps_faithful_iff hlen (utf16 "240229235959")
  constructor
  · apply hiff.left.mpr
    decide
  · apply hiff.right.mpr
    decide

/-- The thirtieth of February is read as the second of March. -/
theorem timestamps_roll_over :
    ¬ FaithfulGTime [0x07, 0xe9, 2, 30, 0, 0, 0] ∧
      ¬ FaithfulDateTime (utf16 "250230000000") := by
  constructor
  · rw [faithfulGTime_iff rfl]
    decide
  · rw [faithfulDateTime_iff]
    decide

end Persistence
end AvtTracker
