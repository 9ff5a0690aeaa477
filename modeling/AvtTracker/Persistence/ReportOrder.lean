import AvtTracker.Foundation.Chronology
import AvtTracker.Persistence.PositionSnapshot
import AvtTracker.Tracker.Envelope
import Mathlib.Data.Int.ConditionallyCompleteOrder
import Mathlib.Order.WithBot

/-!
# Historical reports

A tracker saves {lit}`-RPT` reports it generated earlier, in any order, and each
one patches the device row as a live report does.  The row stays that of the
latest report exactly when the reports are saved in the order in which they
were generated.
-/

namespace AvtTracker
namespace Persistence

open Foundation

/-- The time of a column or a report; {lit}`null` is before all times. -/
def timeOf (date : Option Date) : WithBot Int :=
  date.bind Date.time

def reportTime (row : Tracker.TrackerReport) : WithBot Int :=
  timeOf row.generatedAt

def carriesBoth (row : Tracker.TrackerReport) : Bool :=
  row.latitude.isSome && row.longitude.isSome

/-- {lit}`lastReportAt` of a device after a sequence of writes. -/
def lastReportAt (imei : String) (writes : List (DeviceWrite Bytes)) :
    Option Date :=
  ((trackerSaves.table writes).lookup imei).bind
    Tracker.TrackerDevice.lastReportAt

/-- These two coordinates are those of a latest report with both, if there is
any. -/
def LatestPosition (rows : List Tracker.TrackerReport)
    (latitude longitude : Option Rat) : Prop :=
  (exists latest, IsLatest reportTime (fun row => carriesBoth row = true)
      rows latest ∧ latitude = latest.latitude ∧
        longitude = latest.longitude) ∨
    (forall row, row ∈ rows -> carriesBoth row = false) ∧
      latitude = none ∧ longitude = none

/-- At no point of the writes does the row of a device go back in time. -/
structure NeverBackInTime (imei : String)
    (writes : List (DeviceWrite Bytes)) : Prop where
  lastReportAt_mono : forall earlier later,
    earlier <+: later -> later <+: writes ->
      timeOf (lastReportAt imei earlier) ≤ timeOf (lastReportAt imei later)
  position_latest : forall done, done <+: writes ->
    let row := (trackerSaves.table done).lookup imei
    LatestPosition (trackerSaves.savedRows imei done)
      (row.bind Tracker.TrackerDevice.lastLatitude)
      (row.bind Tracker.TrackerDevice.lastLongitude)

/-!
## The rows of the reports
-/

def trackerLastReportAt : trackerSaves.ReportColumn Date where
  column := Tracker.TrackerDevice.lastReportAt
  write := Tracker.DevicePatch.lastReportAt
  value now row := some (row.generatedAt.getD { time := some now })
  column_create _ := rfl
  column_patched _ _ := rfl
  write_connected _ _ := rfl
  write_disconnected _ := rfl
  write_save frame now patch row h := by
    rcases saveTrackerFrame_eq_some h with ⟨parsed, report, _, _, rfl, rfl⟩
    rfl

section DatedReports

variable {imei : String} {writes : List (DeviceWrite Bytes)}

theorem timeOf_lastReportAt
    (hdated : forall row, row ∈ trackerSaves.savedRows imei writes ->
      row.generatedAt.isSome) :
    timeOf (lastReportAt imei writes) =
      lastTime reportTime (trackerSaves.savedRows imei writes) := by
  have hcolumn : lastReportAt imei writes =
      lastSome ((trackerSaves.savedRows imei writes).map
        Tracker.TrackerReport.generatedAt) := by
    apply trackerLastReportAt.column_savedRows imei
    intro row hrow now
    rcases Option.isSome_iff_exists.mp (hdated row hrow) with ⟨date, hdate⟩
    show some (row.generatedAt.getD _) = row.generatedAt
    rw [hdate]
    rfl
  rw [hcolumn, lastSome_map, List.filter_eq_self.mpr hdated]
  unfold lastTime
  cases (trackerSaves.savedRows imei writes).getLast? with
  | none => rfl
  | some row => rfl

theorem latestPosition_of_chronological
    (hpaired : forall row, row ∈ trackerSaves.savedRows imei writes ->
      row.latitude.isSome = row.longitude.isSome)
    (h : Chronological reportTime (trackerSaves.savedRows imei writes)) :
    let row := (trackerSaves.table writes).lookup imei
    LatestPosition (trackerSaves.savedRows imei writes)
      (row.bind Tracker.TrackerDevice.lastLatitude)
      (row.bind Tracker.TrackerDevice.lastLongitude) := by
  have hlatitude : ((trackerSaves.table writes).lookup imei).bind
      Tracker.TrackerDevice.lastLatitude =
        lastSome ((trackerSaves.savedRows imei writes).map
          Tracker.TrackerReport.latitude) :=
    trackerLatitude.column_savedRows imei (fun _ _ _ => rfl)
  have hlongitude : ((trackerSaves.table writes).lookup imei).bind
      Tracker.TrackerDevice.lastLongitude =
        lastSome ((trackerSaves.savedRows imei writes).map
          Tracker.TrackerReport.longitude) :=
    trackerLongitude.column_savedRows imei (fun _ _ _ => rfl)
  -- a report with one coordinate has both, so both columns are of one report
  have hfirst : (trackerSaves.savedRows imei writes).filter
      (fun row => row.latitude.isSome) =
        (trackerSaves.savedRows imei writes).filter carriesBoth := by
    apply List.filter_congr
    intro row hrow
    unfold carriesBoth
    rw [← hpaired row hrow, Bool.and_self]
  have hsecond : (trackerSaves.savedRows imei writes).filter
      (fun row => row.longitude.isSome) =
        (trackerSaves.savedRows imei writes).filter carriesBoth := by
    apply List.filter_congr
    intro row hrow
    unfold carriesBoth
    rw [hpaired row hrow, Bool.and_self]
  rw [lastSome_map, hfirst] at hlatitude
  rw [lastSome_map, hsecond] at hlongitude
  dsimp only
  rw [hlatitude, hlongitude]
  cases hlast : ((trackerSaves.savedRows imei writes).filter
      carriesBoth).getLast? with
  | none =>
      refine Or.inr ⟨?_, rfl, rfl⟩
      intro row hrow
      have hempty := List.filter_eq_nil_iff.mp (List.getLast?_eq_none_iff.mp
        hlast) row hrow
      exact eq_false_of_ne_true hempty
  | some latest =>
      exact Or.inl ⟨latest, h.isLatest_getLast carriesBoth hlast, rfl, rfl⟩

/-- If all saved reports of a device have a generated time, and those with one
coordinate have both, its row never goes back in time exactly when they are
saved in the order in which they were generated. -/
theorem neverBackInTime_iff
    (hdated : forall row, row ∈ trackerSaves.savedRows imei writes ->
      row.generatedAt.isSome)
    (hpaired : forall row, row ∈ trackerSaves.savedRows imei writes ->
      row.latitude.isSome = row.longitude.isSome) :
    NeverBackInTime imei writes <->
      Chronological reportTime (trackerSaves.savedRows imei writes) := by
  have hdated' : forall done, done <+: writes -> forall row,
      row ∈ trackerSaves.savedRows imei done -> row.generatedAt.isSome :=
    fun done hdone row hrow =>
      hdated row ((hdone.filterMap _).subset hrow)
  constructor
  · intro h
    apply chronological_iff.mpr
    intro earlier later hearlier hlater
    rcases List.prefix_filterMap_iff.mp hlater with ⟨after, hafter, rfl⟩
    rcases List.prefix_filterMap_iff.mp hearlier with ⟨before, hbefore, rfl⟩
    have hmono := h.lastReportAt_mono before after hbefore hafter
    rw [timeOf_lastReportAt (hdated' before (hbefore.trans hafter)),
      timeOf_lastReportAt (hdated' after hafter)] at hmono
    exact hmono
  · intro h
    constructor
    · intro earlier later hearlier hlater
      rw [timeOf_lastReportAt (hdated' earlier (hearlier.trans hlater)),
        timeOf_lastReportAt (hdated' later hlater)]
      exact chronological_iff.mp h _ _ (hearlier.filterMap _)
        (hlater.filterMap _)
    · intro done hdone
      apply latestPosition_of_chronological
      · intro row hrow
        exact hpaired row ((hdone.filterMap _).subset hrow)
      · exact List.Pairwise.sublist (hdone.filterMap _).sublist h

end DatedReports

/-!
## A historical report behind a live one
-/

/-- An {lit}`-RPT` frame generated an hour before {lit}`reportOfBoth`, at latitude
30 and longitude 40. -/
def historicalReport : Bytes :=
  [0x2d, 0x52, 0x50, 0x54, 0x3a, 0, 37, 35, 69, 38, 3, 56, 43, 80, 9, 0x20,
    11, 1, 0, 0, 0, 0, 0, 8, 0, 0x60, 1, 0x01, 0xc9, 0xc3, 0x80, 0x02, 0x62,
    0x5a, 0x00, 0x07, 0xea, 7, 7, 3, 34, 56, 0, 2, 0x23]

def inGenerationOrder : List (DeviceWrite Bytes) :=
  [DeviceWrite.saved historicalReport 0, DeviceWrite.saved reportOfBoth 1]

def liveReportFirst : List (DeviceWrite Bytes) :=
  [DeviceWrite.saved reportOfBoth 0, DeviceWrite.saved historicalReport 1]

theorem inGenerationOrder_neverBackInTime :
    NeverBackInTime "356938035643809" inGenerationOrder :=
  (neverBackInTime_iff (by decide +kernel) (by decide +kernel)).mpr
    (by decide +kernel)

/-- Saved behind the live report, the historical one takes the row back by an
hour, to its own position. -/
theorem historicalReport_goes_back :
    (forall row,
      row ∈ trackerSaves.savedRows "356938035643809" liveReportFirst ->
        row.generatedAt.isSome ∧
          row.latitude.isSome = row.longitude.isSome) ∧
    ((trackerSaves.table liveReportFirst).lookup "356938035643809").map
        (fun row => (row.lastReportAt, row.lastLatitude, row.lastLongitude)) =
      some (some { time := some 1783395296000 }, some 30, some 40) ∧
    lastReportAt "356938035643809" (liveReportFirst.take 1) =
      some { time := some 1783398896000 } ∧
    ¬ NeverBackInTime "356938035643809" liveReportFirst := by
  refine ⟨by decide +kernel, by decide +kernel, by decide +kernel, ?_⟩
  intro h
  have hmono := h.lastReportAt_mono (liveReportFirst.take 1) liveReportFirst
    (List.take_prefix 1 liveReportFirst) List.prefix_rfl
  revert hmono
  decide +kernel

end Persistence
end AvtTracker
