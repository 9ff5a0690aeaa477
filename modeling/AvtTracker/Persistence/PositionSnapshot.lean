import AvtTracker.Persistence.DeviceTable

/-!
# The position snapshot

The device rows of both protocols keep the last known position.  A saved report
writes the coordinates it carried, one by one, so the two columns hold the last
values of each coordinate: those of one report if the last report with either
coordinate carried both.
-/

namespace AvtTracker
namespace Persistence

open Foundation

/-- What the two columns hold after reports that carried these coordinates. -/
structure SnapshotOf {α : Type} (latitude longitude : Option α)
    (carried : List (Option α × Option α)) : Prop where
  latitude_last : latitude = lastSome (carried.map Prod.fst)
  longitude_last : longitude = lastSome (carried.map Prod.snd)
  together : forall earlier later a b,
    carried = earlier ++ (some a, some b) :: later ->
      (forall c, c ∈ later -> c = (none, none)) ->
        latitude = some a ∧ longitude = some b

/-- The first two facts are the whole story. -/
theorem snapshotOf_iff {α : Type} {latitude longitude : Option α}
    {carried : List (Option α × Option α)} :
    SnapshotOf latitude longitude carried <->
      latitude = lastSome (carried.map Prod.fst) ∧
        longitude = lastSome (carried.map Prod.snd) := by
  constructor
  · intro h
    exact ⟨h.latitude_last, h.longitude_last⟩
  · rintro ⟨hlatitude, hlongitude⟩
    refine ⟨hlatitude, hlongitude, ?_⟩
    intro earlier later a b hcarried hlater
    have hfirst : forall write, write ∈ later.map Prod.fst -> write = none := by
      intro write hwrite
      rcases List.mem_map.mp hwrite with ⟨c, hc, hsame⟩
      rw [← hsame, hlater c hc]
    have hsecond : forall write, write ∈ later.map Prod.snd ->
        write = none := by
      intro write hwrite
      rcases List.mem_map.mp hwrite with ⟨c, hc, hsame⟩
      rw [← hsame, hlater c hc]
    rw [hcarried, List.map_append, List.map_cons] at hlatitude hlongitude
    rw [hlatitude, hlongitude]
    exact ⟨lastSome_of_last hfirst _ a, lastSome_of_last hsecond _ b⟩

/-!
## Coordinate columns
-/

def trackerLatitude : trackerSaves.ReportColumn Rat where
  column := Tracker.TrackerDevice.lastLatitude
  write := Tracker.DevicePatch.lastLatitude
  value _ row := row.latitude
  column_create _ := rfl
  column_patched _ _ := rfl
  write_connected _ _ := rfl
  write_disconnected _ := rfl
  write_save frame now patch row h := by
    rcases saveTrackerFrame_eq_some h with ⟨parsed, report, _, _, rfl, rfl⟩
    rfl

def trackerLongitude : trackerSaves.ReportColumn Rat where
  column := Tracker.TrackerDevice.lastLongitude
  write := Tracker.DevicePatch.lastLongitude
  value _ row := row.longitude
  column_create _ := rfl
  column_patched _ _ := rfl
  write_connected _ _ := rfl
  write_disconnected _ := rfl
  write_save frame now patch row h := by
    rcases saveTrackerFrame_eq_some h with ⟨parsed, report, _, _, rfl, rfl⟩
    rfl

def starlinkLatitude : starlinkSaves.ReportColumn JsNumber where
  column := Starlink.StarlinkDevice.lastLatitude
  write := Starlink.StarlinkDevicePatch.lastLatitude
  value _ row := row.latitude
  column_create _ := rfl
  column_patched _ _ := rfl
  write_connected _ _ := rfl
  write_disconnected _ := rfl
  write_save line now patch row h := by
    rcases saveStarlinkLine_eq_some h with ⟨parsed, report, _, _, rfl, rfl⟩
    rfl

def starlinkLongitude : starlinkSaves.ReportColumn JsNumber where
  column := Starlink.StarlinkDevice.lastLongitude
  write := Starlink.StarlinkDevicePatch.lastLongitude
  value _ row := row.longitude
  column_create _ := rfl
  column_patched _ _ := rfl
  write_connected _ _ := rfl
  write_disconnected _ := rfl
  write_save line now patch row h := by
    rcases saveStarlinkLine_eq_some h with ⟨parsed, report, _, _, rfl, rfl⟩
    rfl

/-- The coordinates the saved reports of a tracker carried, in the order in
which they were saved. -/
def trackerCoordinates (imei : String) (writes : List (DeviceWrite Bytes)) :
    List (Option Rat × Option Rat) :=
  (trackerSaves.savedRows imei writes).map
    (fun row => (row.latitude, row.longitude))

def starlinkCoordinates (deviceId : String)
    (writes : List (DeviceWrite FormattedLine)) :
    List (Option JsNumber × Option JsNumber) :=
  (starlinkSaves.savedRows deviceId writes).map
    (fun row => (row.latitude, row.longitude))

/-- In both protocols each coordinate of a device row is the last one a saved
report of the device carried, and both are those of the last report with either
if it carried both. -/
theorem positionSnapshots :
    (forall (writes : List (DeviceWrite Bytes)) (imei : String),
      let row := (trackerSaves.table writes).lookup imei
      SnapshotOf (row.bind Tracker.TrackerDevice.lastLatitude)
        (row.bind Tracker.TrackerDevice.lastLongitude)
        (trackerCoordinates imei writes)) ∧
      forall (writes : List (DeviceWrite FormattedLine)) (deviceId : String),
        let row := (starlinkSaves.table writes).lookup deviceId
        SnapshotOf (row.bind Starlink.StarlinkDevice.lastLatitude)
          (row.bind Starlink.StarlinkDevice.lastLongitude)
          (starlinkCoordinates deviceId writes) := by
  constructor
  · intro writes imei
    apply snapshotOf_iff.mpr
    unfold trackerCoordinates
    rw [List.map_map, List.map_map]
    constructor
    · exact trackerLatitude.column_savedRows imei (fun _ _ _ => rfl)
    · exact trackerLongitude.column_savedRows imei (fun _ _ _ => rfl)
  · intro writes deviceId
    apply snapshotOf_iff.mpr
    unfold starlinkCoordinates
    rw [List.map_map, List.map_map]
    constructor
    · exact starlinkLatitude.column_savedRows deviceId (fun _ _ _ => rfl)
    · exact starlinkLongitude.column_savedRows deviceId (fun _ _ _ => rfl)

/-!
## A torn snapshot
-/

def reportOfBoth : Bytes :=
  [0x2b, 0x52, 0x50, 0x54, 0x3a, 0, 37, 35, 69, 38, 3, 56, 43, 80, 9, 0x20,
    11, 1, 0, 0, 0, 0, 0, 8, 0, 0x60, 1, 0x00, 0x98, 0x96, 0x80, 0x01, 0x31,
    0x2d, 0x00, 0x07, 0xea, 7, 7, 4, 34, 56, 0, 1, 0x23]

def reportOfLatitude : Bytes :=
  [0x2b, 0x52, 0x50, 0x54, 0x3a, 0, 33, 35, 69, 38, 3, 56, 43, 80, 9, 0x20,
    11, 1, 0, 0, 0, 0, 0, 8, 0, 0x20, 1, 0x01, 0xc9, 0xc3, 0x80, 0x07, 0xea,
    7, 7, 4, 34, 56, 0, 2, 0x23]

def lineOfBoth : FormattedLine :=
  (utf16 "SLU022C2F,06,1,,,,+1000.0000,+02000.0000*00",
    Starlink.defaultStarlinkFormatTags)

def lineOfLatitude : FormattedLine :=
  (utf16 "SLU022C2F,06,2,,,,+3000.0000*00", Starlink.defaultStarlinkFormatTags)

def trackerReports : List (DeviceWrite Bytes) :=
  [DeviceWrite.saved reportOfBoth 0, DeviceWrite.saved reportOfLatitude 1]

def starlinkReports : List (DeviceWrite FormattedLine) :=
  [DeviceWrite.saved lineOfBoth 0, DeviceWrite.saved lineOfLatitude 1]

/-- The row combines the latitude of one report with the longitude of another,
in both protocols. -/
theorem snapshots_torn :
    ((trackerSaves.table trackerReports).lookup "356938035643809").map
        (fun row => (row.lastLatitude, row.lastLongitude)) =
      some (some 30, some 20) ∧
    (some 30, some 20) ∉
      trackerCoordinates "356938035643809" trackerReports ∧
    ((starlinkSaves.table starlinkReports).lookup "022C2F").map
        (fun row => (row.lastLatitude, row.lastLongitude)) =
      some (some 30, some 20) ∧
    (some 30, some 20) ∉
      starlinkCoordinates "022C2F" starlinkReports := by
  decide +kernel

end Persistence
end AvtTracker
