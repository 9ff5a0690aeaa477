import AvtTracker.Starlink.Persistence
import AvtTracker.Tracker.Persistence

/-!
# Device tables

Both protocols keep a row per device, which connection marks and saved reports
patch.  A column that only saved reports write holds the last value a saved
report of the device had for it.
-/

namespace AvtTracker
namespace Persistence

open Foundation

/-!
## Writes to a device table
-/

/-- An upsert of the persistence service: a connection mark, or that of a saved
report. -/
inductive DeviceWrite (Report : Type) where
  | connected (device : String) (now : Int)
  | disconnected (device : String)
  | saved (report : Report) (now : Int)

/-- How a protocol turns what it saves into the patch of a device row and the
row of a report, which belong to the same device. -/
structure SaveProtocol (Report Row Patch Saved : Type) where
  upserts : Upserts String Row Patch
  connected : String -> Int -> Patch
  disconnected : String -> Patch
  save : Report -> Int -> Option (Patch × Saved)
  owner : Saved -> String
  keyOf_save : forall report now patch row,
    save report now = some (patch, row) -> upserts.keyOf patch = owner row

namespace SaveProtocol

variable {Report Row Patch Saved α : Type}
variable (P : SaveProtocol Report Row Patch Saved)

def patch : DeviceWrite Report -> Option Patch
  | DeviceWrite.connected device now => some (P.connected device now)
  | DeviceWrite.disconnected device => some (P.disconnected device)
  | DeviceWrite.saved report now => (P.save report now).map Prod.fst

def table (writes : List (DeviceWrite Report)) :
    AList (fun _ : String => Row) :=
  P.upserts.upsertAll (writes.filterMap P.patch)

def savedRow (device : String) : DeviceWrite Report -> Option Saved
  | DeviceWrite.saved report now =>
      ((P.save report now).map Prod.snd).filter
        (fun row => P.owner row = device)
  | _ => none

def savedRows (device : String) (writes : List (DeviceWrite Report)) :
    List Saved :=
  writes.filterMap (P.savedRow device)

/-!
## Columns that saved reports write
-/

/-- A column of the device row that connection marks leave alone. -/
structure ReportColumn (α : Type) where
  column : Row -> Option α
  write : Patch -> Option α
  value : Int -> Saved -> Option α
  column_create : forall device, column (P.upserts.create device) = none
  column_patched : forall row patch,
    column (P.upserts.patched row patch) = (write patch).or (column row)
  write_connected : forall device now, write (P.connected device now) = none
  write_disconnected : forall device, write (P.disconnected device) = none
  write_save : forall report now patch row,
    P.save report now = some (patch, row) -> write patch = value now row

namespace ReportColumn

variable {P} (C : P.ReportColumn α) (device : String)

/-- What a write leaves in the column of a device. -/
def written : DeviceWrite Report -> Option α
  | DeviceWrite.saved report now =>
      (P.savedRow device (DeviceWrite.saved report now)).bind (C.value now)
  | _ => none

theorem written_eq (w : DeviceWrite Report) :
    ((P.patch w).filter (fun patch =>
        decide (P.upserts.keyOf patch = device))).bind C.write =
      C.written device w := by
  cases w with
  | connected other now =>
      show ((some (P.connected other now)).filter _).bind C.write = none
      rw [Upserts.filter_keyed_bind, C.write_connected, ite_self]
  | disconnected other =>
      show ((some (P.disconnected other)).filter _).bind C.write = none
      rw [Upserts.filter_keyed_bind, C.write_disconnected, ite_self]
  | saved report now =>
      show (((P.save report now).map Prod.fst).filter _).bind C.write =
        (((P.save report now).map Prod.snd).filter _).bind (C.value now)
      cases hsave : P.save report now with
      | none => rfl
      | some result =>
          rcases result with ⟨patch, row⟩
          rw [Option.map_some, Option.map_some, Upserts.filter_keyed_bind,
            P.keyOf_save report now patch row hsave,
            C.write_save report now patch row hsave]
          by_cases h : P.owner row = device
          · rw [if_pos h, Option.filter_some, if_pos (decide_eq_true h)]
            rfl
          · rw [if_neg h, Option.filter_some,
              if_neg (by rw [decide_eq_true_eq]; exact h)]
            rfl

theorem column_table (writes : List (DeviceWrite Report)) :
    ((P.table writes).lookup device).bind C.column =
      lastSome (writes.map (C.written device)) := by
  unfold table
  rw [Upserts.column_upsertAll C.column_create C.column_patched,
    List.filter_filterMap, lastSome_filterMap]
  exact congrArg lastSome (List.map_congr_left (fun w _ =>
    C.written_eq device w))

/-- A column whose values the reports themselves determine holds the last value
of a saved report of the device. -/
theorem column_savedRows {writes : List (DeviceWrite Report)}
    {value : Saved -> Option α}
    (hvalue : forall row, row ∈ P.savedRows device writes ->
      forall now, C.value now row = value row) :
    ((P.table writes).lookup device).bind C.column =
      lastSome ((P.savedRows device writes).map value) := by
  unfold savedRows at hvalue ⊢
  rw [C.column_table device writes, lastSome_filterMap]
  apply congrArg lastSome
  apply List.map_congr_left
  intro w hw
  cases w with
  | connected other now => rfl
  | disconnected other => rfl
  | saved report now =>
      show (P.savedRow device (DeviceWrite.saved report now)).bind
        (C.value now) = _
      cases hrow : P.savedRow device (DeviceWrite.saved report now) with
      | none => rfl
      | some row =>
          exact hvalue row (List.mem_filterMap.mpr ⟨_, hw, hrow⟩) now

end ReportColumn

end SaveProtocol

/-!
## The tracker
-/

/-- A frame that {lit}`parseFrame` throws on never gets to
{lit}`saveReport`. -/
def saveTrackerFrame (frame : Bytes) (now : Int) :
    Option (Tracker.DevicePatch × Tracker.TrackerReport) :=
  match Tracker.parseFrame frame with
  | Except.ok parsed => Tracker.saveReport parsed now
  | Except.error _ => none

theorem saveTrackerFrame_eq_some {frame : Bytes} {now : Int}
    {patch : Tracker.DevicePatch} {row : Tracker.TrackerReport}
    (h : saveTrackerFrame frame now = some (patch, row)) :
    exists parsed report, Tracker.parseFrame frame = Except.ok parsed ∧
      parsed.report = some report ∧
      patch = Tracker.reportPatch parsed.header report now ∧
      row = Tracker.reportRow parsed report := by
  unfold saveTrackerFrame at h
  cases hparse : Tracker.parseFrame frame with
  | error error =>
      rw [hparse] at h
      cases h
  | ok parsed =>
      rw [hparse] at h
      rcases Option.map_eq_some_iff.mp h with ⟨report, hreport, hpair⟩
      cases hpair
      exact ⟨parsed, report, rfl, hreport, rfl, rfl⟩

def trackerSaves : SaveProtocol Bytes Tracker.TrackerDevice
    Tracker.DevicePatch Tracker.TrackerReport where
  upserts := Tracker.deviceUpserts
  connected := Tracker.markDeviceConnected
  disconnected := Tracker.markDeviceDisconnected
  save := saveTrackerFrame
  owner := Tracker.TrackerReport.imei
  keyOf_save frame now patch row h := by
    rcases saveTrackerFrame_eq_some h with ⟨parsed, report, _, _, rfl, rfl⟩
    rfl

/-!
## StarLink
-/

abbrev FormattedLine : Type := Utf16 × List String

def saveStarlinkLine (line : FormattedLine) (now : Int) :
    Option (Starlink.StarlinkDevicePatch × Starlink.StarlinkReport) :=
  match Starlink.parseFrame line.1 line.2 with
  | Except.ok parsed => Starlink.saveReport parsed now
  | Except.error _ => none

theorem saveStarlinkLine_eq_some {line : FormattedLine} {now : Int}
    {patch : Starlink.StarlinkDevicePatch} {row : Starlink.StarlinkReport}
    (h : saveStarlinkLine line now = some (patch, row)) :
    exists parsed report,
      Starlink.parseFrame line.1 line.2 = Except.ok parsed ∧
      parsed.report = some report ∧
      patch = Starlink.reportPatch parsed.header report now ∧
      row = Starlink.reportRow parsed report := by
  unfold saveStarlinkLine at h
  cases hparse : Starlink.parseFrame line.1 line.2 with
  | error error =>
      rw [hparse] at h
      cases h
  | ok parsed =>
      rw [hparse] at h
      rcases Option.map_eq_some_iff.mp h with ⟨report, hreport, hpair⟩
      cases hpair
      exact ⟨parsed, report, rfl, hreport, rfl, rfl⟩

def starlinkSaves : SaveProtocol FormattedLine Starlink.StarlinkDevice
    Starlink.StarlinkDevicePatch Starlink.StarlinkReport where
  upserts := Starlink.deviceUpserts
  connected := Starlink.markDeviceConnected
  disconnected := Starlink.markDeviceDisconnected
  save := saveStarlinkLine
  owner := Starlink.StarlinkReport.deviceId
  keyOf_save line now patch row h := by
    rcases saveStarlinkLine_eq_some h with ⟨parsed, report, _, _, rfl, rfl⟩
    rfl

end Persistence
end AvtTracker
