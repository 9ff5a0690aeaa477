import AvtTracker.Foundation.ConcurrentSaves
import AvtTracker.Persistence.PositionSnapshot

/-!
# Serial writes

The servers fire connection marks and save reports concurrently, each statement
being applied or rejected when the database gets to it.  This module shows that
the device table is nevertheless the table of a sequence of writes, one for each
statement that was applied.
-/

namespace AvtTracker
namespace Persistence

open Foundation

namespace SaveProtocol

variable {Report Row Patch Saved : Type}
variable (P : SaveProtocol Report Row Patch Saved)

/-- The store behind a server that fires connection marks and saves reports. -/
def spec : SaveSpec String Row Patch Saved where
  upserts := P.upserts
  ownerOf := P.owner
  Fired patch := exists device now,
    patch = P.connected device now ∨ patch = P.disconnected device
  Saved patch row := exists report now, P.save report now = some (patch, row)
  keyOf_saved patch row h := by
    rcases h with ⟨report, now, hsave⟩
    exact P.keyOf_save report now patch row hsave

/-- The write a statement is. -/
def Wrote (s : SaveStore String Row Patch Saved) (u : Upserter) :
    DeviceWrite Report -> Prop
  | DeviceWrite.connected device now =>
      exists j, u = Upserter.patch j ∧
        s.patchOf u = some (P.connected device now)
  | DeviceWrite.disconnected device =>
      exists j, u = Upserter.patch j ∧ s.patchOf u = some (P.disconnected device)
  | DeviceWrite.saved report now =>
      exists i job, u = Upserter.save i ∧ s.saves[i]? = some job ∧
        job.content = P.save report now ∧ job.content ≠ none

/-- The tables a server has left: the applied statements are writes, each
applied once and one after the other, every row was inserted once by the save
that has it, and its device has a row as well. -/
structure SerialTables (s : SaveStore String Row Patch Saved)
    (order : List Upserter) (writes : List (DeviceWrite Report)) : Prop where
  once : order.Nodup
  settled : forall u, u ∈ order -> s.Settled u
  applied : forall i, s.Applied i -> Upserter.save i ∈ order
  wrote : List.Forall₂ (P.Wrote s) order writes
  owners : s.owners = P.table writes
  rows : forall (i : Nat) (row : Saved), (i, row) ∈ s.rows <->
    exists patch, s.saves[i]? =
      some { content := some (patch, row), phase := SaveJobPhase.saved }
  rows_once : (s.rows.map Prod.fst).Nodup
  owned : forall (i : Nat) (row : Saved), (i, row) ∈ s.rows ->
    P.owner row ∈ s.owners

variable {P} {s : SaveStore String Row Patch Saved} {order : List Upserter}

theorem Wrote.patch_eq {u : Upserter} {w : DeviceWrite Report}
    (h : P.Wrote s u w) : s.patchOf u = P.patch w := by
  cases w with
  | connected device now =>
      rcases h with ⟨j, _, hpatch⟩
      exact hpatch
  | disconnected device =>
      rcases h with ⟨j, _, hpatch⟩
      exact hpatch
  | saved report now =>
      rcases h with ⟨i, job, rfl, hjob, hcontent, _⟩
      show ((s.saves[i]?).bind SaveJob.content).map Prod.fst = _
      rw [hjob]
      exact congrArg (Option.map Prod.fst) hcontent

/-- Every settled statement of an accounted store is a write. -/
theorem exists_wrote (h : SaveStore.RowsSaved P.spec s) {u : Upserter}
    (hsettled : s.Settled u) : exists w, P.Wrote s u w := by
  cases u with
  | patch j =>
      rcases Option.map_eq_some_iff.mp hsettled with ⟨job, hjob, _⟩
      have hpatch : s.patchOf (Upserter.patch j) = some job.patch := by
        show (s.patches[j]?).map PatchJob.patch = _
        rw [hjob]
        rfl
      rcases h.fired j job hjob with ⟨device, now, hconnected | hdisconnected⟩
      · rw [hconnected] at hpatch
        exact ⟨DeviceWrite.connected device now, j, rfl, hpatch⟩
      · rw [hdisconnected] at hpatch
        exact ⟨DeviceWrite.disconnected device, j, rfl, hpatch⟩
  | save i =>
      rcases hsettled with ⟨phase, hphase, hwaiting, _⟩
      rcases h.exists_content hphase hwaiting with ⟨patch, row, hjob⟩
      rcases h.sourced i _ patch row hjob rfl with ⟨report, now, hsave⟩
      exact ⟨DeviceWrite.saved report now, i, _, rfl, hjob, hsave.symm,
        fun hc => nomatch hc⟩

theorem exists_writes (h : SaveStore.RowsSaved P.spec s)
    (hsettled : forall u, u ∈ order -> s.Settled u) :
    exists writes, List.Forall₂ (P.Wrote s) order writes := by
  induction order with
  | nil => exact ⟨[], List.Forall₂.nil⟩
  | cons u order ih =>
      rcases exists_wrote h (hsettled u List.mem_cons_self) with ⟨w, hw⟩
      rcases ih fun v hv => hsettled v (List.mem_cons_of_mem u hv) with
        ⟨writes, hwrites⟩
      exact ⟨w :: writes, List.Forall₂.cons hw hwrites⟩

theorem filterMap_wrote {writes : List (DeviceWrite Report)}
    (h : List.Forall₂ (P.Wrote s) order writes) :
    order.filterMap s.patchOf = writes.filterMap P.patch := by
  induction h with
  | nil => rfl
  | cons hw _ ih => rw [List.filterMap_cons, List.filterMap_cons, ih,
      hw.patch_eq]

theorem exists_serialTables (h : SaveStore.Accounted P.spec s order) :
    exists writes, P.SerialTables s order writes := by
  rcases exists_writes h.rows h.serial.settled with ⟨writes, hwrote⟩
  refine ⟨writes, h.serial.once, h.serial.settled, h.serial.applied, hwrote, ?_,
    h.rows.rows, h.rows.rows_once, fun i row => h.ownerOf_mem⟩
  rw [h.serial.owners, filterMap_wrote hwrote]
  rfl

end SaveProtocol

/-!
## Positions
-/

section Positions

variable {order : List Upserter}

theorem trackerPositions {s : SaveStore String Tracker.TrackerDevice
      Tracker.DevicePatch Tracker.TrackerReport}
    {writes : List (DeviceWrite Bytes)}
    (h : trackerSaves.SerialTables s order writes) (imei : String) :
    SnapshotOf ((s.owners.lookup imei).bind Tracker.TrackerDevice.lastLatitude)
      ((s.owners.lookup imei).bind Tracker.TrackerDevice.lastLongitude)
      (trackerCoordinates imei writes) := by
  apply snapshotOf_iff.mpr
  unfold trackerCoordinates
  rw [List.map_map, List.map_map, h.owners]
  constructor
  · exact trackerLatitude.column_savedRows imei (fun _ _ _ => rfl)
  · exact trackerLongitude.column_savedRows imei (fun _ _ _ => rfl)

theorem starlinkPositions {s : SaveStore String Starlink.StarlinkDevice
      Starlink.StarlinkDevicePatch Starlink.StarlinkReport}
    {writes : List (DeviceWrite FormattedLine)}
    (h : starlinkSaves.SerialTables s order writes) (deviceId : String) :
    SnapshotOf
      ((s.owners.lookup deviceId).bind Starlink.StarlinkDevice.lastLatitude)
      ((s.owners.lookup deviceId).bind Starlink.StarlinkDevice.lastLongitude)
      (starlinkCoordinates deviceId writes) := by
  apply snapshotOf_iff.mpr
  unfold starlinkCoordinates
  rw [List.map_map, List.map_map, h.owners]
  constructor
  · exact starlinkLatitude.column_savedRows deviceId (fun _ _ _ => rfl)
  · exact starlinkLongitude.column_savedRows deviceId (fun _ _ _ => rfl)

end Positions

end Persistence
end AvtTracker
