import AvtTracker.Foundation.Upserts
import AvtTracker.Tracker.ParseFrame

/-!
# Persisting devices and reports

What the persistence service writes: the patch of a device row, applied by one
atomic upsert, and the row of a report.
-/

namespace AvtTracker
namespace Tracker

open Foundation

/-!
## Device rows
-/

/-- The columns of {lit}`tracker_device` the service writes. -/
structure TrackerDevice where
  imei : String
  lastSeenAt : Option Date := none
  lastReportAt : Option Date := none
  lastFrameKind : Option String := none
  lastLatitude : Option Rat := none
  lastLongitude : Option Rat := none
  lastAltitudeM : Option Int := none
  lastSpeedKmh : Option Nat := none
  lastEventType : Option Nat := none
  lastEventName : Option String := none
  lastBatteryLevelPercent : Option Nat := none
  lastBatteryVoltageMv : Option Nat := none
  lastNetworkType : Option Nat := none
  tcpConnected : Bool := false
  deriving DecidableEq, Repr

/-- A partial row: {lit}`none` leaves the column as it is. -/
structure DevicePatch where
  imei : String
  lastSeenAt : Option Date := none
  lastReportAt : Option Date := none
  lastFrameKind : Option String := none
  lastLatitude : Option Rat := none
  lastLongitude : Option Rat := none
  lastAltitudeM : Option Int := none
  lastSpeedKmh : Option Nat := none
  lastEventType : Option Nat := none
  lastEventName : Option String := none
  lastBatteryLevelPercent : Option Nat := none
  lastBatteryVoltageMv : Option Nat := none
  lastNetworkType : Option Nat := none
  tcpConnected : Option Bool := none
  deriving DecidableEq, Repr

abbrev DeviceTable : Type := AList (fun _ : String => TrackerDevice)

def TrackerDevice.patched (row : TrackerDevice) (patch : DevicePatch) :
    TrackerDevice where
  imei := row.imei
  lastSeenAt := patch.lastSeenAt.or row.lastSeenAt
  lastReportAt := patch.lastReportAt.or row.lastReportAt
  lastFrameKind := patch.lastFrameKind.or row.lastFrameKind
  lastLatitude := patch.lastLatitude.or row.lastLatitude
  lastLongitude := patch.lastLongitude.or row.lastLongitude
  lastAltitudeM := patch.lastAltitudeM.or row.lastAltitudeM
  lastSpeedKmh := patch.lastSpeedKmh.or row.lastSpeedKmh
  lastEventType := patch.lastEventType.or row.lastEventType
  lastEventName := patch.lastEventName.or row.lastEventName
  lastBatteryLevelPercent :=
    patch.lastBatteryLevelPercent.or row.lastBatteryLevelPercent
  lastBatteryVoltageMv :=
    patch.lastBatteryVoltageMv.or row.lastBatteryVoltageMv
  lastNetworkType := patch.lastNetworkType.or row.lastNetworkType
  tcpConnected := patch.tcpConnected.getD row.tcpConnected

/-- {lit}`upsertDevice`: create the row or patch it, in one statement. -/
def upsertDevice (devices : DeviceTable) (patch : DevicePatch) :
    DeviceTable :=
  let row := (devices.lookup patch.imei).getD { imei := patch.imei }
  devices.insert patch.imei (row.patched patch)

def deviceUpserts : Upserts String TrackerDevice DevicePatch where
  keyOf := DevicePatch.imei
  create imei := { imei := imei }
  patched := TrackerDevice.patched

theorem upsertDevice_eq (devices : DeviceTable) (patch : DevicePatch) :
    upsertDevice devices patch = deviceUpserts.upsert devices patch :=
  rfl

theorem lookup_upsertDevice (devices : DeviceTable) (patch : DevicePatch)
    (imei : String) :
    (upsertDevice devices patch).lookup imei =
      if imei = patch.imei then
        some (((devices.lookup imei).getD { imei := imei }).patched patch)
      else devices.lookup imei := by
  rw [upsertDevice_eq]
  exact Upserts.lookup_upsert devices patch imei

def markDeviceConnected (imei : String) (now : Int) : DevicePatch where
  imei := imei
  tcpConnected := some true
  lastSeenAt := some { time := some now }

def markDeviceDisconnected (imei : String) : DevicePatch where
  imei := imei
  tcpConnected := some false

/-!
## Saving a report
-/

namespace TrackerReportPayload

/-- {lit}`report.gnss?.primary` -/
def primaryFix (report : TrackerReportPayload) : Option GnssFix :=
  (report.get ReportField.gnss).bind GnssBlock.primary

end TrackerReportPayload

/-- The patch {lit}`saveReport` upserts before it saves the report. -/
def reportPatch (header : TrackerFrameHeader) (report : TrackerReportPayload)
    (now : Int) : DevicePatch where
  imei := header.imei
  tcpConnected := some true
  lastSeenAt := some { time := some now }
  lastReportAt := some (header.generatedAt.getD { time := some now })
  lastFrameKind := some header.kind.token
  lastEventType := some report.eventType
  lastEventName := some report.eventName
  lastLatitude := report.primaryFix.bind GnssFix.latitude
  lastLongitude := report.primaryFix.bind GnssFix.longitude
  lastAltitudeM := report.primaryFix.bind GnssFix.altitudeM
  lastSpeedKmh := report.primaryFix.bind GnssFix.speedKmh
  lastBatteryLevelPercent :=
    (report.get ReportField.battery).map BatteryBlock.levelPercent
  lastBatteryVoltageMv :=
    (report.get ReportField.battery).map BatteryBlock.voltageMv
  lastNetworkType := report.get ReportField.networkType

def formatHexMask (value : Nat) : String :=
  "0x" ++ String.ofList
    (padStart 8 ((Nat.toDigits 16 value).map Char.toUpper))

/-- The columns of {lit}`tracker_report` the service writes. -/
structure TrackerReport where
  imei : String
  frameKind : String
  protocolVersion : String
  eventType : Nat
  eventName : String
  eventState : Nat
  latitude : Option Rat
  longitude : Option Rat
  altitudeM : Option Int
  speedKmh : Option Nat
  azimuth : Option Nat
  satelliteCount : Option Nat
  batteryVoltageMv : Option Nat
  batteryLevelPercent : Option Nat
  mainPowerVoltageMv : Option Nat
  networkType : Option Nat
  mcc : Option Nat
  mnc : Option Nat
  lac : Option Nat
  cellId : Option String
  csq : Option Nat
  dataMaskHex : String
  eventDataMaskHex : Option String
  unsupportedDataMaskBits : Option (List Nat)
  parseWarnings : Option (List String)
  payload : TrackerReportPayload
  rawHex : String
  generatedAt : Option Date

def satelliteCount (satellites : Satellites) : Nat :=
  satellites.gps.getD 0 + satellites.beidou.getD 0 +
    satellites.galileo.getD 0 + satellites.glonass.getD 0

/-- {lit}`xs.length ? xs : null` -/
def nonEmpty {α : Type} (xs : List α) : Option (List α) :=
  if xs.length > 0 then some xs else none

/-- The row {lit}`saveReport` saves for a report. -/
def reportRow (parsed : ParsedTrackerFrame) (report : TrackerReportPayload) :
    TrackerReport where
  imei := parsed.header.imei
  frameKind := parsed.header.kind.token
  protocolVersion := report.protocolVersion
  eventType := report.eventType
  eventName := report.eventName
  eventState := report.eventState
  latitude := report.primaryFix.bind GnssFix.latitude
  longitude := report.primaryFix.bind GnssFix.longitude
  altitudeM := report.primaryFix.bind GnssFix.altitudeM
  speedKmh := report.primaryFix.bind GnssFix.speedKmh
  azimuth := report.primaryFix.bind GnssFix.azimuth
  satelliteCount :=
    (report.primaryFix.bind GnssFix.satellites).map satelliteCount
  batteryVoltageMv :=
    (report.get ReportField.battery).map BatteryBlock.voltageMv
  batteryLevelPercent :=
    (report.get ReportField.battery).map BatteryBlock.levelPercent
  mainPowerVoltageMv := (report.get ReportField.eventData).bind
    (fun block => block.fields EventDataField.mainPowerVoltageMv)
  networkType := report.get ReportField.networkType
  mcc := (report.get ReportField.cell).map CellBlock.mcc
  mnc := (report.get ReportField.cell).map CellBlock.mnc
  lac := (report.get ReportField.cell).map CellBlock.lac
  cellId := (report.get ReportField.cell).map
    (fun cell => String.ofList (Nat.toDigits 10 cell.cellId))
  csq := (report.get ReportField.cell).map CellBlock.csq
  dataMaskHex := formatHexMask report.dataMask
  eventDataMaskHex := (report.get ReportField.eventData).map
    (fun block => formatHexMask block.mask)
  unsupportedDataMaskBits := nonEmpty report.unsupportedDataMaskBits
  parseWarnings := nonEmpty (parsed.warnings.map Warning.text)
  payload := report
  rawHex := parsed.rawHex
  generatedAt := parsed.header.generatedAt

/-- What {lit}`saveReport` upserts and then saves; a frame that is no report is
not saved. -/
def saveReport (parsed : ParsedTrackerFrame) (now : Int) :
    Option (DevicePatch × TrackerReport) :=
  parsed.report.map (fun report =>
    (reportPatch parsed.header report now, reportRow parsed report))

end Tracker
end AvtTracker
