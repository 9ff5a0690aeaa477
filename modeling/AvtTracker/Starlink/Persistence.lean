import AvtTracker.Foundation.Upserts
import AvtTracker.Starlink.ParseFrame

/-!
# Persisting StarLink devices and reports

What {lit}`StarlinkPersistenceService` writes: the patch of a device row,
applied by one atomic upsert, and the row of a report.
-/

namespace AvtTracker
namespace Starlink

open Foundation

/-!
## Device rows
-/

/-- The columns of {lit}`starlink_device` the service writes. -/
structure StarlinkDevice where
  deviceId : String
  lastSeenAt : Option Date := none
  lastReportAt : Option Date := none
  lastEventId : Option JsNumber := none
  lastEventName : Option String := none
  lastLatitude : Option JsNumber := none
  lastLongitude : Option JsNumber := none
  lastSpeedKnots : Option JsNumber := none
  lastSpeedKmh : Option JsNumber := none
  lastIgnition : Option Bool := none
  lastBatteryVoltage : Option JsNumber := none
  lastMainPowerVoltage : Option JsNumber := none
  tcpConnected : Bool := false
  deriving DecidableEq, Repr

/-- A partial row: {lit}`none` leaves the column as it is.  The event name can
be written as {lit}`null`. -/
structure StarlinkDevicePatch where
  deviceId : String
  lastSeenAt : Option Date := none
  lastReportAt : Option Date := none
  lastEventId : Option JsNumber := none
  lastEventName : Option (Option String) := none
  lastLatitude : Option JsNumber := none
  lastLongitude : Option JsNumber := none
  lastSpeedKnots : Option JsNumber := none
  lastSpeedKmh : Option JsNumber := none
  lastIgnition : Option Bool := none
  lastBatteryVoltage : Option JsNumber := none
  lastMainPowerVoltage : Option JsNumber := none
  tcpConnected : Option Bool := none
  deriving DecidableEq, Repr

def StarlinkDevice.patched (row : StarlinkDevice)
    (patch : StarlinkDevicePatch) : StarlinkDevice where
  deviceId := row.deviceId
  lastSeenAt := patch.lastSeenAt.or row.lastSeenAt
  lastReportAt := patch.lastReportAt.or row.lastReportAt
  lastEventId := patch.lastEventId.or row.lastEventId
  lastEventName := patch.lastEventName.getD row.lastEventName
  lastLatitude := patch.lastLatitude.or row.lastLatitude
  lastLongitude := patch.lastLongitude.or row.lastLongitude
  lastSpeedKnots := patch.lastSpeedKnots.or row.lastSpeedKnots
  lastSpeedKmh := patch.lastSpeedKmh.or row.lastSpeedKmh
  lastIgnition := patch.lastIgnition.or row.lastIgnition
  lastBatteryVoltage := patch.lastBatteryVoltage.or row.lastBatteryVoltage
  lastMainPowerVoltage :=
    patch.lastMainPowerVoltage.or row.lastMainPowerVoltage
  tcpConnected := patch.tcpConnected.getD row.tcpConnected

/-- {lit}`upsertDevice` -/
def deviceUpserts : Upserts String StarlinkDevice StarlinkDevicePatch where
  keyOf := StarlinkDevicePatch.deviceId
  create deviceId := { deviceId := deviceId }
  patched := StarlinkDevice.patched

def markDeviceConnected (deviceId : String) (now : Int) :
    StarlinkDevicePatch where
  deviceId := deviceId
  tcpConnected := some true
  lastSeenAt := some { time := some now }

def markDeviceDisconnected (deviceId : String) : StarlinkDevicePatch where
  deviceId := deviceId
  tcpConnected := some false

/-!
## Saving a report
-/

/-- The columns of {lit}`starlink_report` the service writes. -/
structure StarlinkReport where
  deviceId : String
  messageType : JsNumber
  messageIndex : JsNumber
  eventId : Option JsNumber
  eventName : Option String
  alarm : Option String
  deviceTime : Option Date
  fixTime : Option Date
  latitude : Option JsNumber
  longitude : Option JsNumber
  altitudeM : Option JsNumber
  speedKnots : Option JsNumber
  speedKmh : Option JsNumber
  course : Option JsNumber
  odometerM : Option String
  lac : Option JsNumber
  cid : Option JsNumber
  mainPowerVoltage : Option JsNumber
  batteryVoltage : Option JsNumber
  ignition : Option Bool
  satellites : Option JsNumber
  pdop : Option JsNumber
  digitalInputs : Option DigitalLines
  digitalOutputs : Option DigitalLines
  destination : Option Utf16
  unsupportedTags : Option (List String)
  parseWarnings : Option (List Utf16)
  payload : StarlinkReportPayload
  rawLine : Utf16
  checksumHex : String

def reportPatch (header : StarlinkFrameHeader) (report : StarlinkReportPayload)
    (now : Int) : StarlinkDevicePatch where
  deviceId := header.deviceId
  tcpConnected := some true
  lastSeenAt := some { time := some now }
  lastReportAt := some (report.deviceTime.join.getD { time := some now })
  lastEventId := report.eventId
  lastEventName := report.eventId.map (fun _ => report.eventName)
  lastLatitude := report.latitude
  lastLongitude := report.longitude
  lastSpeedKnots := report.speedKnots
  lastSpeedKmh := report.speedKmh
  lastIgnition := report.ignition
  lastBatteryVoltage := report.batteryVoltage
  lastMainPowerVoltage := report.mainPowerVoltage

/-- {lit}`Object.keys(lines).length ? lines : null` -/
def anyLines (lines : DigitalLines) : Option DigitalLines :=
  if lines.keys.length > 0 then some lines else none

/-- {lit}`xs.length ? xs : null` -/
def anyOf {α : Type} (xs : List α) : Option (List α) :=
  if xs.length > 0 then some xs else none

def reportRow (parsed : ParsedStarlinkFrame) (report : StarlinkReportPayload) :
    StarlinkReport where
  deviceId := parsed.header.deviceId
  messageType := parsed.header.messageType
  messageIndex := parsed.header.messageIndex
  eventId := report.eventId
  eventName := report.eventName
  alarm := report.alarm
  deviceTime := report.deviceTime.join
  fixTime := report.fixTime.join
  latitude := report.latitude
  longitude := report.longitude
  altitudeM := report.altitudeM
  speedKnots := report.speedKnots
  speedKmh := report.speedKmh
  course := report.course
  odometerM := report.odometerM.map JsNumber.text
  lac := report.lac
  cid := report.cid
  mainPowerVoltage := report.mainPowerVoltage
  batteryVoltage := report.batteryVoltage
  ignition := report.ignition
  satellites := report.satellites
  pdop := report.pdop
  digitalInputs := anyLines report.digitalInputs
  digitalOutputs := anyLines report.digitalOutputs
  destination := report.destination
  unsupportedTags := anyOf report.unsupportedTags
  parseWarnings := anyOf (parsed.warnings.map StarlinkWarning.text)
  payload := report
  rawLine := parsed.rawLine
  checksumHex := parsed.header.checksumHex

/-- What {lit}`saveReport` upserts and then saves; a frame that is no event
report is not saved. -/
def saveReport (parsed : ParsedStarlinkFrame) (now : Int) :
    Option (StarlinkDevicePatch × StarlinkReport) :=
  parsed.report.map (fun report =>
    (reportPatch parsed.header report now, reportRow parsed report))

end Starlink
end AvtTracker
