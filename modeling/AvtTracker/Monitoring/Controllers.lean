import AvtTracker.Foundation.Selection
import AvtTracker.Starlink.Persistence
import AvtTracker.Tcp.ConnectionRegistry
import AvtTracker.Tracker.Persistence
import Mathlib.Data.Int.ConditionallyCompleteOrder
import Mathlib.Order.WithBot

/-!
# The listing and monitoring endpoints

Both controllers list the reports of a device, the latest reports of all devices,
and the devices with what the registry knows of them.  The queries are relations,
for the database arranges rows with equal keys as it likes; the handlers are
functions of what the queries found.
-/

namespace AvtTracker
namespace Monitoring

open Foundation Tcp Tracker Starlink

/-!
## Queries
-/

/-- {lit}`FindReportsOptions` -/
structure FindReportsOptions where
  limit : Option Int := none
  fromDate : Option Int := none
  toDate : Option Int := none

/-- {lit}`options.limit && options.limit > 0 ? options.limit : 50` -/
def takeLimit : Option Int -> Nat
  | some limit => if limit > 0 then limit.toNat else 50
  | none => 50

/-- {lit}`limit && limit > 0 ? Math.min(limit, 500) : 50` -/
def effectiveLimit : Option Int -> Nat
  | some limit => if limit > 0 then min limit.toNat 500 else 50
  | none => 50

def FindReportsOptions.includes (options : FindReportsOptions)
    (receivedAt : Int) : Bool :=
  options.fromDate.all (fun fromDate => decide (fromDate ≤ receivedAt)) &&
    options.toDate.all (fun toDate => decide (receivedAt ≤ toDate))

section Queries

variable {Report Device : Type} (receivedAt : Nat -> Int)

/-- The first rows {lit}`ORDER BY "receivedAt" DESC`; the database has dated each
row when it was inserted. -/
def FindsLatest (limit : Nat) (rows found : List (Nat × Report)) : Prop :=
  Selects (fun row => -receivedAt row.1) limit rows found

/-- The {lit}`WHERE` clause of {lit}`findReports`. -/
def wantedRow (deviceIdOf : Report -> String) (deviceId : String)
    (options : FindReportsOptions) (row : Nat × Report) : Bool :=
  decide (deviceIdOf row.2 = deviceId) && options.includes (receivedAt row.1)

/-- {lit}`findReports` may return these rows. -/
def FindsReports (deviceIdOf : Report -> String) (deviceId : String)
    (options : FindReportsOptions) (rows found : List (Nat × Report)) : Prop :=
  FindsLatest receivedAt (takeLimit options.limit)
    (rows.filter (wantedRow receivedAt deviceIdOf deviceId options)) found

/-- The key of {lit}`ORDER BY "lastSeenAt" DESC`: {lit}`NULL` comes first. -/
def seenKey (lastSeenAt : Option Date) : WithTop Int :=
  lastSeenAt.bind Date.time

/-- {lit}`findAllDevices` may return these rows. -/
def FindsAllDevices (lastSeenAt : Device -> Option Date)
    (devices : AList (fun _ : String => Device)) (found : List Device) : Prop :=
  found.Perm (devices.entries.map Sigma.snd) ∧
    found.Pairwise (fun a b =>
      seenKey (lastSeenAt b) ≤ seenKey (lastSeenAt a))

end Queries

/-!
## Handlers
-/

/-- A response, or a {lit}`NotFoundException`. -/
inductive HttpAnswer (Body : Type) where
  | ok (body : Body)
  | notFound (message : String)

structure ReportList (Report : Type) where
  deviceId : String
  count : Nat
  reports : List Report

def listReports {Device Report : Type} (message : String)
    (device : Option Device) (deviceId : String)
    (found : List (Nat × Report)) : HttpAnswer (ReportList Report) :=
  match device with
  | none => HttpAnswer.notFound message
  | some _ =>
      HttpAnswer.ok
        { deviceId := deviceId
          count := found.length
          reports := found.map Prod.snd }

/-- What the overview shows of the row of a device. -/
structure DeviceColumns where
  deviceId : String
  lastSeenAt : Option Date
  lastReportAt : Option Date
  lastEventName : Option String

structure OverviewEntry extends DeviceColumns where
  online : Bool
  connectedAt : Option Int
  lastActivityAt : Option Int

structure Overview where
  totalDevices : Nat
  connectedNow : Nat
  devices : List OverviewEntry

section Overviews

variable {Socket Device : Type}

def overviewEntry (registry : ConnectionRegistry Socket)
    (columns : DeviceColumns) : OverviewEntry :=
  let connectionInfo := registry.getConnectionInfo columns.deviceId
  { columns with
    online := registry.isConnected columns.deviceId
    connectedAt := connectionInfo.map ConnectionInfo.connectedAt
    lastActivityAt := connectionInfo.map ConnectionInfo.lastActivityAt }

/-- The size of the set of connected devices is that of the registry. -/
def monitorOverview (columns : Device -> DeviceColumns) (devices : List Device)
    (registry : ConnectionRegistry Socket) : Overview where
  totalDevices := devices.length
  connectedNow := registry.connectedCount
  devices := devices.map (fun device => overviewEntry registry (columns device))

end Overviews

structure RecentEvents (Event : Type) where
  count : Nat
  events : List Event

def monitorRecentEvents {Report Event : Type} (shown : Report -> Event)
    (found : List (Nat × Report)) : RecentEvents Event where
  count := found.length
  events := found.map (fun row => shown row.2)

/-!
## {lit}`TrackerController`
-/

namespace TrackerController

def listReports (device : Option TrackerDevice) (imei : String)
    (found : List (Nat × TrackerReport)) :
    HttpAnswer (ReportList TrackerReport) :=
  Monitoring.listReports ("No device known with IMEI " ++ imei) device imei
    found

def columns (device : TrackerDevice) : DeviceColumns where
  deviceId := device.imei
  lastSeenAt := device.lastSeenAt
  lastReportAt := device.lastReportAt
  lastEventName := device.lastEventName

/-- The position {lit}`listDevices` shows, if both coordinates are known. -/
structure LastPosition where
  latitude : Rat
  longitude : Rat
  altitudeM : Option Int
  speedKmh : Option Nat

structure LastEvent where
  eventType : Nat
  name : Option String

structure Battery where
  levelPercent : Nat
  voltageMv : Option Nat

structure DeviceEntry where
  imei : String
  online : Bool
  lastSeenAt : Option Date
  lastReportAt : Option Date
  lastFrameKind : Option String
  lastPosition : Option LastPosition
  lastEvent : Option LastEvent
  battery : Option Battery
  networkType : Option Nat

def lastPosition (device : TrackerDevice) : Option LastPosition :=
  match device.lastLatitude, device.lastLongitude with
  | some latitude, some longitude =>
      some
        { latitude := latitude
          longitude := longitude
          altitudeM := device.lastAltitudeM
          speedKmh := device.lastSpeedKmh }
  | _, _ => none

def deviceEntry {Socket : Type} (registry : ConnectionRegistry Socket)
    (device : TrackerDevice) : DeviceEntry where
  imei := device.imei
  online := registry.isConnected device.imei
  lastSeenAt := device.lastSeenAt
  lastReportAt := device.lastReportAt
  lastFrameKind := device.lastFrameKind
  lastPosition := lastPosition device
  lastEvent := device.lastEventType.map (fun eventType =>
    { eventType := eventType, name := device.lastEventName })
  battery := device.lastBatteryLevelPercent.map (fun levelPercent =>
    { levelPercent := levelPercent, voltageMv := device.lastBatteryVoltageMv })
  networkType := device.lastNetworkType

def listDevices {Socket : Type} (devices : List TrackerDevice)
    (registry : ConnectionRegistry Socket) : List DeviceEntry :=
  devices.map (deviceEntry registry)

def monitorOverview {Socket : Type} (devices : List TrackerDevice)
    (registry : ConnectionRegistry Socket) : Overview :=
  Monitoring.monitorOverview columns devices registry

/-- What {lit}`monitor/events` shows of a report. -/
structure RecentEvent where
  imei : String
  frameKind : String
  eventType : Nat
  eventName : String
  eventState : Nat
  latitude : Option Rat
  longitude : Option Rat
  speedKmh : Option Nat
  batteryLevelPercent : Option Nat
  generatedAt : Option Date

def recentEvent (report : TrackerReport) : RecentEvent where
  imei := report.imei
  frameKind := report.frameKind
  eventType := report.eventType
  eventName := report.eventName
  eventState := report.eventState
  latitude := report.latitude
  longitude := report.longitude
  speedKmh := report.speedKmh
  batteryLevelPercent := report.batteryLevelPercent
  generatedAt := report.generatedAt

def monitorRecentEvents (found : List (Nat × TrackerReport)) :
    RecentEvents RecentEvent :=
  Monitoring.monitorRecentEvents recentEvent found

end TrackerController

/-!
## {lit}`StarlinkController`
-/

namespace StarlinkController

def listReports (device : Option StarlinkDevice) (deviceId : String)
    (found : List (Nat × StarlinkReport)) :
    HttpAnswer (ReportList StarlinkReport) :=
  Monitoring.listReports ("No StarLink device known with id " ++ deviceId)
    device deviceId found

def columns (device : StarlinkDevice) : DeviceColumns where
  deviceId := device.deviceId
  lastSeenAt := device.lastSeenAt
  lastReportAt := device.lastReportAt
  lastEventName := device.lastEventName

/-- The position {lit}`listDevices` shows, if both coordinates are known. -/
structure LastPosition where
  latitude : JsNumber
  longitude : JsNumber

structure LastEvent where
  id : JsNumber
  name : Option String

structure DeviceEntry where
  deviceId : String
  online : Bool
  lastSeenAt : Option Date
  lastReportAt : Option Date
  lastPosition : Option LastPosition
  lastEvent : Option LastEvent
  lastIgnition : Option Bool
  battery : Option JsNumber
  mainPower : Option JsNumber

def lastPosition (device : StarlinkDevice) : Option LastPosition :=
  match device.lastLatitude, device.lastLongitude with
  | some latitude, some longitude =>
      some { latitude := latitude, longitude := longitude }
  | _, _ => none

def deviceEntry {Socket : Type} (registry : ConnectionRegistry Socket)
    (device : StarlinkDevice) : DeviceEntry where
  deviceId := device.deviceId
  online := registry.isConnected device.deviceId
  lastSeenAt := device.lastSeenAt
  lastReportAt := device.lastReportAt
  lastPosition := lastPosition device
  lastEvent := device.lastEventId.map (fun eventId =>
    { id := eventId, name := device.lastEventName })
  lastIgnition := device.lastIgnition
  battery := device.lastBatteryVoltage
  mainPower := device.lastMainPowerVoltage

def listDevices {Socket : Type} (devices : List StarlinkDevice)
    (registry : ConnectionRegistry Socket) : List DeviceEntry :=
  devices.map (deviceEntry registry)

def monitorOverview {Socket : Type} (devices : List StarlinkDevice)
    (registry : ConnectionRegistry Socket) : Overview :=
  Monitoring.monitorOverview columns devices registry

/-- What {lit}`monitor/events` shows of a report. -/
structure RecentEvent where
  deviceId : String
  eventId : Option JsNumber
  eventName : Option String
  alarm : Option String
  latitude : Option JsNumber
  longitude : Option JsNumber
  speedKnots : Option JsNumber
  speedKmh : Option JsNumber
  batteryVoltage : Option JsNumber
  deviceTime : Option Date

def recentEvent (report : StarlinkReport) : RecentEvent where
  deviceId := report.deviceId
  eventId := report.eventId
  eventName := report.eventName
  alarm := report.alarm
  latitude := report.latitude
  longitude := report.longitude
  speedKnots := report.speedKnots
  speedKmh := report.speedKmh
  batteryVoltage := report.batteryVoltage
  deviceTime := report.deviceTime

def monitorRecentEvents (found : List (Nat × StarlinkReport)) :
    RecentEvents RecentEvent :=
  Monitoring.monitorRecentEvents recentEvent found

end StarlinkController

end Monitoring
end AvtTracker
