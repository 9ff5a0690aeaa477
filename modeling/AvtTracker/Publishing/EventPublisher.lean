import AvtTracker.Starlink.StarlinkTcpServer
import AvtTracker.Tracker.EventOutbox
import AvtTracker.Tracker.TrackerTcpServer

/-!
# Publishing the events of both servers

{lit}`TrackerEventPublisherService` listens to the events both TCP servers emit.
Each one is recorded in the outbox, by a promise nobody waits for, and sent to an
SNS topic if there is one.  The application is the two servers, the publisher
behind them, the outbox, and the requests that poll it.
-/

namespace AvtTracker
namespace Publishing

open Foundation Tcp Tracker Starlink

/-!
## Domain events
-/

/-- The {lit}`data` of an event. -/
inductive DomainEventData where
  | trackerReport (report : TrackerReport)
  | starlinkReport (report : StarlinkReport)
  | connected (remoteAddress : Option String) (remotePort : Option Nat)
      (connectedAt : Int)
  | disconnected (remoteAddress : Option String) (remotePort : Option Nat)
      (disconnectedAt : Int)

/-- What a handler passes on to {lit}`dispatch`. -/
structure DomainEvent where
  eventType : String
  imei : String
  data : DomainEventData

def handleReportReceived (imei : String) (saved : TrackerReport) :
    DomainEvent where
  eventType := "tracker.report.received"
  imei := imei
  data := DomainEventData.trackerReport saved

def handleDeviceConnected (imei : String) (remoteAddress : Option String)
    (remotePort : Option Nat) (connectedAt : Int) : DomainEvent where
  eventType := "tracker.device.connected"
  imei := imei
  data := DomainEventData.connected remoteAddress remotePort connectedAt

def handleDeviceDisconnected (imei : String) (remoteAddress : Option String)
    (remotePort : Option Nat) (disconnectedAt : Int) : DomainEvent where
  eventType := "tracker.device.disconnected"
  imei := imei
  data := DomainEventData.disconnected remoteAddress remotePort disconnectedAt

def handleStarlinkReportReceived (deviceId : String) (saved : StarlinkReport) :
    DomainEvent where
  eventType := "starlink.report.received"
  imei := deviceId
  data := DomainEventData.starlinkReport saved

def handleStarlinkDeviceConnected (deviceId : String)
    (remoteAddress : Option String) (remotePort : Option Nat)
    (connectedAt : Int) : DomainEvent where
  eventType := "starlink.device.connected"
  imei := deviceId
  data := DomainEventData.connected remoteAddress remotePort connectedAt

def handleStarlinkDeviceDisconnected (deviceId : String)
    (remoteAddress : Option String) (remotePort : Option Nat)
    (disconnectedAt : Int) : DomainEvent where
  eventType := "starlink.device.disconnected"
  imei := deviceId
  data := DomainEventData.disconnected remoteAddress remotePort disconnectedAt

/-- {lit}`TrackerEventEnvelope` -/
structure TrackerEventEnvelope where
  eventType : String
  version : Nat := 1
  occurredAt : Int
  imei : String
  data : DomainEventData

/-- The {lit}`PublishCommand` sent to SNS, with its two attributes. -/
structure PublishCommand where
  topicArn : String
  message : TrackerEventEnvelope
  eventType : String
  imei : String

/-- {lit}`publish`: an empty topic counts as none. -/
def publish (topicArn : Option String) (event : DomainEvent)
    (occurredAt : Int) : List PublishCommand :=
  match topicArn with
  | none => []
  | some arn =>
      if arn = "" then []
      else
        [{ topicArn := arn
           message :=
             { eventType := event.eventType
               occurredAt := occurredAt
               imei := event.imei
               data := event.data }
           eventType := event.eventType
           imei := event.imei }]

/-- The emission of a server that led to an event. -/
inductive Emission where
  | tracker (emitted : Tracker.Emitted)
  | starlink (emitted : Starlink.Emitted)

/-- The promise of {lit}`record` is pending, resolved to a row with this id, or
rejected. -/
inductive RecordPhase (Id : Type) where
  | pending
  | recorded (id : Id)
  | rejected
  deriving DecidableEq

/-- One call of {lit}`dispatch`. -/
structure Dispatch (Id : Type) where
  emission : Emission
  event : DomainEvent
  occurredAt : Int
  record : RecordPhase Id := RecordPhase.pending

/-- The row {lit}`record` saves in the outbox, as a request sees it. -/
def Dispatch.recordedAs {Id : Type} (call : Dispatch Id) (id : Id) :
    UnreadEvent Id DomainEventData where
  id := id
  eventType := call.event.eventType
  imei := call.event.imei
  occurredAt := call.occurredAt
  data := call.event.data

/-!
## What the servers hand over
-/

section Handlers

variable {Socket : Type} [DecidableEq Socket]

def trackerSocket : TrackerEvent Socket -> Option Socket
  | TrackerEvent.data socket _ _ => some socket
  | TrackerEvent.close socket => some socket
  | _ => none

def trackerPeer (s : TrackerTcpServer Socket) (e : TrackerEvent Socket) :
    Option String × Option Nat :=
  match (trackerSocket e).bind s.tcp.connections.lookup with
  | none => (none, none)
  | some connection => (connection.remoteAddress, connection.remotePort)

omit [DecidableEq Socket] in
def trackerRow (s : TrackerTcpServer Socket) (i : Nat) :
    Option TrackerReport :=
  (s.saves[i]?).bind (fun task =>
    task.parsed.report.map (Tracker.reportRow task.parsed))

omit [DecidableEq Socket] in
/-- The handler the publisher has for an emission of the tracker's server. -/
def trackerHandler (s : TrackerTcpServer Socket)
    (peer : Option String × Option Nat) (now : Int) :
    Tracker.Emitted -> Option DomainEvent
  | Tracker.Emitted.deviceConnected imei =>
      some (handleDeviceConnected imei peer.1 peer.2 now)
  | Tracker.Emitted.deviceDisconnected imei =>
      some (handleDeviceDisconnected imei peer.1 peer.2 now)
  | Tracker.Emitted.reportReceived i =>
      (trackerRow s i).map (fun saved => handleReportReceived saved.imei saved)

def starlinkHandler : Starlink.Emitted -> DomainEvent
  | Starlink.Emitted.deviceConnected deviceId address port connectedAt =>
      handleStarlinkDeviceConnected deviceId address port connectedAt
  | Starlink.Emitted.deviceDisconnected deviceId address port
      disconnectedAt =>
      handleStarlinkDeviceDisconnected deviceId address port disconnectedAt
  | Starlink.Emitted.reportReceived deviceId _ saved =>
      handleStarlinkReportReceived deviceId saved

end Handlers

/-!
## The application
-/

/-- What the application is configured with. -/
structure AppConfig where
  trackerMaxBufferBytes : Nat
  starlinkMaxBufferBytes : Nat
  reportFormatTags : List String
  snsTopicArn : Option String

/-- The servers, every call of {lit}`dispatch`, everything sent to SNS, and the
outbox. -/
structure Application (Socket Id : Type) where
  tracker : TrackerTcpServer Socket := {}
  starlink : StarlinkTcpServer Socket := {}
  dispatched : List (Dispatch Id) := []
  published : List PublishCommand := []
  outbox : Outbox Id DomainEventData := {}

inductive AppEvent (Socket Id : Type) where
  | tracker (e : TrackerEvent Socket) (now : Int)
  | starlink (e : StarlinkEvent Socket Bytes) (now : Int)
  | recordSettled (call : Nat) (saved : Option Id)
  | polling (e : OutboxEvent Id DomainEventData)

namespace Application

variable {Socket Id : Type}

/-- {lit}`dispatch`, for one event after the other. -/
def dispatchAll (app : Application Socket Id) (topicArn : Option String)
    (events : List (Emission × DomainEvent)) (now : Int) :
    Application Socket Id :=
  { app with
    dispatched := app.dispatched ++ events.map (fun event =>
      { emission := event.1, event := event.2, occurredAt := now })
    published := app.published ++
      events.flatMap (fun event => publish topicArn event.2 now) }

def setRecord (app : Application Socket Id) (k : Nat)
    (phase : RecordPhase Id) : Application Socket Id :=
  { app with dispatched := app.dispatched.modify k (fun call =>
      { call with record := phase }) }

section Steps

variable [DecidableEq Socket] [DecidableEq Id] (config : AppConfig)

/-- The emissions of a handler of the tracker's server are dispatched as they
are made. -/
def stepTracker (app : Application Socket Id) (e : TrackerEvent Socket)
    (now : Int) : Application Socket Id :=
  let s := (trackerTcpServer Socket config.trackerMaxBufferBytes).step
    app.tracker e
  let emitted := s.emitted.drop app.tracker.emitted.length
  let events := emitted.filterMap (fun emission =>
    (trackerHandler s (trackerPeer app.tracker e) now emission).map
      (fun event => (Emission.tracker emission, event)))
  { app with tracker := s }.dispatchAll config.snsTopicArn events now

def stepStarlink (app : Application Socket Id)
    (e : StarlinkEvent Socket Bytes) (now : Int) : Application Socket Id :=
  let s := (starlinkTcpServer Socket config.starlinkMaxBufferBytes
    config.reportFormatTags).step app.starlink e
  let emitted := s.emitted.drop app.starlink.emitted.length
  let events := emitted.map (fun emission =>
    (Emission.starlink emission, starlinkHandler emission))
  { app with starlink := s }.dispatchAll config.snsTopicArn events now

omit [DecidableEq Socket] in
/-- The promise of {lit}`record` settles; a failure is logged. -/
def settleRecord (app : Application Socket Id) (k : Nat) (saved : Option Id) :
    Application Socket Id :=
  match app.dispatched[k]? with
  | none => app
  | some call =>
      match saved with
      | none => app.setRecord k RecordPhase.rejected
      | some id =>
          { app.setRecord k (RecordPhase.recorded id) with
            outbox := (eventOutbox Id DomainEventData).step app.outbox
              (OutboxEvent.recorded id call.event.eventType call.event.imei
                call.event.data call.occurredAt) }

end Steps

end Application

namespace AppEvent

variable {Socket Id : Type} [DecidableEq Socket]

/-- A step of a request for unread events. -/
def Polls : OutboxEvent Id DomainEventData -> Prop
  | OutboxEvent.recorded _ _ _ _ _ => False
  | _ => True

/-- The publisher is the only listener, and it does not throw. -/
def ListenersReturn : AppEvent Socket Id -> Prop
  | tracker (TrackerEvent.thenRuns _ _ listenerThrows) _ =>
      listenerThrows = false
  | starlink (StarlinkEvent.thenRuns _ _ listenerThrows) _ =>
      listenerThrows = false
  | _ => True

/-- Records are settled once, with a new id, and are the only ones the outbox
gets. -/
def Enabled (app : Application Socket Id) (e : AppEvent Socket Id) : Prop :=
  e.ListenersReturn ∧
    match e with
    | tracker e _ => e.Enabled app.tracker
    | starlink e _ => e.Enabled app.starlink
    | recordSettled k saved => exists call,
        app.dispatched[k]? = some call ∧ call.record = RecordPhase.pending ∧
          forall id, saved = some id ->
            id ∉ app.outbox.table.map OutboxRow.id
    | polling e => Polls e ∧ e.Enabled app.outbox

end AppEvent

def application (Socket Id : Type) [DecidableEq Socket] [DecidableEq Id]
    (config : AppConfig) :
    EventSystem (Application Socket Id) (AppEvent Socket Id) where
  initial := {}
  Enabled app e := e.Enabled app
  step app
    | AppEvent.tracker e now => app.stepTracker config e now
    | AppEvent.starlink e now => app.stepStarlink config e now
    | AppEvent.recordSettled k saved => app.settleRecord k saved
    | AppEvent.polling e =>
        { app with outbox := (eventOutbox Id DomainEventData).step app.outbox e }

end Publishing
end AvtTracker
