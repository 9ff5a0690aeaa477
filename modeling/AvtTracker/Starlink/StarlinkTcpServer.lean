import AvtTracker.Foundation.ConcurrentSaves
import AvtTracker.Starlink.LineSplitter
import AvtTracker.Starlink.Persistence
import AvtTracker.Tcp.OnlineDevices

/-!
# The StarLink TCP server

The whole of {lit}`StarlinkTcpServer` as an event system.  Lines are split off
the chunks of a socket and parsed with the configured tags; a line of a known
device identifies its socket, and an event report is saved by a promise chain.
Nothing is ever written to a socket.
-/

namespace AvtTracker
namespace Starlink

open Foundation Tcp

/-!
## Promise chains
-/

/-- How {lit}`saveReport` settled. -/
inductive SaveOutcome where
  | row
  | null
  | rejected
  deriving DecidableEq, Repr

/-- How far the chain of one report has got.  Its last part is its
{lit}`catch`. -/
inductive SavePhase where
  | upserting
  | saving
  | settled (outcome : SaveOutcome)
  | emitted (outcome : SaveOutcome) (failed : Bool)
  | finished (outcome : SaveOutcome)
  deriving DecidableEq, Repr

/-- The chain {lit}`handleReport` starts for one event report. -/
structure SaveTask where
  parsed : ParsedStarlinkFrame
  startedAt : Int
  phase : SavePhase

/-- The events of {lit}`STARLINK_EVENTS`, with the data that goes with them.  A
saved report names the chain that saved it. -/
inductive Emitted where
  | deviceConnected (deviceId : String) (remoteAddress : Option String)
      (remotePort : Option Nat) (connectedAt : Int)
  | deviceDisconnected (deviceId : String) (remoteAddress : Option String)
      (remotePort : Option Nat) (disconnectedAt : Int)
  | reportReceived (deviceId : String) (chain : Nat) (saved : StarlinkReport)

/-- What the {lit}`then` part of a chain emits for a saved row. -/
def SaveTask.announcement (i : Nat) (task : SaveTask) : List Emitted :=
  match task.parsed.report with
  | none => []
  | some report =>
      [Emitted.reportReceived task.parsed.header.deviceId i
        (reportRow task.parsed report)]

abbrev DeviceTable : Type := AList (fun _ : String => StarlinkDevice)

/-- The server, the database behind it and everything it ever emitted. -/
structure StarlinkTcpServer (Socket : Type) where
  tcp : TcpServer Socket := {}
  splitters : AList (fun _ : Socket => StarlinkLineSplitter) := ∅
  marks : List (PatchJob StarlinkDevicePatch) := []
  saves : List SaveTask := []
  devices : DeviceTable := ∅
  reports : List (Nat × StarlinkReport) := []
  emitted : List Emitted := []

/-- {lit}`upsertDevice` -/
def upsertDevice (devices : DeviceTable) (patch : StarlinkDevicePatch) :
    DeviceTable :=
  deviceUpserts.upsert devices patch

namespace StarlinkTcpServer

variable {Socket : Type} [DecidableEq Socket]

/-!
## The handlers of a socket
-/

def peer (s : StarlinkTcpServer Socket) (socket : Socket) :
    Option String × Option Nat :=
  match s.tcp.connections.lookup socket with
  | none => (none, none)
  | some connection => (connection.remoteAddress, connection.remotePort)

def registerDevice (s : StarlinkTcpServer Socket) (socket : Socket)
    (resolvedDeviceId : String) (now : Int) : StarlinkTcpServer Socket :=
  let registered :=
    { s with tcp := s.tcp.registerDevice socket resolvedDeviceId now }
  if s.tcp.deviceId socket = some resolvedDeviceId then registered
  else
    let peer := s.peer socket
    { registered with
      marks := s.marks ++
        [{ patch := markDeviceConnected resolvedDeviceId now }]
      emitted := s.emitted ++
        [Emitted.deviceConnected resolvedDeviceId peer.1 peer.2 now] }

/-- {lit}`saveReport` returns {lit}`null` at once if there is no report. -/
def handleReport (s : StarlinkTcpServer Socket) (parsed : ParsedStarlinkFrame)
    (now : Int) : StarlinkTcpServer Socket :=
  let phase := if parsed.report.isSome then SavePhase.upserting
    else SavePhase.settled SaveOutcome.null
  { s with
    saves := s.saves ++
      [{ parsed := parsed, startedAt := now, phase := phase }] }

/-- A line that cannot be parsed is discarded. -/
def handleLine (s : StarlinkTcpServer Socket) (reportFormatTags : List String)
    (socket : Socket) (line : Utf16) (now : Int) : StarlinkTcpServer Socket :=
  match parseFrame line reportFormatTags with
  | Except.error _ => s
  | Except.ok parsed =>
      let s := s.registerDevice socket parsed.header.deviceId now
      if parsed.report.isSome then s.handleReport parsed now else s

def handleLines (s : StarlinkTcpServer Socket) (reportFormatTags : List String)
    (socket : Socket) (lines : List Utf16) (now : Int) :
    StarlinkTcpServer Socket :=
  lines.foldl (fun s line => s.handleLine reportFormatTags socket line now) s

def handleConnection (s : StarlinkTcpServer Socket) (maxBufferBytes : Nat)
    (socket : Socket) (remoteAddress : Option String)
    (remotePort : Option Nat) : StarlinkTcpServer Socket :=
  let splitter : StarlinkLineSplitter := { maxBufferBytes := maxBufferBytes }
  { s with
    tcp := s.tcp.handleConnection socket remoteAddress remotePort
    splitters := s.splitters.insert socket splitter }

/-- The {lit}`data` handler: split the chunk and handle every line. -/
def handleData (s : StarlinkTcpServer Socket) (reportFormatTags : List String)
    (socket : Socket) (chunk : Bytes) (now : Int) : StarlinkTcpServer Socket :=
  match s.splitters.lookup socket with
  | none => s
  | some splitter =>
      let pushed := splitter.push chunk
      let s := { s with splitters := s.splitters.insert socket pushed.2 }
      s.handleLines reportFormatTags socket pushed.1.lines now

/-- The {lit}`close` handler.  An empty id counts as none. -/
def handleClose (s : StarlinkTcpServer Socket) (socket : Socket) (now : Int) :
    StarlinkTcpServer Socket :=
  let closed := { s with tcp := s.tcp.handleClose socket }
  match s.tcp.deviceId socket with
  | none => closed
  | some deviceId =>
      if deviceId = "" then closed
      else
        let peer := s.peer socket
        { closed with
          marks := s.marks ++ [{ patch := markDeviceDisconnected deviceId }]
          emitted := s.emitted ++
            [Emitted.deviceDisconnected deviceId peer.1 peer.2 now] }

/-!
## The parts of the promise chains
-/

section Chains

omit [DecidableEq Socket]

def phaseOf (s : StarlinkTcpServer Socket) (i : Nat) : Option SavePhase :=
  (s.saves[i]?).map SaveTask.phase

def setPhase (s : StarlinkTcpServer Socket) (i : Nat) (phase : SavePhase) :
    StarlinkTcpServer Socket :=
  { s with saves := s.saves.modify i (fun task =>
      { task with phase := phase }) }

/-- A connection mark reaches the database, or is rejected and logged. -/
def settleMark (s : StarlinkTcpServer Socket) (j : Nat) (accepted : Bool) :
    StarlinkTcpServer Socket :=
  match s.marks[j]? with
  | none => s
  | some mark =>
      { s with
        marks := s.marks.modify j (fun mark => { mark with inFlight := false })
        devices := if accepted then upsertDevice s.devices mark.patch
          else s.devices }

/-- The upsert of {lit}`saveReport` is applied or rejected. -/
def settleUpsert (s : StarlinkTcpServer Socket) (i : Nat) (accepted : Bool) :
    StarlinkTcpServer Socket :=
  match s.saves[i]? with
  | none => s
  | some task =>
      match task.parsed.report with
      | none => s
      | some report =>
          if accepted then
            let patch := reportPatch task.parsed.header report task.startedAt
            { s.setPhase i SavePhase.saving with
              devices := upsertDevice s.devices patch }
          else s.setPhase i (SavePhase.settled SaveOutcome.rejected)

/-- The row of {lit}`saveReport` is saved or rejected. -/
def settleSave (s : StarlinkTcpServer Socket) (i : Nat) (accepted : Bool) :
    StarlinkTcpServer Socket :=
  match s.saves[i]? with
  | none => s
  | some task =>
      match task.parsed.report with
      | none => s
      | some report =>
          if accepted then
            { s.setPhase i (SavePhase.settled SaveOutcome.row) with
              reports := s.reports ++ [(i, reportRow task.parsed report)] }
          else s.setPhase i (SavePhase.settled SaveOutcome.rejected)

/-- The {lit}`then` part: a saved row is announced to the listeners, one of
which may throw; a rejection passes it by. -/
def runThen (s : StarlinkTcpServer Socket) (i : Nat) (outcome : SaveOutcome)
    (listenerThrows : Bool) : StarlinkTcpServer Socket :=
  match s.saves[i]? with
  | none => s
  | some task =>
      match outcome with
      | SaveOutcome.row =>
          { s.setPhase i (SavePhase.emitted outcome listenerThrows) with
            emitted := s.emitted ++ SaveTask.announcement i task }
      | SaveOutcome.null => s.setPhase i (SavePhase.emitted outcome false)
      | SaveOutcome.rejected => s.setPhase i (SavePhase.emitted outcome true)

end Chains

end StarlinkTcpServer

/-!
## The event system
-/

/-- The input of a socket is a chunk, or a line behind its splitter. -/
inductive StarlinkEvent (Socket Input : Type) where
  | connect (socket : Socket) (remoteAddress : Option String)
      (remotePort : Option Nat)
  | data (socket : Socket) (input : Input) (now : Int)
  | close (socket : Socket) (now : Int)
  | markSettled (mark : Nat) (accepted : Bool)
  | upsertSettled (report : Nat) (accepted : Bool)
  | saveSettled (report : Nat) (accepted : Bool)
  | thenRuns (report : Nat) (outcome : SaveOutcome) (listenerThrows : Bool)
  | catchRuns (report : Nat) (outcome : SaveOutcome) (failed : Bool)

namespace StarlinkEvent

variable {Socket Input : Type} [DecidableEq Socket]

/-- Sockets connect once and send and close while they are open; each part of a
chain runs when the parts before it have run. -/
def Enabled (s : StarlinkTcpServer Socket) :
    StarlinkEvent Socket Input -> Prop
  | connect socket _ _ => socket ∉ s.tcp.connections
  | data socket _ _ => s.tcp.isOpen socket = true
  | close socket _ => s.tcp.isOpen socket = true
  | markSettled j _ => (s.marks[j]?).any PatchJob.inFlight = true
  | upsertSettled i _ => s.phaseOf i = some SavePhase.upserting
  | saveSettled i _ => s.phaseOf i = some SavePhase.saving
  | thenRuns i outcome _ => s.phaseOf i = some (SavePhase.settled outcome)
  | catchRuns i outcome failed =>
      s.phaseOf i = some (SavePhase.emitted outcome failed)

instance (s : StarlinkTcpServer Socket) :
    forall e : StarlinkEvent Socket Input, Decidable (e.Enabled s)
  | connect socket _ _ =>
      inferInstanceAs (Decidable (socket ∉ s.tcp.connections))
  | data socket _ _ => inferInstanceAs (Decidable (s.tcp.isOpen socket = true))
  | close socket _ => inferInstanceAs (Decidable (s.tcp.isOpen socket = true))
  | markSettled j _ =>
      inferInstanceAs (Decidable ((s.marks[j]?).any PatchJob.inFlight = true))
  | upsertSettled i _ =>
      inferInstanceAs (Decidable (s.phaseOf i = some SavePhase.upserting))
  | saveSettled i _ =>
      inferInstanceAs (Decidable (s.phaseOf i = some SavePhase.saving))
  | thenRuns i outcome _ =>
      inferInstanceAs (Decidable (s.phaseOf i = some (SavePhase.settled outcome)))
  | catchRuns i outcome failed =>
      inferInstanceAs
        (Decidable (s.phaseOf i = some (SavePhase.emitted outcome failed)))

end StarlinkEvent

namespace StarlinkTcpServer

variable {Socket Input : Type} [DecidableEq Socket]

/-- The handlers that do not look at splitters. -/
def handle (s : StarlinkTcpServer Socket) :
    StarlinkEvent Socket Input -> StarlinkTcpServer Socket
  | StarlinkEvent.connect socket remoteAddress remotePort =>
      { s with tcp := s.tcp.handleConnection socket remoteAddress remotePort }
  | StarlinkEvent.data _ _ _ => s
  | StarlinkEvent.close socket now => s.handleClose socket now
  | StarlinkEvent.markSettled j accepted => s.settleMark j accepted
  | StarlinkEvent.upsertSettled i accepted => s.settleUpsert i accepted
  | StarlinkEvent.saveSettled i accepted => s.settleSave i accepted
  | StarlinkEvent.thenRuns i outcome listenerThrows =>
      s.runThen i outcome listenerThrows
  | StarlinkEvent.catchRuns i outcome _ =>
      s.setPhase i (SavePhase.finished outcome)

end StarlinkTcpServer

/-- The server with its {lit}`maxBufferBytes` and {lit}`reportFormatTags`
settings. -/
def starlinkTcpServer (Socket : Type) [DecidableEq Socket]
    (maxBufferBytes : Nat) (reportFormatTags : List String) :
    EventSystem (StarlinkTcpServer Socket) (StarlinkEvent Socket Bytes) where
  initial := {}
  Enabled s e := e.Enabled s
  step s
    | StarlinkEvent.connect socket remoteAddress remotePort =>
        s.handleConnection maxBufferBytes socket remoteAddress remotePort
    | StarlinkEvent.data socket chunk now =>
        s.handleData reportFormatTags socket chunk now
    | e => s.handle e

/-- The server behind its splitters: its sockets deliver lines. -/
def lineHandling (Socket : Type) [DecidableEq Socket]
    (reportFormatTags : List String) :
    EventSystem (StarlinkTcpServer Socket) (StarlinkEvent Socket Utf16) where
  initial := {}
  Enabled s e := e.Enabled s
  step s
    | StarlinkEvent.data socket line now =>
        s.handleLine reportFormatTags socket line now
    | e => s.handle e

section Deciding

variable {Socket : Type} [DecidableEq Socket] (reportFormatTags : List String)

instance (maxBufferBytes : Nat) (s : StarlinkTcpServer Socket)
    (e : StarlinkEvent Socket Bytes) :
    Decidable ((starlinkTcpServer Socket maxBufferBytes
      reportFormatTags).Enabled s e) :=
  inferInstanceAs (Decidable (e.Enabled s))

instance (s : StarlinkTcpServer Socket) (e : StarlinkEvent Socket Utf16) :
    Decidable ((lineHandling Socket reportFormatTags).Enabled s e) :=
  inferInstanceAs (Decidable (e.Enabled s))

end Deciding

end Starlink
end AvtTracker
