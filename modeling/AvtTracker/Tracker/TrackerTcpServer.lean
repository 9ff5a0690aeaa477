import AvtTracker.Tcp.OnlineDevices
import AvtTracker.Tracker.FrameSplitter
import AvtTracker.Tracker.Persistence

/-!
# The tracker's TCP server

The whole of {lit}`TrackerTcpServer` as an event system: chunks arrive on
sockets, frames are split off and parsed, devices are registered, and reports
are saved by promise chains whose parts run when the database and the event
loop let them.  Every part of a chain is an event of its own, so the chains of
any number of reports interleave in every order.
-/

namespace AvtTracker
namespace Tracker

open Foundation Tcp

/-!
## Promise chains
-/

/-- How {lit}`saveReport` settled: it resolved to the saved row, it resolved to
{lit}`null`, or it was rejected. -/
inductive SaveOutcome where
  | row
  | null
  | rejected
  deriving DecidableEq, Repr

/-- How far the chain of one report has got: awaiting the device upsert,
awaiting the report row, settled, and behind its {lit}`then`, {lit}`catch` and
{lit}`finally` parts. -/
inductive SavePhase where
  | upserting
  | saving
  | settled (outcome : SaveOutcome)
  | emitted (outcome : SaveOutcome) (failed : Bool)
  | caught (outcome : SaveOutcome)
  | finished (outcome : SaveOutcome)
  deriving DecidableEq, Repr

def SavePhase.outcome? : SavePhase -> Option SaveOutcome
  | upserting => none
  | saving => none
  | settled outcome => some outcome
  | emitted outcome _ => some outcome
  | caught outcome => some outcome
  | finished outcome => some outcome

/-- The chain {lit}`handleReportFrame` starts for one report frame. -/
structure SaveTask (Socket : Type) where
  socket : Socket
  parsed : ParsedTrackerFrame
  startedAt : Int
  phase : SavePhase

/-- A device upsert nobody waits for. -/
structure Mark where
  patch : DevicePatch
  inFlight : Bool := true

/-- A frame handed to {lit}`socket.write`; an acknowledgement names the report
chain that wrote it. -/
structure Write (Socket : Type) where
  socket : Socket
  text : String
  acknowledges : Option Nat := none

/-- The events of {lit}`TRACKER_EVENTS`. -/
inductive Emitted where
  | deviceConnected (imei : String)
  | deviceDisconnected (imei : String)
  | reportReceived (report : Nat)
  deriving DecidableEq, Repr

/-- The server, the database behind it and everything it ever wrote or
emitted.  Report rows name the chain that saved them. -/
structure TrackerTcpServer (Socket : Type) where
  tcp : TcpServer Socket := {}
  splitters : AList (fun _ : Socket => TrackerFrameSplitter) := ∅
  marks : List Mark := []
  saves : List (SaveTask Socket) := []
  devices : DeviceTable := ∅
  reports : List (Nat × TrackerReport) := []
  writes : List (Write Socket) := []
  emitted : List Emitted := []

def sackText (header : TrackerFrameHeader) : String :=
  "+SACK:" ++ header.serialNumberHex ++ "#"

def shbdText (header : TrackerFrameHeader) : String :=
  "+SHBD:" ++ header.serialNumberHex ++ "#"

namespace TrackerTcpServer

variable {Socket : Type} [DecidableEq Socket]

/-!
## The handlers of a socket
-/

def registerDevice (s : TrackerTcpServer Socket) (socket : Socket)
    (imei : String) (now : Int) : TrackerTcpServer Socket :=
  let registered := { s with tcp := s.tcp.registerDevice socket imei now }
  if s.tcp.deviceId socket = some imei then registered
  else
    { registered with
      marks := s.marks ++ [{ patch := markDeviceConnected imei now }]
      emitted := s.emitted ++ [Emitted.deviceConnected imei] }

/-- {lit}`saveReport` returns {lit}`null` at once if there is no report. -/
def handleReportFrame (s : TrackerTcpServer Socket) (socket : Socket)
    (parsed : ParsedTrackerFrame) (now : Int) : TrackerTcpServer Socket :=
  let phase := if parsed.report.isSome then SavePhase.upserting
    else SavePhase.settled SaveOutcome.null
  let task : SaveTask Socket :=
    { socket := socket, parsed := parsed, startedAt := now, phase := phase }
  { s with saves := s.saves ++ [task] }

def handleHeartbeatFrame (s : TrackerTcpServer Socket) (socket : Socket)
    (header : TrackerFrameHeader) (now : Int) : TrackerTcpServer Socket :=
  { s with
    tcp := s.tcp.touch header.imei now
    writes := s.writes ++ [{ socket := socket, text := shbdText header }] }

/-- A frame that cannot be parsed is discarded. -/
def handleFrame (s : TrackerTcpServer Socket) (socket : Socket)
    (frame : Bytes) (now : Int) : TrackerTcpServer Socket :=
  match parseFrame frame with
  | Except.error _ => s
  | Except.ok parsed =>
      let s := s.registerDevice socket parsed.header.imei now
      match parsed.header.kind with
      | TrackerFrameKind.rpt => s.handleReportFrame socket parsed now
      | TrackerFrameKind.rptHistorical => s.handleReportFrame socket parsed now
      | TrackerFrameKind.hbd => s.handleHeartbeatFrame socket parsed.header now
      | _ => s

def handleFrames (s : TrackerTcpServer Socket) (socket : Socket)
    (frames : List Bytes) (now : Int) : TrackerTcpServer Socket :=
  frames.foldl (fun s frame => s.handleFrame socket frame now) s

def handleConnection (s : TrackerTcpServer Socket) (maxBufferBytes : Nat)
    (socket : Socket) (remoteAddress : Option String)
    (remotePort : Option Nat) : TrackerTcpServer Socket :=
  let splitter : TrackerFrameSplitter := { maxBufferBytes := maxBufferBytes }
  { s with
    tcp := s.tcp.handleConnection socket remoteAddress remotePort
    splitters := s.splitters.insert socket splitter }

/-- The {lit}`data` handler: split the chunk and handle every frame. -/
def handleData (s : TrackerTcpServer Socket) (socket : Socket)
    (chunk : Bytes) (now : Int) : TrackerTcpServer Socket :=
  match s.splitters.lookup socket with
  | none => s
  | some splitter =>
      let pushed := splitter.push chunk
      let s := { s with splitters := s.splitters.insert socket pushed.2 }
      s.handleFrames socket pushed.1.frames now

def handleClose (s : TrackerTcpServer Socket) (socket : Socket) :
    TrackerTcpServer Socket :=
  let closed := { s with tcp := s.tcp.handleClose socket }
  match s.tcp.deviceId socket with
  | none => closed
  | some imei =>
      if imei = "" then closed
      else
        { closed with
          marks := s.marks ++ [{ patch := markDeviceDisconnected imei }]
          emitted := s.emitted ++ [Emitted.deviceDisconnected imei] }

/-!
## The parts of the promise chains
-/

def phaseOf (s : TrackerTcpServer Socket) (i : Nat) : Option SavePhase :=
  (s.saves[i]?).map SaveTask.phase

def setPhase (s : TrackerTcpServer Socket) (i : Nat) (phase : SavePhase) :
    TrackerTcpServer Socket :=
  { s with saves := s.saves.modify i (fun task =>
      { task with phase := phase }) }

omit [DecidableEq Socket] in
theorem getElem?_setPhase_self {s : TrackerTcpServer Socket} {i : Nat}
    {task : SaveTask Socket} {phase : SavePhase}
    (htask : s.saves[i]? = some task) :
    (s.setPhase i phase).saves[i]? = some { task with phase := phase } := by
  unfold setPhase
  rw [List.getElem?_modify_eq, htask]
  rfl

omit [DecidableEq Socket] in
theorem getElem?_setPhase_of_ne {s : TrackerTcpServer Socket} {i k : Nat}
    {phase : SavePhase} (h : k ≠ i) :
    (s.setPhase i phase).saves[k]? = s.saves[k]? := by
  unfold setPhase
  exact List.getElem?_modify_ne _ _ (fun hc => h hc.symm)

/-- A connection mark reaches the database, or is rejected and logged. -/
def settleMark (s : TrackerTcpServer Socket) (j : Nat) (accepted : Bool) :
    TrackerTcpServer Socket :=
  match s.marks[j]? with
  | none => s
  | some mark =>
      { s with
        marks := s.marks.modify j (fun mark => { mark with inFlight := false })
        devices := if accepted then upsertDevice s.devices mark.patch
          else s.devices }

/-- The upsert of {lit}`saveReport` is applied or rejected. -/
def settleUpsert (s : TrackerTcpServer Socket) (i : Nat) (accepted : Bool) :
    TrackerTcpServer Socket :=
  match s.saves[i]? with
  | none => s
  | some task =>
      match task.parsed.report with
      | none => s
      | some report =>
          if accepted then
            let patch := reportPatch task.parsed.header report task.startedAt
            { s.setPhase i SavePhase.saving with
              devices := upsertDevice s.devices patch }
          else s.setPhase i (SavePhase.settled SaveOutcome.rejected)

/-- The row of {lit}`saveReport` is saved or rejected. -/
def settleSave (s : TrackerTcpServer Socket) (i : Nat) (accepted : Bool) :
    TrackerTcpServer Socket :=
  match s.saves[i]? with
  | none => s
  | some task =>
      match task.parsed.report with
      | none => s
      | some report =>
          if accepted then
            { s.setPhase i (SavePhase.settled SaveOutcome.row) with
              reports := s.reports ++ [(i, reportRow task.parsed report)] }
          else s.setPhase i (SavePhase.settled SaveOutcome.rejected)

/-- The {lit}`then` part: a saved row is announced to the listeners, one of
which may throw; a rejection passes it by. -/
def runThen (s : TrackerTcpServer Socket) (i : Nat) (outcome : SaveOutcome)
    (listenerThrows : Bool) : TrackerTcpServer Socket :=
  match outcome with
  | SaveOutcome.row =>
      { s.setPhase i (SavePhase.emitted outcome listenerThrows) with
        emitted := s.emitted ++ [Emitted.reportReceived i] }
  | SaveOutcome.null => s.setPhase i (SavePhase.emitted outcome false)
  | SaveOutcome.rejected => s.setPhase i (SavePhase.emitted outcome true)

/-- The {lit}`finally` part: the acknowledgement is written, whatever became of
the report. -/
def runFinally (s : TrackerTcpServer Socket) (i : Nat)
    (outcome : SaveOutcome) : TrackerTcpServer Socket :=
  match s.saves[i]? with
  | none => s
  | some task =>
      let write : Write Socket :=
        { socket := task.socket
          text := sackText task.parsed.header
          acknowledges := some i }
      { s.setPhase i (SavePhase.finished outcome) with
        writes := s.writes ++ [write] }

end TrackerTcpServer

/-!
## The event system
-/

inductive TrackerEvent (Socket : Type) where
  | connect (socket : Socket) (remoteAddress : Option String)
      (remotePort : Option Nat)
  | data (socket : Socket) (chunk : Bytes) (now : Int)
  | close (socket : Socket)
  | markSettled (mark : Nat) (accepted : Bool)
  | upsertSettled (report : Nat) (accepted : Bool)
  | saveSettled (report : Nat) (accepted : Bool)
  | thenRuns (report : Nat) (outcome : SaveOutcome) (listenerThrows : Bool)
  | catchRuns (report : Nat) (outcome : SaveOutcome) (failed : Bool)
  | finallyRuns (report : Nat) (outcome : SaveOutcome)
  deriving DecidableEq

namespace TrackerEvent

variable {Socket : Type} [DecidableEq Socket]

/-- Sockets connect once and send and close while they are open; each part of a
chain runs when the parts before it have run. -/
def Enabled (s : TrackerTcpServer Socket) : TrackerEvent Socket -> Prop
  | connect socket _ _ => socket ∉ s.tcp.connections
  | data socket _ _ => s.tcp.isOpen socket = true
  | close socket => s.tcp.isOpen socket = true
  | markSettled j _ => (s.marks[j]?).any Mark.inFlight = true
  | upsertSettled i _ => s.phaseOf i = some SavePhase.upserting
  | saveSettled i _ => s.phaseOf i = some SavePhase.saving
  | thenRuns i outcome _ => s.phaseOf i = some (SavePhase.settled outcome)
  | catchRuns i outcome failed =>
      s.phaseOf i = some (SavePhase.emitted outcome failed)
  | finallyRuns i outcome => s.phaseOf i = some (SavePhase.caught outcome)

instance (s : TrackerTcpServer Socket) :
    forall e : TrackerEvent Socket, Decidable (e.Enabled s)
  | connect socket _ _ =>
      inferInstanceAs (Decidable (socket ∉ s.tcp.connections))
  | data socket _ _ => inferInstanceAs (Decidable (s.tcp.isOpen socket = true))
  | close socket => inferInstanceAs (Decidable (s.tcp.isOpen socket = true))
  | markSettled j _ =>
      inferInstanceAs (Decidable ((s.marks[j]?).any Mark.inFlight = true))
  | upsertSettled i _ =>
      inferInstanceAs (Decidable (s.phaseOf i = some SavePhase.upserting))
  | saveSettled i _ =>
      inferInstanceAs (Decidable (s.phaseOf i = some SavePhase.saving))
  | thenRuns i outcome _ =>
      inferInstanceAs (Decidable (s.phaseOf i = some (SavePhase.settled outcome)))
  | catchRuns i outcome failed =>
      inferInstanceAs
        (Decidable (s.phaseOf i = some (SavePhase.emitted outcome failed)))
  | finallyRuns i outcome =>
      inferInstanceAs (Decidable (s.phaseOf i = some (SavePhase.caught outcome)))

end TrackerEvent

/-- The server with its {lit}`maxBufferBytes` setting. -/
def trackerTcpServer (Socket : Type) [DecidableEq Socket]
    (maxBufferBytes : Nat) :
    EventSystem (TrackerTcpServer Socket) (TrackerEvent Socket) where
  initial := {}
  Enabled s e := e.Enabled s
  step s
    | TrackerEvent.connect socket remoteAddress remotePort =>
        s.handleConnection maxBufferBytes socket remoteAddress remotePort
    | TrackerEvent.data socket chunk now => s.handleData socket chunk now
    | TrackerEvent.close socket => s.handleClose socket
    | TrackerEvent.markSettled j accepted => s.settleMark j accepted
    | TrackerEvent.upsertSettled i accepted => s.settleUpsert i accepted
    | TrackerEvent.saveSettled i accepted => s.settleSave i accepted
    | TrackerEvent.thenRuns i outcome listenerThrows =>
        s.runThen i outcome listenerThrows
    | TrackerEvent.catchRuns i outcome _ =>
        s.setPhase i (SavePhase.caught outcome)
    | TrackerEvent.finallyRuns i outcome => s.runFinally i outcome

instance {Socket : Type} [DecidableEq Socket] (maxBufferBytes : Nat)
    (s : TrackerTcpServer Socket) (e : TrackerEvent Socket) :
    Decidable ((trackerTcpServer Socket maxBufferBytes).Enabled s e) :=
  inferInstanceAs (Decidable (e.Enabled s))

/-!
## The sockets and devices of the server

As far as sockets, devices and the registry are concerned, a run of the server
is a run of the connection system: a chunk stands for the decoded messages of
its frames, and the parts of the promise chains for nothing.
-/

namespace TrackerTcpServer

variable {Socket : Type} [DecidableEq Socket]

/-- Events of the connection system that lead from one state to another and
leave a socket open. -/
def Traces (socket : Socket) (t t' : TcpServer Socket) : Prop :=
  exists events, (trackerProtocol.server Socket).LegalFrom t events ∧
    (trackerProtocol.server Socket).stateFrom t events = t' ∧
    t'.isOpen socket = t.isOpen socket

theorem Traces.refl (socket : Socket) (t : TcpServer Socket) :
    Traces socket t t :=
  ⟨[], trivial, rfl, rfl⟩

theorem Traces.trans {socket : Socket} {t t' t'' : TcpServer Socket}
    (h : Traces socket t t') (h' : Traces socket t' t'') :
    Traces socket t t'' := by
  rcases h with ⟨events, hlegal, hstate, hopen⟩
  rcases h' with ⟨more, hmore, hstate', hopen'⟩
  rw [← hstate] at hmore hstate'
  refine ⟨events ++ more, EventSystem.legalFrom_append.mpr ⟨hlegal, hmore⟩,
    ?_, hopen'.trans hopen⟩
  rw [EventSystem.stateFrom_append, hstate']

theorem registerDevice_tcp (s : TrackerTcpServer Socket) (socket : Socket)
    (imei : String) (now : Int) :
    (s.registerDevice socket imei now).tcp =
      s.tcp.registerDevice socket imei now := by
  unfold registerDevice
  by_cases h : s.tcp.deviceId socket = some imei
  · simp only [if_pos h]
  · simp only [if_neg h]

theorem handleFrame_tcp (s : TrackerTcpServer Socket) (socket : Socket)
    {frame : Bytes} {parsed : ParsedTrackerFrame} (now : Int)
    (h : parseFrame frame = Except.ok parsed) :
    (s.handleFrame socket frame now).tcp =
      (trackerProtocol.server Socket).step s.tcp
        (ServerEvent.decoded socket parsed.header now) := by
  simp only [handleFrame, h, Protocol.server, trackerProtocol,
    ← registerDevice_tcp]
  cases hkind : parsed.header.kind <;>
    simp [handleReportFrame, handleHeartbeatFrame]

theorem traces_handleFrame (s : TrackerTcpServer Socket) (socket : Socket)
    (frame : Bytes) (now : Int) (hopen : s.tcp.isOpen socket = true) :
    Traces socket s.tcp (s.handleFrame socket frame now).tcp := by
  cases hparse : parseFrame frame with
  | error message =>
      unfold handleFrame
      rw [hparse]
      exact Traces.refl _ _
  | ok parsed =>
      rw [s.handleFrame_tcp socket now hparse]
      exact ⟨[ServerEvent.decoded socket parsed.header now],
        ⟨hopen, trivial⟩, rfl, trackerProtocol.isOpen_step_decoded⟩

theorem traces_handleFrames (s : TrackerTcpServer Socket) (socket : Socket)
    (frames : List Bytes) (now : Int) (hopen : s.tcp.isOpen socket = true) :
    Traces socket s.tcp (s.handleFrames socket frames now).tcp := by
  induction frames generalizing s with
  | nil => exact Traces.refl _ _
  | cons frame frames ih =>
      have hframe := s.traces_handleFrame socket frame now hopen
      have hstill :
          (s.handleFrame socket frame now).tcp.isOpen socket = true := by
        rcases hframe with ⟨_, _, _, hkept⟩
        exact hkept.trans hopen
      exact hframe.trans (ih _ hstill)

theorem traces_handleData (s : TrackerTcpServer Socket) (socket : Socket)
    (chunk : Bytes) (now : Int) (hopen : s.tcp.isOpen socket = true) :
    Traces socket s.tcp (s.handleData socket chunk now).tcp := by
  unfold handleData
  cases s.splitters.lookup socket with
  | none => exact Traces.refl _ _
  | some splitter =>
      have hsplit : forall splitters, Traces socket s.tcp
          ({ s with splitters := splitters }.handleFrames socket
            (splitter.push chunk).1.frames now).tcp :=
        fun splitters => traces_handleFrames
          { s with splitters := splitters } socket _ now hopen
      exact hsplit _

theorem handleClose_tcp (s : TrackerTcpServer Socket) (socket : Socket) :
    (s.handleClose socket).tcp = s.tcp.handleClose socket := by
  unfold handleClose
  cases s.tcp.deviceId socket with
  | none => rfl
  | some imei => by_cases h : imei = "" <;> simp [h]

section Chains

variable (s : TrackerTcpServer Socket) (i : Nat)

omit [DecidableEq Socket]

@[simp] theorem settleMark_tcp (accepted : Bool) :
    (s.settleMark i accepted).tcp = s.tcp := by
  unfold settleMark
  cases s.marks[i]? <;> rfl

@[simp] theorem settleUpsert_tcp (accepted : Bool) :
    (s.settleUpsert i accepted).tcp = s.tcp := by
  unfold settleUpsert
  cases s.saves[i]? with
  | none => rfl
  | some task =>
      dsimp only
      cases task.parsed.report with
      | none => rfl
      | some report => cases accepted <;> rfl

@[simp] theorem settleSave_tcp (accepted : Bool) :
    (s.settleSave i accepted).tcp = s.tcp := by
  unfold settleSave
  cases s.saves[i]? with
  | none => rfl
  | some task =>
      dsimp only
      cases task.parsed.report with
      | none => rfl
      | some report => cases accepted <;> rfl

@[simp] theorem runThen_tcp (outcome : SaveOutcome) (listenerThrows : Bool) :
    (s.runThen i outcome listenerThrows).tcp = s.tcp := by
  unfold runThen
  cases outcome <;> rfl

@[simp] theorem runFinally_tcp (outcome : SaveOutcome) :
    (s.runFinally i outcome).tcp = s.tcp := by
  unfold runFinally
  cases s.saves[i]? <;> rfl

end Chains

end TrackerTcpServer

theorem exists_connection_run {Socket : Type} [DecidableEq Socket]
    {maxBufferBytes : Nat} {history : List (TrackerEvent Socket)}
    (h : (trackerTcpServer Socket maxBufferBytes).Legal history) :
    exists trace, (trackerProtocol.server Socket).Legal trace ∧
      trackerProtocol.after trace =
        ((trackerTcpServer Socket maxBufferBytes).stateAfter history).tcp := by
  refine EventSystem.exists_projected_run TrackerTcpServer.tcp rfl ?_ h
  intro s e henabled
  cases e with
  | connect socket remoteAddress remotePort =>
      exact ⟨[ServerEvent.connect socket remoteAddress remotePort],
        ⟨henabled, trivial⟩, rfl⟩
  | data socket chunk now =>
      rcases s.traces_handleData socket chunk now henabled with
        ⟨events, hlegal, hstate, _⟩
      exact ⟨events, hlegal, hstate⟩
  | close socket =>
      exact ⟨[ServerEvent.close socket], ⟨henabled, trivial⟩,
        (s.handleClose_tcp socket).symm⟩
  | markSettled j accepted =>
      exact ⟨[], trivial, (s.settleMark_tcp j accepted).symm⟩
  | upsertSettled i accepted =>
      exact ⟨[], trivial, (s.settleUpsert_tcp i accepted).symm⟩
  | saveSettled i accepted =>
      exact ⟨[], trivial, (s.settleSave_tcp i accepted).symm⟩
  | thenRuns i outcome listenerThrows =>
      exact ⟨[], trivial, (s.runThen_tcp i outcome listenerThrows).symm⟩
  | catchRuns i outcome failed => exact ⟨[], trivial, rfl⟩
  | finallyRuns i outcome =>
      exact ⟨[], trivial, (s.runFinally_tcp i outcome).symm⟩

end Tracker
end AvtTracker
