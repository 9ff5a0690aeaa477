import AvtTracker.Foundation.ConcurrentSaves
import AvtTracker.Tracker.Envelope
import AvtTracker.Tracker.TrackerTcpServer

/-!
# Frame by frame

Behind its splitters the server handles one whole frame after the other.  This
module states once what handling a frame adds to the server, and defines the
server as it works frame by frame: every run of the server on chunks is a run on
frames.
-/

namespace AvtTracker
namespace Tracker

open Foundation Tcp

/-- The frames that are saved and acknowledged. -/
def ParsedTrackerFrame.IsReport (parsed : ParsedTrackerFrame) : Prop :=
  parsed.header.kind = TrackerFrameKind.rpt ∨
    parsed.header.kind = TrackerFrameKind.rptHistorical

def ParsedTrackerFrame.IsHeartbeat (parsed : ParsedTrackerFrame) : Prop :=
  parsed.header.kind = TrackerFrameKind.hbd

instance (parsed : ParsedTrackerFrame) : Decidable parsed.IsReport :=
  inferInstanceAs (Decidable (_ ∨ _))

instance (parsed : ParsedTrackerFrame) : Decidable parsed.IsHeartbeat :=
  inferInstanceAs (Decidable (_ = _))

section Additions

variable {Socket : Type}

/-- The chain a parsed frame starts, if it is a report. -/
def startedTasks (socket : Socket) (parsed : ParsedTrackerFrame) (now : Int) :
    List (SaveTask Socket) :=
  if parsed.IsReport then
    [{ socket := socket, parsed := parsed, startedAt := now
       phase := if parsed.report.isSome then SavePhase.upserting
        else SavePhase.settled SaveOutcome.null }]
  else []

def heartbeatReplies (socket : Socket) (parsed : ParsedTrackerFrame) :
    List (Write Socket) :=
  if parsed.IsHeartbeat then
    [{ socket := socket, text := shbdText parsed.header }]
  else []

end Additions

namespace TrackerTcpServer

variable {Socket : Type} [DecidableEq Socket]

section Frames

variable (s : TrackerTcpServer Socket) (socket : Socket)

/-- The mark fired for a socket that was not identified as the device yet. -/
def connectMarks (imei : String) (now : Int) : List Mark :=
  if s.tcp.deviceId socket = some imei then []
  else [{ patch := markDeviceConnected imei now }]

def connectEmissions (imei : String) : List Emitted :=
  if s.tcp.deviceId socket = some imei then []
  else [Emitted.deviceConnected imei]

theorem registerDevice_eq (imei : String) (now : Int) :
    s.registerDevice socket imei now =
      { s with
        tcp := s.tcp.registerDevice socket imei now
        marks := s.marks ++ s.connectMarks socket imei now
        emitted := s.emitted ++ s.connectEmissions socket imei } := by
  unfold registerDevice connectMarks connectEmissions
  by_cases h : s.tcp.deviceId socket = some imei
  · simp only [if_pos h, List.append_nil]
  · simp only [if_neg h]

theorem handleFrame_error {frame : Bytes} {message : String} (now : Int)
    (h : parseFrame frame = Except.error message) :
    s.handleFrame socket frame now = s := by
  unfold handleFrame
  rw [h]

theorem handleFrame_ok {frame : Bytes} {parsed : ParsedTrackerFrame}
    (now : Int) (h : parseFrame frame = Except.ok parsed) :
    s.handleFrame socket frame now =
      { s with
        tcp := (trackerProtocol.server Socket).step s.tcp
          (ServerEvent.decoded socket parsed.header now)
        marks := s.marks ++ s.connectMarks socket parsed.header.imei now
        saves := s.saves ++ startedTasks socket parsed now
        writes := s.writes ++ heartbeatReplies socket parsed
        emitted := s.emitted ++
          s.connectEmissions socket parsed.header.imei } := by
  have htcp := s.handleFrame_tcp socket now h
  rw [← htcp]
  unfold handleFrame
  simp only [h, registerDevice_eq]
  split
  next hkind => simp [startedTasks, heartbeatReplies, handleReportFrame,
    ParsedTrackerFrame.IsReport, ParsedTrackerFrame.IsHeartbeat, hkind]
  next hkind => simp [startedTasks, heartbeatReplies, handleReportFrame,
    ParsedTrackerFrame.IsReport, ParsedTrackerFrame.IsHeartbeat, hkind]
  next hkind => simp [startedTasks, heartbeatReplies, handleHeartbeatFrame,
    ParsedTrackerFrame.IsReport, ParsedTrackerFrame.IsHeartbeat, hkind]
  next hrpt hhistorical hhbd =>
    have hreport : ¬ parsed.IsReport :=
      fun hkind => hkind.elim hrpt hhistorical
    have hheartbeat : ¬ parsed.IsHeartbeat := hhbd
    simp [startedTasks, heartbeatReplies, hreport, hheartbeat]

/-- The mark fired for the device a closing socket was identified as. -/
def closeMarks : List Mark :=
  match s.tcp.deviceId socket with
  | none => []
  | some imei =>
      if imei = "" then [] else [{ patch := markDeviceDisconnected imei }]

def closeEmissions : List Emitted :=
  match s.tcp.deviceId socket with
  | none => []
  | some imei => if imei = "" then [] else [Emitted.deviceDisconnected imei]

theorem handleClose_eq :
    s.handleClose socket =
      { s with
        tcp := s.tcp.handleClose socket
        marks := s.marks ++ s.closeMarks socket
        emitted := s.emitted ++ s.closeEmissions socket } := by
  unfold handleClose closeMarks closeEmissions
  cases s.tcp.deviceId socket with
  | none => simp only [List.append_nil]
  | some imei =>
      by_cases hempty : imei = ""
      · simp only [if_pos hempty, List.append_nil]
      · simp only [if_neg hempty]

def unsplit : TrackerTcpServer Socket :=
  { s with splitters := ∅ }

theorem unsplit_handleFrame (frame : Bytes) (now : Int) :
    (s.handleFrame socket frame now).unsplit =
      s.unsplit.handleFrame socket frame now := by
  cases hparse : parseFrame frame with
  | error message =>
      rw [handleFrame_error _ _ _ hparse, handleFrame_error _ _ _ hparse]
  | ok parsed =>
      rw [handleFrame_ok _ _ _ hparse, handleFrame_ok _ _ _ hparse]
      rfl

theorem unsplit_handleClose :
    (s.handleClose socket).unsplit = s.unsplit.handleClose socket := by
  rw [handleClose_eq, handleClose_eq]
  rfl

theorem isOpen_handleFrame (frame : Bytes) (now : Int) (other : Socket) :
    (s.handleFrame socket frame now).tcp.isOpen other =
      s.tcp.isOpen other := by
  cases hparse : parseFrame frame with
  | error message => rw [s.handleFrame_error socket now hparse]
  | ok parsed =>
      rw [s.handleFrame_tcp socket now hparse]
      exact trackerProtocol.isOpen_step_decoded

end Frames

section Settling

omit [DecidableEq Socket]

variable (s : TrackerTcpServer Socket)

/-!
What settles later does not look at them either.
-/

theorem unsplit_settleMark (j : Nat) (accepted : Bool) :
    (s.settleMark j accepted).unsplit = s.unsplit.settleMark j accepted := by
  simp only [settleMark, unsplit]
  cases s.marks[j]? with
  | none => rfl
  | some mark => rfl

theorem unsplit_settleUpsert (i : Nat) (accepted : Bool) :
    (s.settleUpsert i accepted).unsplit =
      s.unsplit.settleUpsert i accepted := by
  simp only [settleUpsert, unsplit]
  cases s.saves[i]? with
  | none => rfl
  | some task =>
      dsimp only
      cases task.parsed.report with
      | none => rfl
      | some report => cases accepted <;> rfl

theorem unsplit_settleSave (i : Nat) (accepted : Bool) :
    (s.settleSave i accepted).unsplit = s.unsplit.settleSave i accepted := by
  simp only [settleSave, unsplit]
  cases s.saves[i]? with
  | none => rfl
  | some task =>
      dsimp only
      cases task.parsed.report with
      | none => rfl
      | some report => cases accepted <;> rfl

theorem unsplit_runThen (i : Nat) (outcome : SaveOutcome)
    (listenerThrows : Bool) :
    (s.runThen i outcome listenerThrows).unsplit =
      s.unsplit.runThen i outcome listenerThrows := by
  cases outcome <;> rfl

theorem unsplit_runFinally (i : Nat) (outcome : SaveOutcome) :
    (s.runFinally i outcome).unsplit = s.unsplit.runFinally i outcome := by
  simp only [runFinally, unsplit]
  cases s.saves[i]? with
  | none => rfl
  | some task => rfl

end Settling

end TrackerTcpServer

/-!
## The server behind its splitters
-/

/-- The server as an event system in which {lit}`data` hands over one whole
frame. -/
def frameHandling (Socket : Type) [DecidableEq Socket] :
    EventSystem (TrackerTcpServer Socket) (TrackerEvent Socket) where
  initial := {}
  Enabled s e := e.Enabled s
  step s
    | TrackerEvent.connect socket remoteAddress remotePort =>
        { s with
          tcp := s.tcp.handleConnection socket remoteAddress remotePort }
    | TrackerEvent.data socket frame now => s.handleFrame socket frame now
    | e => (trackerTcpServer Socket 0).step s e

instance {Socket : Type} [DecidableEq Socket] (s : TrackerTcpServer Socket)
    (e : TrackerEvent Socket) :
    Decidable ((frameHandling Socket).Enabled s e) :=
  inferInstanceAs (Decidable (e.Enabled s))

section Projection

variable {Socket : Type} [DecidableEq Socket]

theorem frameHandling_frames (socket : Socket) (frames : List Bytes)
    (now : Int) (s : TrackerTcpServer Socket)
    (hopen : s.tcp.isOpen socket = true) :
    (frameHandling Socket).LegalFrom s.unsplit
        (frames.map (fun frame => TrackerEvent.data socket frame now)) ∧
      (frameHandling Socket).stateFrom s.unsplit
          (frames.map (fun frame => TrackerEvent.data socket frame now)) =
        (s.handleFrames socket frames now).unsplit := by
  induction frames generalizing s with
  | nil => exact ⟨trivial, rfl⟩
  | cons frame frames ih =>
      have hstill := (s.isOpen_handleFrame socket frame now socket).trans hopen
      rcases ih (s.handleFrame socket frame now) hstill with ⟨hlegal, hstate⟩
      rw [s.unsplit_handleFrame] at hlegal hstate
      exact ⟨⟨hopen, hlegal⟩, hstate⟩

/-- The statement about a device that the event says was applied. -/
def TrackerEvent.applied? {Socket : Type} :
    TrackerEvent Socket -> Option Upserter
  | markSettled j accepted => if accepted then some (Upserter.patch j) else none
  | upsertSettled i accepted => if accepted then some (Upserter.save i) else none
  | _ => none

omit [DecidableEq Socket] in
theorem applied?_frames (socket : Socket) (frames : List Bytes) (now : Int) :
    (frames.map (fun frame => TrackerEvent.data socket frame now)).filterMap
      TrackerEvent.applied? = [] := by
  rw [List.filterMap_map]
  exact List.filterMap_eq_nil_iff.mpr fun _ _ => rfl

/-- Every run of the server on chunks is, but for the splitters, a run on frames
in which the database applies the same statements. -/
theorem exists_frame_run {maxBufferBytes : Nat}
    {history : List (TrackerEvent Socket)}
    (h : (trackerTcpServer Socket maxBufferBytes).Legal history) :
    exists trace, (frameHandling Socket).Legal trace ∧
      (frameHandling Socket).stateAfter trace =
        ((trackerTcpServer Socket maxBufferBytes).stateAfter
          history).unsplit ∧
      trace.filterMap TrackerEvent.applied? =
        history.filterMap TrackerEvent.applied? := by
  refine EventSystem.exists_labelled_run (N := frameHandling Socket)
    TrackerTcpServer.unsplit TrackerEvent.applied? TrackerEvent.applied? rfl ?_ h
  intro s e henabled
  cases e with
  | connect socket remoteAddress remotePort =>
      exact ⟨[TrackerEvent.connect socket remoteAddress remotePort],
        ⟨henabled, trivial⟩, rfl, rfl⟩
  | data socket chunk now =>
      show exists events, _ ∧ _ = (s.handleData socket chunk now).unsplit ∧ _
      unfold TrackerTcpServer.handleData
      cases s.splitters.lookup socket with
      | none => exact ⟨[], trivial, rfl, rfl⟩
      | some splitter =>
          rcases frameHandling_frames socket (splitter.push chunk).1.frames
            now { s with splitters := s.splitters.insert socket _ } henabled with
            ⟨hlegal, hstate⟩
          exact ⟨_, hlegal, hstate, applied?_frames socket _ now⟩
  | close socket =>
      exact ⟨[TrackerEvent.close socket], ⟨henabled, trivial⟩,
        (s.unsplit_handleClose socket).symm, rfl⟩
  | markSettled j accepted =>
      exact ⟨[TrackerEvent.markSettled j accepted], ⟨henabled, trivial⟩,
        (s.unsplit_settleMark j accepted).symm, rfl⟩
  | upsertSettled i accepted =>
      exact ⟨[TrackerEvent.upsertSettled i accepted], ⟨henabled, trivial⟩,
        (s.unsplit_settleUpsert i accepted).symm, rfl⟩
  | saveSettled i accepted =>
      exact ⟨[TrackerEvent.saveSettled i accepted], ⟨henabled, trivial⟩,
        (s.unsplit_settleSave i accepted).symm, rfl⟩
  | thenRuns i outcome listenerThrows =>
      exact ⟨[TrackerEvent.thenRuns i outcome listenerThrows],
        ⟨henabled, trivial⟩,
        (s.unsplit_runThen i outcome listenerThrows).symm, rfl⟩
  | catchRuns i outcome failed =>
      exact ⟨[TrackerEvent.catchRuns i outcome failed],
        ⟨henabled, trivial⟩, rfl, rfl⟩
  | finallyRuns i outcome =>
      exact ⟨[TrackerEvent.finallyRuns i outcome], ⟨henabled, trivial⟩,
        (s.unsplit_runFinally i outcome).symm, rfl⟩

end Projection

end Tracker
end AvtTracker
