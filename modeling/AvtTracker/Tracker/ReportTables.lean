import AvtTracker.Persistence.SerialWrites
import AvtTracker.Tracker.FrameHandling

/-!
# The tables behind the tracker's server

The server fires connection marks and starts a promise chain for every report.
To the database they are the patches and saves of a store of devices and
reports: a run of the server is a run of that store.
-/

namespace AvtTracker
namespace Tracker

open Foundation Tcp Persistence

/-- What a phase means to the database. -/
def SaveOutcome.jobPhase : SaveOutcome -> SaveJobPhase
  | row => SaveJobPhase.saved
  | null => SaveJobPhase.nothing
  | rejected => SaveJobPhase.rejected

def SavePhase.jobPhase : SavePhase -> SaveJobPhase
  | upserting => SaveJobPhase.upserting
  | saving => SaveJobPhase.saving
  | settled outcome => outcome.jobPhase
  | emitted outcome _ => outcome.jobPhase
  | caught outcome => outcome.jobPhase
  | finished outcome => outcome.jobPhase

def Mark.job (mark : Mark) : PatchJob DevicePatch where
  patch := mark.patch
  inFlight := mark.inFlight

def SaveTask.job {Socket : Type} (task : SaveTask Socket) :
    SaveJob DevicePatch TrackerReport where
  content := saveReport task.parsed task.startedAt
  phase := task.phase.jobPhase

/-- The database behind the server. -/
abbrev trackerStore :
    SaveSpec String TrackerDevice DevicePatch TrackerReport :=
  trackerSaves.spec

namespace TrackerTcpServer

variable {Socket : Type}

/-- The server as the database sees it. -/
def store (s : TrackerTcpServer Socket) :
    SaveStore String TrackerDevice DevicePatch TrackerReport where
  patches := s.marks.map Mark.job
  saves := s.saves.map SaveTask.job
  owners := s.devices
  rows := s.reports

theorem phaseOf_store (s : TrackerTcpServer Socket) (i : Nat) :
    s.store.phaseOf i = (s.phaseOf i).map SavePhase.jobPhase := by
  show ((s.saves.map SaveTask.job)[i]?).map SaveJob.phase = _
  rw [List.getElem?_map, Option.map_map]
  unfold phaseOf
  rw [Option.map_map]
  rfl

theorem setPhase_store (s : TrackerTcpServer Socket) (i : Nat)
    (phase : SavePhase) :
    (s.setPhase i phase).store = s.store.setPhase i phase.jobPhase := by
  have hsaves : (s.setPhase i phase).saves.map SaveTask.job =
      (s.saves.map SaveTask.job).modify i (fun job =>
        { job with phase := phase.jobPhase }) := by
    refine map_modify ?_ i s.saves
    intro task
    rfl
  unfold store SaveStore.setPhase
  rw [hsaves]
  rfl

/-!
## Handlers of sockets
-/

section Simulation

variable [DecidableEq Socket]

theorem connectMarks_fresh (s : TrackerTcpServer Socket) (socket : Socket)
    (imei : String) (now : Int) (mark : Mark)
    (hmark : mark ∈ s.connectMarks socket imei now) :
    trackerStore.FreshPatch mark.job := by
  unfold connectMarks at hmark
  by_cases h : s.tcp.deviceId socket = some imei
  · rw [if_pos h] at hmark
    cases hmark
  · rw [if_neg h] at hmark
    rw [List.mem_singleton.mp hmark]
    exact ⟨rfl, imei, now, Or.inl rfl⟩

theorem closeMarks_fresh (s : TrackerTcpServer Socket) (socket : Socket)
    (mark : Mark) (hmark : mark ∈ s.closeMarks socket) :
    trackerStore.FreshPatch mark.job := by
  unfold closeMarks at hmark
  cases hdevice : s.tcp.deviceId socket with
  | none =>
      rw [hdevice] at hmark
      cases hmark
  | some imei =>
      rw [hdevice] at hmark
      by_cases hempty : imei = ""
      · simp only [if_pos hempty] at hmark
        cases hmark
      · simp only [if_neg hempty] at hmark
        rw [List.mem_singleton.mp hmark]
        exact ⟨rfl, imei, 0, Or.inr rfl⟩

omit [DecidableEq Socket] in
theorem startedTasks_fresh {socket : Socket} {frame : Bytes}
    {parsed : ParsedTrackerFrame} (hparse : parseFrame frame = Except.ok parsed)
    {now : Int} (task : SaveTask Socket)
    (h : task ∈ startedTasks socket parsed now) :
    trackerStore.FreshSave task.job := by
  unfold startedTasks at h
  by_cases hreport : parsed.IsReport
  · rw [if_pos hreport] at h
    rw [List.mem_singleton.mp h]
    constructor
    · cases hparsed : parsed.report with
      | none => simp [SaveTask.job, SaveJob.start, saveReport, hparsed,
          SavePhase.jobPhase, SaveOutcome.jobPhase]
      | some report => simp [SaveTask.job, SaveJob.start, saveReport, hparsed,
          SavePhase.jobPhase]
    · intro patch row hsave
      refine ⟨frame, now, ?_⟩
      show saveTrackerFrame frame now = some (patch, row)
      unfold saveTrackerFrame
      rw [hparse]
      exact hsave
  · rw [if_neg hreport] at h
    cases h

omit [DecidableEq Socket] in
theorem exists_started {s s' : TrackerTcpServer Socket} {marks : List Mark}
    {tasks : List (SaveTask Socket)}
    (hfired : forall mark, mark ∈ marks -> trackerStore.FreshPatch mark.job)
    (hstarted : forall task, task ∈ tasks -> trackerStore.FreshSave task.job)
    (hmarks : s'.marks = s.marks ++ marks)
    (hsaves : s'.saves = s.saves ++ tasks) (hdevices : s'.devices = s.devices)
    (hreports : s'.reports = s.reports) :
    exists events, trackerStore.store.LegalFrom s.store events ∧
      trackerStore.store.stateFrom s.store events = s'.store ∧
      events.filterMap SaveEvent.applied? = [] := by
  rcases trackerStore.exists_started s.store
    (List.forall_mem_map.mpr hfired) (List.forall_mem_map.mpr hstarted) with
    ⟨events, hlegal, hstate, hnone⟩
  refine ⟨events, hlegal, hstate.trans ?_, hnone⟩
  unfold store
  rw [hmarks, hsaves, hdevices, hreports, List.map_append, List.map_append]

/-!
## Promises
-/

omit [DecidableEq Socket]

theorem settleMark_store (s : TrackerTcpServer Socket) (j : Nat)
    (accepted : Bool) :
    (s.settleMark j accepted).store =
      s.store.settlePatch trackerStore j accepted := by
  have hmarks : (s.marks.modify j (fun mark =>
      { mark with inFlight := false })).map Mark.job =
      (s.marks.map Mark.job).modify j (fun job =>
        { job with inFlight := false }) := by
    refine map_modify ?_ j s.marks
    intro mark
    rfl
  unfold settleMark SaveStore.settlePatch
  have hfound : s.store.patches[j]? = (s.marks[j]?).map Mark.job :=
    List.getElem?_map
  rw [hfound]
  cases s.marks[j]? with
  | none => rfl
  | some mark =>
      unfold store
      rw [hmarks]
      rfl

theorem content_store (s : TrackerTcpServer Socket) (i : Nat) :
    (s.store.saves[i]?).bind SaveJob.content =
      (s.saves[i]?).bind (fun task =>
        saveReport task.parsed task.startedAt) := by
  show ((s.saves.map SaveTask.job)[i]?).bind SaveJob.content = _
  rw [List.getElem?_map]
  cases s.saves[i]? <;> rfl

theorem settleUpsert_store (s : TrackerTcpServer Socket) (i : Nat)
    (accepted : Bool) :
    (s.settleUpsert i accepted).store =
      s.store.settleUpsert trackerStore i accepted := by
  unfold settleUpsert SaveStore.settleUpsert
  rw [content_store]
  cases s.saves[i]? with
  | none => rfl
  | some task =>
      dsimp only [Option.bind_some, saveReport]
      cases task.parsed.report with
      | none => rfl
      | some report =>
          have hstep := fun phase => s.setPhase_store i phase
          cases accepted with
          | true =>
              have hsaving := hstep SavePhase.saving
              simp only [store, SaveStore.setPhase, SaveStore.mk.injEq] at hsaving
              simp only [store, SaveStore.setPhase, Option.map_some,
                hsaving.right.left, if_true]
              rfl
          | false => exact hstep (SavePhase.settled SaveOutcome.rejected)

theorem settleSave_store (s : TrackerTcpServer Socket) (i : Nat)
    (accepted : Bool) :
    (s.settleSave i accepted).store = s.store.settleSave i accepted := by
  unfold settleSave SaveStore.settleSave
  rw [content_store]
  cases s.saves[i]? with
  | none => rfl
  | some task =>
      dsimp only [Option.bind_some, saveReport]
      cases task.parsed.report with
      | none => rfl
      | some report =>
          have hstep := fun phase => s.setPhase_store i phase
          cases accepted with
          | true =>
              have hsaved := hstep (SavePhase.settled SaveOutcome.row)
              simp only [store, SaveStore.setPhase, SaveStore.mk.injEq] at hsaved
              simp only [store, SaveStore.setPhase, Option.map_some,
                hsaved.right.left, if_true]
              rfl
          | false => exact hstep (SavePhase.settled SaveOutcome.rejected)

theorem setPhase_store_same {s : TrackerTcpServer Socket} {i : Nat}
    {old : SavePhase} (hold : s.phaseOf i = some old) (phase : SavePhase)
    (hsame : phase.jobPhase = old.jobPhase) :
    (s.setPhase i phase).store = s.store := by
  have hsaves : (s.setPhase i phase).saves.map SaveTask.job =
      s.saves.map SaveTask.job := by
    refine map_modify_same fun task htask => ?_
    have hphase : some task.phase = some old := by
      rw [← hold, phaseOf, htask]
      rfl
    unfold SaveTask.job
    rw [hsame, ← Option.some.inj hphase]
  unfold store
  rw [hsaves]
  rfl

end Simulation

end TrackerTcpServer

/-!
## Runs
-/

section Runs

variable {Socket : Type} [DecidableEq Socket]

theorem exists_store_step (s : TrackerTcpServer Socket)
    (e : TrackerEvent Socket) (henabled : e.Enabled s) :
    exists events, trackerStore.store.LegalFrom s.store events ∧
      trackerStore.store.stateFrom s.store events =
        ((frameHandling Socket).step s e).store ∧
      events.filterMap SaveEvent.applied? =
        [e].filterMap TrackerEvent.applied? := by
  cases e with
  | connect socket remoteAddress remotePort => exact ⟨[], trivial, rfl, rfl⟩
  | data socket frame now =>
      show exists events, _ ∧
        _ = (s.handleFrame socket frame now).store ∧ _
      cases hparse : parseFrame frame with
      | error message =>
          rw [s.handleFrame_error socket now hparse]
          exact ⟨[], trivial, rfl, rfl⟩
      | ok parsed =>
          rw [s.handleFrame_ok socket now hparse]
          exact TrackerTcpServer.exists_started
            (s.connectMarks_fresh socket _ now)
            (TrackerTcpServer.startedTasks_fresh hparse) rfl rfl rfl rfl
  | close socket =>
      show exists events, _ ∧ _ = (s.handleClose socket).store ∧ _
      rw [s.handleClose_eq]
      exact TrackerTcpServer.exists_started (s.closeMarks_fresh socket)
        (fun _ htask => absurd htask List.not_mem_nil) rfl
        (List.append_nil _).symm rfl rfl
  | markSettled j accepted =>
      refine ⟨[SaveEvent.patchSettled j accepted], ⟨?_, trivial⟩,
        (s.settleMark_store j accepted).symm, rfl⟩
      show ((s.marks.map Mark.job)[j]?).any PatchJob.inFlight = true
      rw [List.getElem?_map]
      change (s.marks[j]?).any Mark.inFlight = true at henabled
      cases hmark : s.marks[j]? with
      | none =>
          rw [hmark] at henabled
          cases henabled
      | some mark =>
          rw [hmark] at henabled
          exact henabled
  | upsertSettled i accepted =>
      refine ⟨[SaveEvent.upsertSettled i accepted], ⟨?_, trivial⟩,
        (s.settleUpsert_store i accepted).symm, rfl⟩
      exact (s.phaseOf_store i).trans (congrArg _ henabled)
  | saveSettled i accepted =>
      refine ⟨[SaveEvent.saveSettled i accepted], ⟨?_, trivial⟩,
        (s.settleSave_store i accepted).symm, rfl⟩
      exact (s.phaseOf_store i).trans (congrArg _ henabled)
  | thenRuns i outcome listenerThrows =>
      refine ⟨[], trivial, ?_, rfl⟩
      show s.store = (s.runThen i outcome listenerThrows).store
      unfold TrackerTcpServer.runThen
      cases outcome with
      | row =>
          exact (TrackerTcpServer.setPhase_store_same henabled
            (SavePhase.emitted SaveOutcome.row listenerThrows) rfl).symm
      | null =>
          exact (TrackerTcpServer.setPhase_store_same henabled
            (SavePhase.emitted SaveOutcome.null false) rfl).symm
      | rejected =>
          exact (TrackerTcpServer.setPhase_store_same henabled
            (SavePhase.emitted SaveOutcome.rejected true) rfl).symm
  | catchRuns i outcome failed =>
      exact ⟨[], trivial, (TrackerTcpServer.setPhase_store_same henabled
        (SavePhase.caught outcome) rfl).symm, rfl⟩
  | finallyRuns i outcome =>
      refine ⟨[], trivial, ?_, rfl⟩
      show s.store = (s.runFinally i outcome).store
      unfold TrackerTcpServer.runFinally
      cases s.saves[i]? with
      | none => rfl
      | some task =>
          exact (TrackerTcpServer.setPhase_store_same henabled
            (SavePhase.finished outcome) rfl).symm

/-- To the database, every run of the server is a run of its store, with the same
statements applied. -/
theorem exists_store_run {maxBufferBytes : Nat}
    {history : List (TrackerEvent Socket)}
    (h : (trackerTcpServer Socket maxBufferBytes).Legal history) :
    exists trace, trackerStore.store.Legal trace ∧
      trackerStore.store.stateAfter trace =
        ((trackerTcpServer Socket maxBufferBytes).stateAfter
          history).store ∧
      trace.filterMap SaveEvent.applied? =
        history.filterMap TrackerEvent.applied? := by
  rcases exists_frame_run h with ⟨frames, hframes, hstate, hsame⟩
  rcases EventSystem.exists_labelled_run (N := trackerStore.store)
    TrackerTcpServer.store TrackerEvent.applied? SaveEvent.applied? rfl
    exists_store_step hframes with ⟨trace, hlegal, htrace, happlied⟩
  rw [hstate] at htrace
  exact ⟨trace, hlegal, htrace, happlied.trans hsame⟩

theorem accounted_store {maxBufferBytes : Nat}
    {history : List (TrackerEvent Socket)}
    (h : (trackerTcpServer Socket maxBufferBytes).Legal history) :
    SaveStore.Accounted trackerStore
      ((trackerTcpServer Socket maxBufferBytes).stateAfter history).store
      (history.filterMap TrackerEvent.applied?) := by
  rcases exists_store_run h with ⟨trace, hlegal, hstate, happlied⟩
  rw [← hstate, ← happlied]
  exact SaveStore.accounted hlegal

/-- However connections, chunks, statements and the parts of the promise chains
interleave, and whichever statements the database rejects, the device table is
that of the writes of the statements that were applied, in the order in which
they were, every report row is that of a chain, once, and belongs to a device with
a row, whose position is that of the writes. -/
theorem trackerTables_serializable {maxBufferBytes : Nat}
    (run : (trackerTcpServer Socket maxBufferBytes).Run) :
    let s := (trackerTcpServer Socket maxBufferBytes).stateAfter run.history
    exists writes, trackerSaves.SerialTables s.store
        (run.history.filterMap TrackerEvent.applied?) writes ∧
      forall imei, SnapshotOf
        ((s.devices.lookup imei).bind TrackerDevice.lastLatitude)
        ((s.devices.lookup imei).bind TrackerDevice.lastLongitude)
        (trackerCoordinates imei writes) := by
  intro s
  rcases SaveProtocol.exists_serialTables (accounted_store run.legal) with
    ⟨writes, htables⟩
  exact ⟨writes, htables, fun imei => trackerPositions htables imei⟩

end Runs

end Tracker
end AvtTracker
