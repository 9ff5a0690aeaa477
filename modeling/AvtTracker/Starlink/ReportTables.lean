import AvtTracker.Persistence.SerialWrites
import AvtTracker.Starlink.LineHandling

/-!
# The tables behind the StarLink server

As for the tracker, a run of the server is a run of the store of its devices and
reports.
-/

namespace AvtTracker
namespace Starlink

open Foundation Tcp Persistence

def SaveOutcome.jobPhase : SaveOutcome -> SaveJobPhase
  | row => SaveJobPhase.saved
  | null => SaveJobPhase.nothing
  | rejected => SaveJobPhase.rejected

/-- What a phase means to the database. -/
def SavePhase.jobPhase : SavePhase -> SaveJobPhase
  | upserting => SaveJobPhase.upserting
  | saving => SaveJobPhase.saving
  | settled outcome => outcome.jobPhase
  | emitted outcome _ => outcome.jobPhase
  | finished outcome => outcome.jobPhase

def SaveTask.job (task : SaveTask) :
    SaveJob StarlinkDevicePatch StarlinkReport where
  content := saveReport task.parsed task.startedAt
  phase := task.phase.jobPhase

/-- The database behind the server. -/
abbrev starlinkStore :
    SaveSpec String StarlinkDevice StarlinkDevicePatch StarlinkReport :=
  starlinkSaves.spec

namespace StarlinkTcpServer

section Store

variable {Socket : Type} (s : StarlinkTcpServer Socket)

/-- The server as the database sees it. -/
def store :
    SaveStore String StarlinkDevice StarlinkDevicePatch StarlinkReport where
  patches := s.marks
  saves := s.saves.map SaveTask.job
  owners := s.devices
  rows := s.reports

theorem phaseOf_store (i : Nat) :
    s.store.phaseOf i = (s.phaseOf i).map SavePhase.jobPhase := by
  show ((s.saves.map SaveTask.job)[i]?).map SaveJob.phase = _
  rw [List.getElem?_map, Option.map_map]
  unfold phaseOf
  rw [Option.map_map]
  rfl

theorem setPhase_store (i : Nat) (phase : SavePhase) :
    (s.setPhase i phase).store = s.store.setPhase i phase.jobPhase := by
  have hsaves : (s.setPhase i phase).saves.map SaveTask.job =
      (s.saves.map SaveTask.job).modify i (fun job =>
        { job with phase := phase.jobPhase }) := by
    refine map_modify ?_ i s.saves
    intro task
    rfl
  unfold store SaveStore.setPhase
  rw [hsaves]
  rfl

theorem content_store (i : Nat) :
    (s.store.saves[i]?).bind SaveJob.content =
      (s.saves[i]?).bind (fun task =>
        saveReport task.parsed task.startedAt) := by
  show ((s.saves.map SaveTask.job)[i]?).bind SaveJob.content = _
  rw [List.getElem?_map]
  cases s.saves[i]? <;> rfl

theorem settleMark_store (j : Nat) (accepted : Bool) :
    (s.settleMark j accepted).store =
      s.store.settlePatch starlinkStore j accepted := by
  have hfound : s.store.patches[j]? = s.marks[j]? := rfl
  unfold settleMark SaveStore.settlePatch
  rw [hfound]
  cases s.marks[j]? <;> rfl

theorem settleUpsert_store (i : Nat) (accepted : Bool) :
    (s.settleUpsert i accepted).store =
      s.store.settleUpsert starlinkStore i accepted := by
  unfold settleUpsert SaveStore.settleUpsert
  rw [content_store]
  cases s.saves[i]? with
  | none => rfl
  | some task =>
      dsimp only [Option.bind_some, saveReport]
      cases task.parsed.report with
      | none => rfl
      | some report =>
          have hstep := fun phase => s.setPhase_store i phase
          cases accepted with
          | true =>
              have hsaving := hstep SavePhase.saving
              simp only [store, SaveStore.setPhase, SaveStore.mk.injEq] at hsaving
              simp only [store, SaveStore.setPhase, Option.map_some,
                hsaving.right.left, if_true]
              rfl
          | false => exact hstep (SavePhase.settled SaveOutcome.rejected)

theorem settleSave_store (i : Nat) (accepted : Bool) :
    (s.settleSave i accepted).store = s.store.settleSave i accepted := by
  unfold settleSave SaveStore.settleSave
  rw [content_store]
  cases s.saves[i]? with
  | none => rfl
  | some task =>
      dsimp only [Option.bind_some, saveReport]
      cases task.parsed.report with
      | none => rfl
      | some report =>
          have hstep := fun phase => s.setPhase_store i phase
          cases accepted with
          | true =>
              have hsaved := hstep (SavePhase.settled SaveOutcome.row)
              simp only [store, SaveStore.setPhase, SaveStore.mk.injEq] at hsaved
              simp only [store, SaveStore.setPhase, Option.map_some,
                hsaved.right.left, if_true]
              rfl
          | false => exact hstep (SavePhase.settled SaveOutcome.rejected)

theorem setPhase_store_same {s : StarlinkTcpServer Socket} {i : Nat}
    {old : SavePhase} (hold : s.phaseOf i = some old) (phase : SavePhase)
    (hsame : phase.jobPhase = old.jobPhase) :
    (s.setPhase i phase).store = s.store := by
  have hsaves : (s.setPhase i phase).saves.map SaveTask.job =
      s.saves.map SaveTask.job := by
    refine map_modify_same fun task htask => ?_
    have hphase : some task.phase = some old := by
      rw [← hold, phaseOf, htask]
      rfl
    unfold SaveTask.job
    rw [hsame, ← Option.some.inj hphase]
  unfold store
  rw [hsaves]
  rfl

theorem runThen_store {i : Nat} {outcome : SaveOutcome}
    (h : s.phaseOf i = some (SavePhase.settled outcome))
    (listenerThrows : Bool) :
    (s.runThen i outcome listenerThrows).store = s.store := by
  unfold runThen
  cases s.saves[i]? with
  | none => rfl
  | some task =>
      cases outcome with
      | row =>
          exact setPhase_store_same h
            (SavePhase.emitted SaveOutcome.row listenerThrows) rfl
      | null =>
          exact setPhase_store_same h
            (SavePhase.emitted SaveOutcome.null false) rfl
      | rejected =>
          exact setPhase_store_same h
            (SavePhase.emitted SaveOutcome.rejected true) rfl

end Store

/-!
## Handlers of sockets
-/

section Handlers

variable {Socket : Type} [DecidableEq Socket]

theorem connectMarks_fresh (s : StarlinkTcpServer Socket) (socket : Socket)
    (deviceId : String) (now : Int) (mark : PatchJob StarlinkDevicePatch)
    (hmark : mark ∈ s.connectMarks socket deviceId now) :
    starlinkStore.FreshPatch mark := by
  unfold connectMarks at hmark
  by_cases h : s.tcp.deviceId socket = some deviceId
  · rw [if_pos h] at hmark
    cases hmark
  · rw [if_neg h] at hmark
    rw [List.mem_singleton.mp hmark]
    exact ⟨rfl, deviceId, now, Or.inl rfl⟩

theorem closeMarks_fresh (s : StarlinkTcpServer Socket) (socket : Socket)
    (mark : PatchJob StarlinkDevicePatch) (hmark : mark ∈ s.closeMarks socket) :
    starlinkStore.FreshPatch mark := by
  unfold closeMarks at hmark
  cases hdevice : s.tcp.deviceId socket with
  | none =>
      rw [hdevice] at hmark
      cases hmark
  | some deviceId =>
      rw [hdevice] at hmark
      by_cases hempty : deviceId = ""
      · simp only [if_pos hempty] at hmark
        cases hmark
      · simp only [if_neg hempty] at hmark
        rw [List.mem_singleton.mp hmark]
        exact ⟨rfl, deviceId, 0, Or.inr rfl⟩

theorem startedTasks_fresh {tags : List String} {line : Utf16}
    {parsed : ParsedStarlinkFrame}
    (hparse : parseFrame line tags = Except.ok parsed) {now : Int}
    (task : SaveTask) (h : task ∈ startedTasks parsed now) :
    starlinkStore.FreshSave task.job := by
  unfold startedTasks at h
  cases hreport : parsed.report with
  | none =>
      rw [hreport] at h
      cases h
  | some report =>
      rw [hreport] at h
      rw [List.mem_singleton.mp h]
      constructor
      · simp [SaveTask.job, SaveJob.start, saveReport, hreport,
          SavePhase.jobPhase]
      · intro patch row hsave
        refine ⟨(line, tags), now, ?_⟩
        show saveStarlinkLine (line, tags) now = some (patch, row)
        unfold saveStarlinkLine
        rw [hparse]
        exact hsave

omit [DecidableEq Socket] in
theorem exists_started {s s' : StarlinkTcpServer Socket}
    {marks : List (PatchJob StarlinkDevicePatch)} {tasks : List SaveTask}
    (hfired : forall mark, mark ∈ marks -> starlinkStore.FreshPatch mark)
    (hstarted : forall task, task ∈ tasks -> starlinkStore.FreshSave task.job)
    (hmarks : s'.marks = s.marks ++ marks)
    (hsaves : s'.saves = s.saves ++ tasks) (hdevices : s'.devices = s.devices)
    (hreports : s'.reports = s.reports) :
    exists events, starlinkStore.store.LegalFrom s.store events ∧
      starlinkStore.store.stateFrom s.store events = s'.store ∧
      events.filterMap SaveEvent.applied? = [] := by
  rcases starlinkStore.exists_started s.store hfired
    (List.forall_mem_map.mpr hstarted) with ⟨events, hlegal, hstate, hnone⟩
  refine ⟨events, hlegal, hstate.trans ?_, hnone⟩
  unfold store
  rw [hmarks, hsaves, hdevices, hreports, List.map_append]

end Handlers

end StarlinkTcpServer

/-!
## Runs
-/

section Runs

variable {Socket : Type} [DecidableEq Socket] {tags : List String}

theorem exists_store_step (s : StarlinkTcpServer Socket)
    (e : StarlinkEvent Socket Utf16) (henabled : e.Enabled s) :
    exists events, starlinkStore.store.LegalFrom s.store events ∧
      starlinkStore.store.stateFrom s.store events =
        ((lineHandling Socket tags).step s e).store ∧
      events.filterMap SaveEvent.applied? =
        [e].filterMap StarlinkEvent.applied? := by
  cases e with
  | connect socket remoteAddress remotePort => exact ⟨[], trivial, rfl, rfl⟩
  | data socket line now =>
      show exists events, _ ∧
        _ = (s.handleLine tags socket line now).store ∧ _
      cases hparse : parseFrame line tags with
      | error message =>
          rw [s.handleLine_error socket now hparse]
          exact ⟨[], trivial, rfl, rfl⟩
      | ok parsed =>
          rw [s.handleLine_ok socket now hparse]
          exact StarlinkTcpServer.exists_started
            (s.connectMarks_fresh socket _ now)
            (StarlinkTcpServer.startedTasks_fresh hparse) rfl rfl rfl rfl
  | close socket now =>
      show exists events, _ ∧ _ = (s.handleClose socket now).store ∧ _
      rw [s.handleClose_eq]
      exact StarlinkTcpServer.exists_started (s.closeMarks_fresh socket)
        (fun _ htask => absurd htask List.not_mem_nil) rfl
        (List.append_nil _).symm rfl rfl
  | markSettled j accepted =>
      exact ⟨[SaveEvent.patchSettled j accepted], ⟨henabled, trivial⟩,
        (s.settleMark_store j accepted).symm, rfl⟩
  | upsertSettled i accepted =>
      refine ⟨[SaveEvent.upsertSettled i accepted], ⟨?_, trivial⟩,
        (s.settleUpsert_store i accepted).symm, rfl⟩
      exact (s.phaseOf_store i).trans (congrArg _ henabled)
  | saveSettled i accepted =>
      refine ⟨[SaveEvent.saveSettled i accepted], ⟨?_, trivial⟩,
        (s.settleSave_store i accepted).symm, rfl⟩
      exact (s.phaseOf_store i).trans (congrArg _ henabled)
  | thenRuns i outcome listenerThrows =>
      exact ⟨[], trivial, (s.runThen_store henabled listenerThrows).symm, rfl⟩
  | catchRuns i outcome failed =>
      exact ⟨[], trivial, (StarlinkTcpServer.setPhase_store_same henabled
        (SavePhase.finished outcome) rfl).symm, rfl⟩

/-- To the database, every run of the server is a run of its store, with the same
statements applied. -/
theorem exists_store_run {maxBufferBytes : Nat}
    {history : List (StarlinkEvent Socket Bytes)}
    (h : (starlinkTcpServer Socket maxBufferBytes tags).Legal history) :
    exists trace, starlinkStore.store.Legal trace ∧
      starlinkStore.store.stateAfter trace =
        ((starlinkTcpServer Socket maxBufferBytes tags).stateAfter
          history).store ∧
      trace.filterMap SaveEvent.applied? =
        history.filterMap StarlinkEvent.applied? := by
  rcases exists_line_run h with ⟨lines, hlines, hstate, _, hsame⟩
  rcases EventSystem.exists_labelled_run (N := starlinkStore.store)
    StarlinkTcpServer.store StarlinkEvent.applied? SaveEvent.applied? rfl
    exists_store_step hlines with ⟨trace, hlegal, htrace, happlied⟩
  rw [hstate] at htrace
  exact ⟨trace, hlegal, htrace, happlied.trans hsame⟩

theorem accounted_store {maxBufferBytes : Nat}
    {history : List (StarlinkEvent Socket Bytes)}
    (h : (starlinkTcpServer Socket maxBufferBytes tags).Legal history) :
    SaveStore.Accounted starlinkStore
      ((starlinkTcpServer Socket maxBufferBytes tags).stateAfter history).store
      (history.filterMap StarlinkEvent.applied?) := by
  rcases exists_store_run h with ⟨trace, hlegal, hstate, happlied⟩
  rw [← hstate, ← happlied]
  exact SaveStore.accounted hlegal

/-- However connections, chunks, statements and the parts of the promise chains
interleave, and whichever statements the database rejects, the device table is
that of the writes of the statements that were applied, in the order in which
they were, every report row is that of a chain, once, and belongs to a device with
a row, whose position is that of the writes. -/
theorem starlinkTables_serializable {maxBufferBytes : Nat}
    (run : (starlinkTcpServer Socket maxBufferBytes tags).Run) :
    let s :=
      (starlinkTcpServer Socket maxBufferBytes tags).stateAfter run.history
    exists writes, starlinkSaves.SerialTables s.store
        (run.history.filterMap StarlinkEvent.applied?) writes ∧
      forall deviceId, SnapshotOf
        ((s.devices.lookup deviceId).bind StarlinkDevice.lastLatitude)
        ((s.devices.lookup deviceId).bind StarlinkDevice.lastLongitude)
        (starlinkCoordinates deviceId writes) := by
  intro s
  rcases SaveProtocol.exists_serialTables (accounted_store run.legal) with
    ⟨writes, htables⟩
  exact ⟨writes, htables,
    fun deviceId => starlinkPositions htables deviceId⟩

end Runs

end Starlink
end AvtTracker
