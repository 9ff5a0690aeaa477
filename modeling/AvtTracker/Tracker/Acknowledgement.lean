import AvtTracker.Tracker.TrackerTcpServer

/-!
# Acknowledged reports

An acknowledgement is written at the very end of a report's promise chain, so
by then {lit}`saveReport` has settled.  It is written whatever the outcome was:
this module determines, for every run, what became of a report that was
acknowledged.
-/

namespace AvtTracker
namespace Tracker

open Foundation EventSystem

variable {Socket : Type}

/-!
## What is known of a chain
-/

/-- The database rejected one of the two statements of {lit}`saveReport`. -/
def RejectedIn (history : List (TrackerEvent Socket)) (i : Nat) : Prop :=
  TrackerEvent.upsertSettled i false ∈ history ∨
    TrackerEvent.saveSettled i false ∈ history

/-- The row of a chain's report is in the table. -/
def SaveTask.Saved (s : TrackerTcpServer Socket) (i : Nat)
    (task : SaveTask Socket) : Prop :=
  exists report, task.parsed.report = some report ∧
    (i, reportRow task.parsed report) ∈ s.reports

/-- The outcome of a chain is what the run made of it, and a chain without an
outcome has a report to save. -/
def SaveTask.Accounted (history : List (TrackerEvent Socket))
    (s : TrackerTcpServer Socket) (i : Nat) (task : SaveTask Socket) : Prop :=
  match task.phase.outcome? with
  | none => exists report, task.parsed.report = some report
  | some SaveOutcome.row => task.Saved s i
  | some SaveOutcome.null => task.parsed.report = none
  | some SaveOutcome.rejected => RejectedIn history i

/-- A write answers a heartbeat, or acknowledges a report whose chain has run to
its end. -/
def Write.Explained (s : TrackerTcpServer Socket) (w : Write Socket) : Prop :=
  (w.acknowledges = none ∧ exists header, w.text = shbdText header) ∨
    exists i task outcome, w.acknowledges = some i ∧
      s.saves[i]? = some task ∧ task.phase = SavePhase.finished outcome ∧
        w.socket = task.socket ∧ w.text = sackText task.parsed.header

structure Consistent (history : List (TrackerEvent Socket))
    (s : TrackerTcpServer Socket) : Prop where
  tasks : forall (i : Nat) (task : SaveTask Socket),
    s.saves[i]? = some task -> task.Accounted history s i
  writes : forall w, w ∈ s.writes -> w.Explained s

theorem SaveTask.Accounted.mono {history more : List (TrackerEvent Socket)}
    {s s' : TrackerTcpServer Socket} {i : Nat} {task : SaveTask Socket}
    (h : task.Accounted history s i)
    (hreports : forall row, row ∈ s.reports -> row ∈ s'.reports) :
    task.Accounted (history ++ more) s' i := by
  unfold Accounted at h ⊢
  cases houtcome : task.phase.outcome? with
  | none => rwa [houtcome] at h
  | some outcome =>
      rw [houtcome] at h
      cases outcome with
      | row =>
          rcases h with ⟨report, hreport, hrow⟩
          exact ⟨report, hreport, hreports _ hrow⟩
      | null => exact h
      | rejected =>
          exact h.imp (List.mem_append_left _) (List.mem_append_left _)

/-!
## Handlers of sockets

They start chains and answer heartbeats.
-/

def SaveTask.Fresh (task : SaveTask Socket) : Prop :=
  (task.phase = SavePhase.upserting ∧
      exists report, task.parsed.report = some report) ∨
    (task.phase = SavePhase.settled SaveOutcome.null ∧
      task.parsed.report = none)

/-- Only new chains and answers to heartbeats are added. -/
structure Extends (s s' : TrackerTcpServer Socket) : Prop where
  reports : s'.reports = s.reports
  saves : exists fresh, s'.saves = s.saves ++ fresh ∧
    forall task, task ∈ fresh -> task.Fresh
  writes : exists replies, s'.writes = s.writes ++ replies ∧
    forall w, w ∈ replies ->
      w.acknowledges = none ∧ exists header, w.text = shbdText header

theorem Extends.of_eq {s s' : TrackerTcpServer Socket}
    (hreports : s'.reports = s.reports) (hsaves : s'.saves = s.saves)
    (hwrites : s'.writes = s.writes) : Extends s s' where
  reports := hreports
  saves := ⟨[], by rw [hsaves, List.append_nil], fun _ h => nomatch h⟩
  writes := ⟨[], by rw [hwrites, List.append_nil], fun _ h => nomatch h⟩

theorem Extends.trans {s s' s'' : TrackerTcpServer Socket}
    (h : Extends s s') (h' : Extends s' s'') : Extends s s'' := by
  rcases h.saves with ⟨fresh, hsaves, hfresh⟩
  rcases h'.saves with ⟨fresh', hsaves', hfresh'⟩
  rcases h.writes with ⟨replies, hwrites, hreplies⟩
  rcases h'.writes with ⟨replies', hwrites', hreplies'⟩
  refine ⟨h'.reports.trans h.reports, ⟨fresh ++ fresh', ?_, ?_⟩,
    ⟨replies ++ replies', ?_, ?_⟩⟩
  · rw [hsaves', hsaves, List.append_assoc]
  · intro task htask
    exact (List.mem_append.mp htask).elim (hfresh task) (hfresh' task)
  · rw [hwrites', hwrites, List.append_assoc]
  · intro w hw
    exact (List.mem_append.mp hw).elim (hreplies w) (hreplies' w)

section Handlers

variable [DecidableEq Socket] (s : TrackerTcpServer Socket) (socket : Socket)

theorem extends_registerDevice (imei : String) (now : Int) :
    Extends s (s.registerDevice socket imei now) := by
  unfold TrackerTcpServer.registerDevice
  by_cases h : s.tcp.deviceId socket = some imei
  · simp only [if_pos h]
    exact Extends.of_eq rfl rfl rfl
  · simp only [if_neg h]
    exact Extends.of_eq rfl rfl rfl

omit [DecidableEq Socket] in
theorem extends_handleReportFrame (parsed : ParsedTrackerFrame) (now : Int) :
    Extends s (s.handleReportFrame socket parsed now) where
  reports := rfl
  saves := by
    refine ⟨_, rfl, fun task htask => ?_⟩
    rw [List.mem_singleton.mp htask]
    cases hreport : parsed.report with
    | none => exact Or.inr ⟨by simp, hreport⟩
    | some report => exact Or.inl ⟨by simp, report, hreport⟩
  writes := ⟨[], (List.append_nil _).symm, fun _ h => nomatch h⟩

omit [DecidableEq Socket] in
theorem extends_handleHeartbeatFrame (header : TrackerFrameHeader)
    (now : Int) : Extends s (s.handleHeartbeatFrame socket header now) where
  reports := rfl
  saves := ⟨[], (List.append_nil _).symm, fun _ h => nomatch h⟩
  writes := by
    refine ⟨_, rfl, fun w hw => ?_⟩
    rw [List.mem_singleton.mp hw]
    exact ⟨rfl, header, rfl⟩

theorem extends_handleFrame (frame : Bytes) (now : Int) :
    Extends s (s.handleFrame socket frame now) := by
  unfold TrackerTcpServer.handleFrame
  cases parseFrame frame with
  | error message => exact Extends.of_eq rfl rfl rfl
  | ok parsed =>
      have hregister := extends_registerDevice s socket parsed.header.imei now
      dsimp only
      split
      · exact hregister.trans (extends_handleReportFrame _ _ _ _)
      · exact hregister.trans (extends_handleReportFrame _ _ _ _)
      · exact hregister.trans (extends_handleHeartbeatFrame _ _ _ _)
      · exact hregister

theorem extends_handleFrames (frames : List Bytes) (now : Int) :
    Extends s (s.handleFrames socket frames now) := by
  induction frames generalizing s with
  | nil => exact Extends.of_eq rfl rfl rfl
  | cons frame frames ih =>
      exact (extends_handleFrame s socket frame now).trans (ih _)

theorem extends_handleData (chunk : Bytes) (now : Int) :
    Extends s (s.handleData socket chunk now) := by
  unfold TrackerTcpServer.handleData
  cases s.splitters.lookup socket with
  | none => exact Extends.of_eq rfl rfl rfl
  | some splitter =>
      have hsplit : forall splitters,
          Extends s { s with splitters := splitters } :=
        fun _ => Extends.of_eq rfl rfl rfl
      exact (hsplit _).trans (extends_handleFrames _ socket _ now)

theorem extends_handleClose : Extends s (s.handleClose socket) := by
  unfold TrackerTcpServer.handleClose
  cases s.tcp.deviceId socket with
  | none => exact Extends.of_eq rfl rfl rfl
  | some imei =>
      by_cases h : imei = ""
      · simp only [if_pos h]
        exact Extends.of_eq rfl rfl rfl
      · simp only [if_neg h]
        exact Extends.of_eq rfl rfl rfl

omit [DecidableEq Socket] in
theorem extends_settleMark (j : Nat) (accepted : Bool) :
    Extends s (s.settleMark j accepted) := by
  unfold TrackerTcpServer.settleMark
  cases s.marks[j]? <;> exact Extends.of_eq rfl rfl rfl

end Handlers

theorem SaveTask.Fresh.accounted {task : SaveTask Socket} (h : task.Fresh)
    (history : List (TrackerEvent Socket)) (s : TrackerTcpServer Socket)
    (i : Nat) : task.Accounted history s i := by
  unfold Accounted
  rcases h with ⟨hphase, hreport⟩ | ⟨hphase, hreport⟩
  · rw [hphase]
    exact hreport
  · rw [hphase]
    exact hreport

theorem Consistent.of_extends {history more : List (TrackerEvent Socket)}
    {s s' : TrackerTcpServer Socket} (h : Consistent history s)
    (hext : Extends s s') : Consistent (history ++ more) s' := by
  rcases hext.saves with ⟨fresh, hsaves, hfresh⟩
  rcases hext.writes with ⟨replies, hwrites, hreplies⟩
  constructor
  · intro i task htask
    rw [hsaves] at htask
    by_cases hi : i < s.saves.length
    · rw [List.getElem?_append_left hi] at htask
      refine (h.tasks i task htask).mono fun row hrow => ?_
      rwa [hext.reports]
    · rw [List.getElem?_append_right (Nat.not_lt.mp hi)] at htask
      exact (hfresh task (List.mem_of_getElem? htask)).accounted _ _ _
  · intro w hw
    rw [hwrites] at hw
    rcases List.mem_append.mp hw with hw | hw
    · refine (h.writes w hw).imp id ?_
      rintro ⟨i, task, outcome, hack, htask, hrest⟩
      refine ⟨i, task, outcome, hack, ?_, hrest⟩
      rw [hsaves, List.getElem?_append_left
        (List.getElem?_eq_some_iff.mp htask).choose]
      exact htask
    · exact Or.inl (hreplies w hw)

/-!
## Parts of the chains
-/

section Chains

variable {history : List (TrackerEvent Socket)} {e : TrackerEvent Socket}
variable {s s' : TrackerTcpServer Socket} {i : Nat} {task : SaveTask Socket}
variable {phase : SavePhase}

theorem exists_task_of_phaseOf (h : s.phaseOf i = some phase) :
    exists task, s.saves[i]? = some task ∧ task.phase = phase :=
  Option.map_eq_some_iff.mp h

theorem Consistent.advance (h : Consistent history s)
    (htask : s.saves[i]? = some task)
    (hunfinished : forall outcome, task.phase ≠ SavePhase.finished outcome)
    (hsaves : s'.saves = (s.setPhase i phase).saves)
    (hreports : forall row, row ∈ s.reports -> row ∈ s'.reports)
    (haccounted : SaveTask.Accounted (history ++ [e]) s' i
      { task with phase := phase })
    (hwrites : forall w, w ∈ s'.writes -> w ∈ s.writes ∨ w.Explained s') :
    Consistent (history ++ [e]) s' := by
  constructor
  · intro k other hother
    rw [hsaves] at hother
    by_cases hk : k = i
    · subst hk
      rw [TrackerTcpServer.getElem?_setPhase_self htask] at hother
      rw [← Option.some.inj hother]
      exact haccounted
    · rw [TrackerTcpServer.getElem?_setPhase_of_ne hk] at hother
      exact (h.tasks k other hother).mono hreports
  · intro w hw
    rcases hwrites w hw with hw | hw
    · refine (h.writes w hw).imp id ?_
      rintro ⟨k, other, outcome, hack, hother, hphase, hrest⟩
      refine ⟨k, other, outcome, hack, ?_, hphase, hrest⟩
      have hk : k ≠ i := by
        intro hsame
        rw [hsame, htask] at hother
        rw [← Option.some.inj hother] at hphase
        exact hunfinished outcome hphase
      rw [hsaves, TrackerTcpServer.getElem?_setPhase_of_ne hk]
      exact hother
    · exact hw

theorem SaveTask.Accounted.of_outcome (h : task.Accounted history s i)
    (hphase : phase.outcome? = task.phase.outcome?) :
    SaveTask.Accounted history s i { task with phase := phase } := by
  unfold Accounted at h ⊢
  rw [hphase]
  exact h

theorem Consistent.settleUpsert {accepted : Bool}
    (h : Consistent history s) (hphase : s.phaseOf i = some SavePhase.upserting) :
    Consistent (history ++ [TrackerEvent.upsertSettled i accepted])
      (s.settleUpsert i accepted) := by
  rcases exists_task_of_phaseOf hphase with ⟨task, htask, hphase⟩
  have hpending := h.tasks i task htask
  unfold SaveTask.Accounted at hpending
  rw [hphase] at hpending
  rcases hpending with ⟨report, hreport⟩
  have hunfinished : forall outcome,
      task.phase ≠ SavePhase.finished outcome := by
    rw [hphase]
    exact fun _ hc => nomatch hc
  unfold TrackerTcpServer.settleUpsert
  simp only [htask, hreport]
  cases accepted with
  | true =>
      refine h.advance htask hunfinished rfl (fun _ hrow => hrow) ?_
        (fun _ hw => Or.inl hw)
      exact ⟨report, hreport⟩
  | false =>
      refine h.advance htask hunfinished rfl (fun _ hrow => hrow) ?_
        (fun _ hw => Or.inl hw)
      exact Or.inl (List.mem_append_right _ List.mem_cons_self)

theorem Consistent.settleSave {accepted : Bool}
    (h : Consistent history s) (hphase : s.phaseOf i = some SavePhase.saving) :
    Consistent (history ++ [TrackerEvent.saveSettled i accepted])
      (s.settleSave i accepted) := by
  rcases exists_task_of_phaseOf hphase with ⟨task, htask, hphase⟩
  have hpending := h.tasks i task htask
  unfold SaveTask.Accounted at hpending
  rw [hphase] at hpending
  rcases hpending with ⟨report, hreport⟩
  have hunfinished : forall outcome,
      task.phase ≠ SavePhase.finished outcome := by
    rw [hphase]
    exact fun _ hc => nomatch hc
  unfold TrackerTcpServer.settleSave
  simp only [htask, hreport]
  cases accepted with
  | true =>
      refine h.advance htask hunfinished rfl
        (fun _ hrow => List.mem_append_left _ hrow) ?_ (fun _ hw => Or.inl hw)
      exact ⟨report, hreport, List.mem_append_right _ List.mem_cons_self⟩
  | false =>
      refine h.advance htask hunfinished rfl (fun _ hrow => hrow) ?_
        (fun _ hw => Or.inl hw)
      exact Or.inr (List.mem_append_right _ List.mem_cons_self)

theorem Consistent.advance_outcome (h : Consistent history s)
    (htask : s.saves[i]? = some task)
    (hunfinished : forall outcome, task.phase ≠ SavePhase.finished outcome)
    (houtcome : phase.outcome? = task.phase.outcome?)
    (hsaves : s'.saves = (s.setPhase i phase).saves)
    (hreports : s'.reports = s.reports)
    (hwrites : forall w, w ∈ s'.writes -> w ∈ s.writes ∨ w.Explained s') :
    Consistent (history ++ [e]) s' := by
  have hkept : forall row, row ∈ s.reports -> row ∈ s'.reports :=
    fun row hrow => by rwa [hreports]
  exact h.advance htask hunfinished hsaves hkept
    (((h.tasks i task htask).of_outcome houtcome).mono hkept) hwrites

theorem Consistent.runThen {outcome : SaveOutcome} {listenerThrows : Bool}
    (h : Consistent history s)
    (hphase : s.phaseOf i = some (SavePhase.settled outcome)) :
    Consistent (history ++ [e]) (s.runThen i outcome listenerThrows) := by
  rcases exists_task_of_phaseOf hphase with ⟨task, htask, hphase⟩
  have hunfinished : forall o, task.phase ≠ SavePhase.finished o := by
    rw [hphase]
    exact fun _ hc => nomatch hc
  unfold TrackerTcpServer.runThen
  cases outcome with
  | row =>
      exact h.advance_outcome htask hunfinished (by rw [hphase]; rfl) rfl rfl
        (fun _ hw => Or.inl hw)
  | null =>
      exact h.advance_outcome htask hunfinished (by rw [hphase]; rfl) rfl rfl
        (fun _ hw => Or.inl hw)
  | rejected =>
      exact h.advance_outcome htask hunfinished (by rw [hphase]; rfl) rfl rfl
        (fun _ hw => Or.inl hw)

theorem Consistent.runCatch {outcome : SaveOutcome} {failed : Bool}
    (h : Consistent history s)
    (hphase : s.phaseOf i = some (SavePhase.emitted outcome failed)) :
    Consistent (history ++ [e])
      (s.setPhase i (SavePhase.caught outcome)) := by
  rcases exists_task_of_phaseOf hphase with ⟨task, htask, hphase⟩
  have hunfinished : forall o, task.phase ≠ SavePhase.finished o := by
    rw [hphase]
    exact fun _ hc => nomatch hc
  exact h.advance_outcome htask hunfinished (by rw [hphase]; rfl) rfl rfl
    (fun _ hw => Or.inl hw)

theorem Consistent.runFinally {outcome : SaveOutcome}
    (h : Consistent history s)
    (hphase : s.phaseOf i = some (SavePhase.caught outcome)) :
    Consistent (history ++ [e]) (s.runFinally i outcome) := by
  rcases exists_task_of_phaseOf hphase with ⟨task, htask, hphase⟩
  have hunfinished : forall o, task.phase ≠ SavePhase.finished o := by
    rw [hphase]
    exact fun _ hc => nomatch hc
  unfold TrackerTcpServer.runFinally
  simp only [htask]
  refine h.advance_outcome htask hunfinished (by rw [hphase]; rfl) rfl rfl ?_
  intro w hw
  rcases List.mem_append.mp hw with hw | hw
  · exact Or.inl hw
  · rw [List.mem_singleton.mp hw]
    exact Or.inr (Or.inr ⟨i, _, outcome, rfl, TrackerTcpServer.getElem?_setPhase_self htask,
      rfl, rfl, rfl⟩)

end Chains

/-!
## Runs of the server
-/

section Runs

variable [DecidableEq Socket] {maxBufferBytes : Nat}

theorem consistent {history : List (TrackerEvent Socket)}
    (h : (trackerTcpServer Socket maxBufferBytes).Legal history) :
    Consistent history
      ((trackerTcpServer Socket maxBufferBytes).stateAfter history) := by
  refine invariant ?_ ?_ h
  · constructor
    · intro i task htask
      cases htask
    · intro w hw
      cases hw
  · intro history e _ henabled ih
    rw [stateAfter_snoc]
    cases e with
    | connect socket remoteAddress remotePort =>
        exact ih.of_extends (Extends.of_eq rfl rfl rfl)
    | data socket chunk now =>
        exact ih.of_extends (extends_handleData _ socket chunk now)
    | close socket => exact ih.of_extends (extends_handleClose _ socket)
    | markSettled j accepted =>
        exact ih.of_extends (extends_settleMark _ j accepted)
    | upsertSettled i accepted => exact ih.settleUpsert henabled
    | saveSettled i accepted => exact ih.settleSave henabled
    | thenRuns i outcome listenerThrows => exact ih.runThen henabled
    | catchRuns i outcome failed => exact ih.runCatch henabled
    | finallyRuns i outcome => exact ih.runFinally henabled

/--
Whatever is written to a socket answers a heartbeat, or acknowledges a report
received on that socket whose chain has run to its end.  Unless its data zone
could not be decoded, or the database rejected one of the statements that save
it, an acknowledged report has been saved.
-/
theorem acknowledged_report_saved
    (run : (trackerTcpServer Socket maxBufferBytes).Run) :
    let s := (trackerTcpServer Socket maxBufferBytes).stateAfter run.history
    forall w, w ∈ s.writes ->
      (w.acknowledges = none ∧ exists header, w.text = shbdText header) ∨
        exists i task outcome, w.acknowledges = some i ∧
          s.saves[i]? = some task ∧ task.phase = SavePhase.finished outcome ∧
            w.socket = task.socket ∧ w.text = sackText task.parsed.header ∧
              (task.Saved s i ∨ task.parsed.report = none ∨
                RejectedIn run.history i) := by
  intro s w hw
  have hrun := consistent run.legal
  refine (hrun.writes w hw).imp id ?_
  rintro ⟨i, task, outcome, hack, htask, hphase, hsocket, htext⟩
  refine ⟨i, task, outcome, hack, htask, hphase, hsocket, htext, ?_⟩
  have haccounted := hrun.tasks i task htask
  unfold SaveTask.Accounted at haccounted
  rw [hphase] at haccounted
  cases outcome with
  | row => exact Or.inl haccounted
  | null => exact Or.inr (Or.inl haccounted)
  | rejected => exact Or.inr (Or.inr haccounted)

end Runs

/-- A report frame whose data zone of two bytes ends inside its header. -/
def shortReport : Bytes :=
  [0x2b, 0x52, 0x50, 0x54, 0x3a, 0, 20, 35, 69, 38, 3, 56, 43, 80, 9, 0x20,
    11, 1, 0x07, 0xea, 7, 7, 4, 34, 56, 0, 1, 0x23]

/-- The report arrives, and its chain runs to its end. -/
def shortReportRun : List (TrackerEvent Nat) :=
  [TrackerEvent.connect 0 none none, TrackerEvent.data 0 shortReport 0,
    TrackerEvent.thenRuns 0 SaveOutcome.null false,
    TrackerEvent.catchRuns 0 SaveOutcome.null false,
    TrackerEvent.finallyRuns 0 SaveOutcome.null]

/-- The report is acknowledged although no row was ever saved. -/
theorem shortReport_acknowledged :
    let M := trackerTcpServer Nat 65536
    M.Legal shortReportRun ∧
      (M.stateAfter shortReportRun).writes.map
          (fun w => (w.socket, w.text, w.acknowledges)) =
        [(0, "+SACK:0001#", some 0)] ∧
      (M.stateAfter shortReportRun).reports.length = 0 := by
  decide

end Tracker
end AvtTracker
