import AvtTracker.Foundation.Settling
import AvtTracker.Tracker.StreamReplies

/-!
# Chains that run to their ends

The parts of the promise chains and the answers of the database only work off
what the sockets have started.  So the server comes to rest when the sockets fall
silent, in whatever order the parts run and whatever the database answers, and
then every heartbeat and every report has been answered.
-/

namespace AvtTracker
namespace Tracker

open Foundation Tcp

/-!
## Work
-/

def SavePhase.work : SavePhase -> Nat
  | upserting => 5
  | saving => 4
  | settled _ => 3
  | emitted _ _ => 2
  | caught _ => 1
  | finished _ => 0

def Mark.work (mark : Mark) : Nat :=
  if mark.inFlight then 1 else 0

variable {Socket : Type}

def SaveTask.work (task : SaveTask Socket) : Nat :=
  task.phase.work

/-- An answer of the database, or a part of a promise chain. -/
def TrackerEvent.Internal : TrackerEvent Socket -> Prop
  | connect _ _ _ => False
  | data _ _ _ => False
  | close _ => False
  | _ => True

namespace TrackerTcpServer

def work (s : TrackerTcpServer Socket) : Nat :=
  (s.saves.map SaveTask.work).sum + (s.marks.map Mark.work).sum

/-- A chain that waits for a statement has a report to save. -/
def Unsettled (s : TrackerTcpServer Socket) : Prop :=
  forall (i : Nat) (task : SaveTask Socket), s.saves[i]? = some task ->
    task.phase.outcome? = none -> exists report,
      task.parsed.report = some report

/-- Every chain has run to its end. -/
def ChainsFinished (s : TrackerTcpServer Socket) : Prop :=
  forall task, task ∈ s.saves -> task.phase.isFinished = true

/-- Every mark has been answered too. -/
def AtRest (s : TrackerTcpServer Socket) : Prop :=
  s.ChainsFinished ∧ forall mark, mark ∈ s.marks -> mark.inFlight = false

theorem work_eq_zero_iff {s : TrackerTcpServer Socket} :
    s.work = 0 <-> s.AtRest := by
  have htask : forall task : SaveTask Socket,
      task.work = 0 <-> task.phase.isFinished = true := by
    intro task
    unfold SaveTask.work
    cases task.phase <;> simp [SavePhase.work, SavePhase.isFinished]
  have hmark : forall mark : Mark, mark.work = 0 <-> mark.inFlight = false := by
    intro mark
    unfold Mark.work
    cases mark.inFlight <;> simp
  unfold work AtRest ChainsFinished
  rw [Nat.add_eq_zero_iff, List.sum_eq_zero_iff_forall_eq_nat,
    List.sum_eq_zero_iff_forall_eq_nat, List.forall_mem_map,
    List.forall_mem_map]
  exact and_congr (forall₂_congr fun task _ => htask task)
    (forall₂_congr fun mark _ => hmark mark)

/-- One chain gets on. -/
structure WorksOff (s s' : TrackerTcpServer Socket) (i : Nat)
    (task : SaveTask Socket) (phase : SavePhase) : Prop where
  chain : s.saves[i]? = some task
  saves : s'.saves = (s.setPhase i phase).saves
  marks : s'.marks = s.marks
  less : phase.work < task.phase.work
  settled : phase.outcome? = none -> task.phase.outcome? = none

section Steps

variable {s s' : TrackerTcpServer Socket} {i : Nat} {task : SaveTask Socket}
variable {phase : SavePhase}

theorem WorksOff.work_lt (h : WorksOff s s' i task phase) :
    s'.work < s.work := by
  have hless : ((s.saves.modify i (fun task =>
      { task with phase := phase })).map SaveTask.work).sum <
      (s.saves.map SaveTask.work).sum :=
    sum_modify_lt SaveTask.work h.chain h.less
  unfold work
  rw [h.saves, h.marks]
  exact Nat.add_lt_add_right hless _

theorem WorksOff.unsettled (h : WorksOff s s' i task phase)
    (hs : s.Unsettled) : s'.Unsettled := by
  intro k other hother hphase
  rw [h.saves] at hother
  by_cases hk : k = i
  · rw [hk, getElem?_setPhase_self h.chain] at hother
    cases hother
    exact hs i task h.chain (h.settled hphase)
  · rw [getElem?_setPhase_of_ne hk] at hother
    exact hs k other hother hphase

theorem exists_task_of_phaseOf (h : s.phaseOf i = some phase) :
    exists task, s.saves[i]? = some task ∧ task.phase = phase :=
  Option.map_eq_some_iff.mp h

theorem worksOff_settleUpsert (hs : s.Unsettled)
    (h : s.phaseOf i = some SavePhase.upserting) (accepted : Bool) :
    exists task phase, WorksOff s (s.settleUpsert i accepted) i task phase := by
  rcases exists_task_of_phaseOf h with ⟨task, htask, hphase⟩
  rcases hs i task htask (by rw [hphase]; rfl) with ⟨report, hreport⟩
  unfold settleUpsert
  simp only [htask, hreport]
  cases accepted with
  | true =>
      exact ⟨task, SavePhase.saving, htask, rfl, rfl, by rw [hphase]; decide,
        fun _ => by rw [hphase]; rfl⟩
  | false =>
      exact ⟨task, SavePhase.settled SaveOutcome.rejected, htask, rfl, rfl,
        by rw [hphase]; decide, fun _ => by rw [hphase]; rfl⟩

theorem worksOff_settleSave (hs : s.Unsettled)
    (h : s.phaseOf i = some SavePhase.saving) (accepted : Bool) :
    exists task phase, WorksOff s (s.settleSave i accepted) i task phase := by
  rcases exists_task_of_phaseOf h with ⟨task, htask, hphase⟩
  rcases hs i task htask (by rw [hphase]; rfl) with ⟨report, hreport⟩
  unfold settleSave
  simp only [htask, hreport]
  cases accepted with
  | true =>
      exact ⟨task, SavePhase.settled SaveOutcome.row, htask, rfl, rfl,
        by rw [hphase]; decide, fun _ => by rw [hphase]; rfl⟩
  | false =>
      exact ⟨task, SavePhase.settled SaveOutcome.rejected, htask, rfl, rfl,
        by rw [hphase]; decide, fun _ => by rw [hphase]; rfl⟩

theorem worksOff_runThen {outcome : SaveOutcome}
    (h : s.phaseOf i = some (SavePhase.settled outcome))
    (listenerThrows : Bool) :
    exists task phase,
      WorksOff s (s.runThen i outcome listenerThrows) i task phase := by
  rcases exists_task_of_phaseOf h with ⟨task, htask, hphase⟩
  have hless : SavePhase.work (SavePhase.emitted outcome listenerThrows) <
      task.phase.work := by
    rw [hphase]
    exact Nat.lt_succ_self 2
  cases outcome with
  | row => exact ⟨task, _, htask, rfl, rfl, hless, nofun⟩
  | null =>
      exact ⟨task, SavePhase.emitted SaveOutcome.null false, htask, rfl, rfl,
        hless, nofun⟩
  | rejected =>
      exact ⟨task, SavePhase.emitted SaveOutcome.rejected true, htask, rfl, rfl,
        hless, nofun⟩

theorem worksOff_runFinally {outcome : SaveOutcome}
    (h : s.phaseOf i = some (SavePhase.caught outcome)) :
    exists task phase, WorksOff s (s.runFinally i outcome) i task phase := by
  rcases exists_task_of_phaseOf h with ⟨task, htask, hphase⟩
  unfold runFinally
  simp only [htask]
  exact ⟨task, SavePhase.finished outcome, htask, rfl, rfl,
    by rw [hphase]; exact Nat.zero_lt_one, nofun⟩

theorem settleMark_work {j : Nat}
    (h : (s.marks[j]?).any Mark.inFlight = true) (accepted : Bool) :
    (s.settleMark j accepted).work < s.work ∧
      (s.settleMark j accepted).saves = s.saves := by
  cases hmark : s.marks[j]? with
  | none =>
      rw [hmark] at h
      cases h
  | some mark =>
      rw [hmark] at h
      unfold settleMark
      simp only [hmark]
      refine ⟨Nat.add_lt_add_left (sum_modify_lt Mark.work hmark ?_) _, trivial⟩
      unfold Mark.work
      rw [if_pos (show mark.inFlight = true from h)]
      exact Nat.zero_lt_one

end Steps

end TrackerTcpServer

/-!
## Coming to rest
-/

section Runs

variable [DecidableEq Socket] (maxBufferBytes : Nat)

theorem internal_step {s : TrackerTcpServer Socket} (hs : s.Unsettled)
    {e : TrackerEvent Socket} (henabled : e.Enabled s)
    (hinternal : e.Internal) :
    let s' := (trackerTcpServer Socket maxBufferBytes).step s e
    s'.Unsettled ∧ s'.work < s.work := by
  have hworksOff : forall {s' : TrackerTcpServer Socket} {i : Nat},
      (exists task phase, TrackerTcpServer.WorksOff s s' i task phase) ->
        s'.Unsettled ∧ s'.work < s.work := by
    rintro s' i ⟨task, phase, h⟩
    exact ⟨h.unsettled hs, h.work_lt⟩
  cases e with
  | connect _ _ _ => exact hinternal.elim
  | data _ _ _ => exact hinternal.elim
  | close _ => exact hinternal.elim
  | markSettled j accepted =>
      rcases TrackerTcpServer.settleMark_work henabled accepted with
        ⟨hless, hsaves⟩
      refine ⟨?_, hless⟩
      intro i task htask
      exact hs i task (hsaves ▸ htask)
  | upsertSettled i accepted =>
      exact hworksOff
        (TrackerTcpServer.worksOff_settleUpsert hs henabled accepted)
  | saveSettled i accepted =>
      exact hworksOff
        (TrackerTcpServer.worksOff_settleSave hs henabled accepted)
  | thenRuns i outcome listenerThrows =>
      exact hworksOff
        (TrackerTcpServer.worksOff_runThen henabled listenerThrows)
  | catchRuns i outcome failed =>
      rcases TrackerTcpServer.exists_task_of_phaseOf henabled with
        ⟨task, htask, hphase⟩
      exact hworksOff ⟨task, SavePhase.caught outcome, htask, rfl, rfl,
        by rw [hphase]; exact Nat.lt_succ_self 1, nofun⟩
  | finallyRuns i outcome =>
      exact hworksOff (TrackerTcpServer.worksOff_runFinally henabled)

theorem exists_internal {s : TrackerTcpServer Socket} (hwork : s.work ≠ 0) :
    exists e : TrackerEvent Socket, e.Internal ∧ e.Enabled s ∧
      forall i outcome throws, e = TrackerEvent.thenRuns i outcome throws ->
        throws = false := by
  by_cases hsaves : (s.saves.map SaveTask.work).sum = 0
  · have hmarks : (s.marks.map Mark.work).sum ≠ 0 := by
      intro hzero
      apply hwork
      unfold TrackerTcpServer.work
      rw [hsaves, hzero]
    rcases exists_job_of_work Mark.work hmarks with ⟨j, mark, hmark, hleft⟩
    refine ⟨TrackerEvent.markSettled j true, trivial, ?_, nofun⟩
    show (s.marks[j]?).any Mark.inFlight = true
    rw [hmark]
    unfold Mark.work at hleft
    show mark.inFlight = true
    by_contra hsettled
    rw [if_neg hsettled] at hleft
    exact hleft rfl
  · rcases exists_job_of_work SaveTask.work hsaves with
      ⟨i, task, htask, hleft⟩
    have hphaseOf : s.phaseOf i = some task.phase := by
      unfold TrackerTcpServer.phaseOf
      rw [htask]
      rfl
    unfold SaveTask.work at hleft
    generalize task.phase = phase at hphaseOf hleft
    cases phase with
    | upserting =>
        exact ⟨TrackerEvent.upsertSettled i true, trivial, hphaseOf, nofun⟩
    | saving =>
        exact ⟨TrackerEvent.saveSettled i true, trivial, hphaseOf, nofun⟩
    | settled outcome =>
        refine ⟨TrackerEvent.thenRuns i outcome false, trivial, hphaseOf, ?_⟩
        intro k other throws hsame
        exact (TrackerEvent.thenRuns.inj hsame).right.right.symm
    | emitted outcome failed =>
        exact ⟨TrackerEvent.catchRuns i outcome failed, trivial, hphaseOf,
          nofun⟩
    | caught outcome =>
        exact ⟨TrackerEvent.finallyRuns i outcome, trivial, hphaseOf, nofun⟩
    | finished outcome => exact absurd rfl hleft

def settling : Settling (trackerTcpServer Socket maxBufferBytes) where
  Inv := TrackerTcpServer.Unsettled
  Internal := TrackerEvent.Internal
  work := TrackerTcpServer.work
  kept _ _ hs henabled hinternal :=
    (internal_step maxBufferBytes hs henabled hinternal).left
  decreases _ _ hs henabled hinternal :=
    (internal_step maxBufferBytes hs henabled hinternal).right
  progress _ _ hwork := (exists_internal hwork).imp fun _ h =>
    ⟨h.left, h.right.left⟩

variable {maxBufferBytes} {history events : List (TrackerEvent Socket)}

theorem unsettled_of_legal
    (h : (trackerTcpServer Socket maxBufferBytes).Legal history) :
    ((trackerTcpServer Socket maxBufferBytes).stateAfter
      history).Unsettled := by
  rcases exists_frame_run h with ⟨trace, hlegal, hstate, _⟩
  have hunsettled := (replied hlegal).unsettled
  rw [hstate] at hunsettled
  exact hunsettled

omit [DecidableEq Socket] in
theorem receivedFrames_internal
    (h : forall e, e ∈ events -> TrackerEvent.Internal e) :
    receivedFrames (history ++ events) = receivedFrames history := by
  have hnone : receivedFrames events = [] := by
    refine List.filterMap_eq_nil_iff.mpr fun e he => ?_
    have hinternal := h e he
    cases e with
    | data _ _ _ => exact hinternal.elim
    | _ => rfl
  unfold receivedFrames at hnone ⊢
  rw [List.filterMap_append, hnone, List.append_nil]

/-- From every reachable state the server can come to rest without another byte
being received; on its own it always does so, after at most as many events as
its chains and marks have parts to run, and then each heartbeat and each report
received on a socket has been answered once. -/
theorem chains_settle (run : (trackerTcpServer Socket maxBufferBytes).Run) :
    let M := trackerTcpServer Socket maxBufferBytes
    let s := M.stateAfter run.history
    (exists events, (forall e, e ∈ events -> e.Internal) ∧
        M.LegalFrom s events ∧ (M.stateFrom s events).AtRest) ∧
      forall events, (forall e, e ∈ events -> e.Internal) ->
        M.LegalFrom s events -> events.length ≤ s.work ∧
          ((forall e : TrackerEvent Socket, e.Internal ->
              ¬ e.Enabled (M.stateFrom s events)) ->
            (M.stateFrom s events).AtRest ∧ forall socket,
              (((M.stateFrom s events).writes.filter (fun w =>
                  decide (w.socket = socket))).map Write.text).Perm
                ((framesOfChunks maxBufferBytes
                  (chunksOn socket run.history)).filterMap replyText)) := by
  intro M s
  rcases (settling maxBufferBytes).settles (unsettled_of_legal run.legal) with
    ⟨⟨settled, honly, hlegal, hzero⟩, hbound⟩
  refine ⟨⟨settled, honly, hlegal,
    TrackerTcpServer.work_eq_zero_iff.mp hzero⟩, ?_⟩
  intro events honly hlegal
  rcases hbound events honly hlegal with ⟨hlength, hstuck⟩
  refine ⟨hlength, fun hquiet => ?_⟩
  have hrest := TrackerTcpServer.work_eq_zero_iff.mp (hstuck hquiet)
  refine ⟨hrest, fun socket => ?_⟩
  have hanswers := answersStream_of_legal
    (EventSystem.legalFrom_append.mpr ⟨run.legal, hlegal⟩) socket
  unfold chunksOn at hanswers
  rw [receivedFrames_internal honly] at hanswers
  have hstate : M.stateFrom s events = M.stateAfter (run.history ++ events) :=
    (EventSystem.stateFrom_append _ _ _).symm
  rw [hstate] at hrest ⊢
  exact hanswers.answered fun task htask _ => hrest.left task htask

end Runs

end Tracker
end AvtTracker
