import AvtTracker.Foundation.Settling
import AvtTracker.Starlink.ReportTables

/-!
# StarLink chains that run to their ends

The answers of the database and the parts of the promise chains of the StarLink
server only work off what its sockets have started.
-/

namespace AvtTracker
namespace Starlink

open Foundation Tcp

def SavePhase.work : SavePhase -> Nat
  | upserting => 4
  | saving => 3
  | settled _ => 2
  | emitted _ _ => 1
  | finished _ => 0

def SavePhase.isFinished : SavePhase -> Bool
  | finished _ => true
  | _ => false

/-- The phases of a chain that waits for a statement. -/
def SavePhase.waits : SavePhase -> Bool
  | upserting => true
  | saving => true
  | _ => false

def SaveTask.work (task : SaveTask) : Nat :=
  task.phase.work

def markWork (mark : PatchJob StarlinkDevicePatch) : Nat :=
  if mark.inFlight then 1 else 0

/-- An answer of the database, or a part of a promise chain. -/
def StarlinkEvent.Internal {Socket Input : Type} :
    StarlinkEvent Socket Input -> Prop
  | connect _ _ _ => False
  | data _ _ _ => False
  | close _ _ => False
  | _ => True

namespace StarlinkTcpServer

variable {Socket : Type} {s s' : StarlinkTcpServer Socket} {i : Nat}
variable {task : SaveTask} {phase : SavePhase}

def work (s : StarlinkTcpServer Socket) : Nat :=
  (s.saves.map SaveTask.work).sum + (s.marks.map markWork).sum

/-- A chain that waits for a statement has a report to save. -/
def Unsettled (s : StarlinkTcpServer Socket) : Prop :=
  forall (i : Nat) (task : SaveTask), s.saves[i]? = some task ->
    task.phase.waits = true -> exists report, task.parsed.report = some report

/-- Every chain has run to its end. -/
def ChainsFinished (s : StarlinkTcpServer Socket) : Prop :=
  forall task, task ∈ s.saves -> task.phase.isFinished = true

/-- Every mark has been answered too. -/
def AtRest (s : StarlinkTcpServer Socket) : Prop :=
  s.ChainsFinished ∧ forall mark, mark ∈ s.marks -> mark.inFlight = false

theorem work_eq_zero_iff : s.work = 0 <-> s.AtRest := by
  have htask : forall task : SaveTask,
      task.work = 0 <-> task.phase.isFinished = true := by
    intro task
    unfold SaveTask.work
    cases task.phase <;> simp [SavePhase.work, SavePhase.isFinished]
  have hmark : forall mark : PatchJob StarlinkDevicePatch,
      markWork mark = 0 <-> mark.inFlight = false := by
    intro mark
    unfold markWork
    cases mark.inFlight <;> simp
  unfold work AtRest ChainsFinished
  rw [Nat.add_eq_zero_iff, List.sum_eq_zero_iff_forall_eq_nat,
    List.sum_eq_zero_iff_forall_eq_nat, List.forall_mem_map,
    List.forall_mem_map]
  exact and_congr (forall₂_congr fun task _ => htask task)
    (forall₂_congr fun mark _ => hmark mark)

/-!
## Steps
-/

/-- One chain gets on. -/
structure WorksOff (s s' : StarlinkTcpServer Socket) (i : Nat)
    (task : SaveTask) (phase : SavePhase) : Prop where
  chain : s.saves[i]? = some task
  saves : s'.saves = (s.setPhase i phase).saves
  marks : s'.marks = s.marks
  less : phase.work < task.phase.work
  waits : phase.waits = true -> task.phase.waits = true

theorem WorksOff.work_lt (h : WorksOff s s' i task phase) :
    s'.work < s.work := by
  have hless : ((s.saves.modify i (fun task =>
      { task with phase := phase })).map SaveTask.work).sum <
      (s.saves.map SaveTask.work).sum :=
    sum_modify_lt SaveTask.work h.chain h.less
  unfold work
  rw [h.saves, h.marks]
  exact Nat.add_lt_add_right hless _

theorem WorksOff.unsettled (h : WorksOff s s' i task phase)
    (hs : s.Unsettled) : s'.Unsettled := by
  intro k other hother hwaits
  rw [h.saves] at hother
  by_cases hk : k = i
  · have hsame : (s.setPhase i phase).saves[i]? =
        some { task with phase := phase } := by
      unfold setPhase
      rw [List.getElem?_modify_eq, h.chain]
      rfl
    rw [hk, hsame] at hother
    cases hother
    exact hs i task h.chain (h.waits hwaits)
  · have hsame : (s.setPhase i phase).saves[k]? = s.saves[k]? := by
      unfold setPhase
      exact List.getElem?_modify_ne _ _ (fun hc => hk hc.symm)
    rw [hsame] at hother
    exact hs k other hother hwaits

theorem worksOff_of_phaseOf {old : SavePhase} (h : s.phaseOf i = some old)
    (hsaves : s'.saves = (s.setPhase i phase).saves)
    (hmarks : s'.marks = s.marks) (hless : phase.work < old.work)
    (hwaits : phase.waits = true -> old.waits = true) :
    exists task phase, WorksOff s s' i task phase := by
  rcases Option.map_eq_some_iff.mp h with ⟨task, htask, rfl⟩
  exact ⟨task, phase, htask, hsaves, hmarks, hless, hwaits⟩

theorem exists_report {old : SavePhase} (hs : s.Unsettled)
    (h : s.phaseOf i = some old) (hwaits : old.waits = true) :
    exists task report, s.saves[i]? = some task ∧
      task.parsed.report = some report := by
  rcases Option.map_eq_some_iff.mp h with ⟨task, htask, rfl⟩
  rcases hs i task htask hwaits with ⟨report, hreport⟩
  exact ⟨task, report, htask, hreport⟩

theorem worksOff_settleUpsert (hs : s.Unsettled)
    (h : s.phaseOf i = some SavePhase.upserting) (accepted : Bool) :
    exists task phase, WorksOff s (s.settleUpsert i accepted) i task phase := by
  rcases exists_report hs h rfl with ⟨task, report, htask, hreport⟩
  unfold settleUpsert
  simp only [htask, hreport]
  cases accepted with
  | true => exact worksOff_of_phaseOf h rfl rfl (by decide) (fun _ => rfl)
  | false => exact worksOff_of_phaseOf h rfl rfl (by decide) (fun _ => rfl)

theorem worksOff_settleSave (hs : s.Unsettled)
    (h : s.phaseOf i = some SavePhase.saving) (accepted : Bool) :
    exists task phase, WorksOff s (s.settleSave i accepted) i task phase := by
  rcases exists_report hs h rfl with ⟨task, report, htask, hreport⟩
  unfold settleSave
  simp only [htask, hreport]
  cases accepted with
  | true => exact worksOff_of_phaseOf h rfl rfl (by decide) (fun _ => rfl)
  | false => exact worksOff_of_phaseOf h rfl rfl (by decide) (fun _ => rfl)

theorem worksOff_runThen {outcome : SaveOutcome}
    (h : s.phaseOf i = some (SavePhase.settled outcome))
    (listenerThrows : Bool) :
    exists task phase,
      WorksOff s (s.runThen i outcome listenerThrows) i task phase := by
  have hless : forall failed : Bool,
      (SavePhase.emitted outcome failed).work <
        (SavePhase.settled outcome).work := fun _ => Nat.lt_succ_self 1
  rcases Option.map_eq_some_iff.mp h with ⟨task, htask, _⟩
  unfold runThen
  simp only [htask]
  cases outcome with
  | row => exact worksOff_of_phaseOf h rfl rfl (hless listenerThrows) nofun
  | null => exact worksOff_of_phaseOf h rfl rfl (hless false) nofun
  | rejected => exact worksOff_of_phaseOf h rfl rfl (hless true) nofun

theorem settleMark_work {j : Nat}
    (h : (s.marks[j]?).any PatchJob.inFlight = true) (accepted : Bool) :
    (s.settleMark j accepted).work < s.work ∧
      (s.settleMark j accepted).saves = s.saves := by
  rcases SaveStore.exists_of_any h with ⟨mark, hmark, hflight⟩
  unfold settleMark
  simp only [hmark]
  refine ⟨Nat.add_lt_add_left (sum_modify_lt markWork hmark ?_) _, trivial⟩
  unfold markWork
  rw [if_pos hflight]
  exact Nat.zero_lt_one

end StarlinkTcpServer

/-!
## Settling
-/

section Runs

variable {Socket : Type} [DecidableEq Socket]
variable (maxBufferBytes : Nat) (tags : List String)

theorem internal_step {s : StarlinkTcpServer Socket} (hs : s.Unsettled)
    {e : StarlinkEvent Socket Bytes} (henabled : e.Enabled s)
    (hinternal : e.Internal) :
    let s' := (starlinkTcpServer Socket maxBufferBytes tags).step s e
    s'.Unsettled ∧ s'.work < s.work := by
  have hworksOff : forall {s' : StarlinkTcpServer Socket} {i : Nat},
      (exists task phase, StarlinkTcpServer.WorksOff s s' i task phase) ->
        s'.Unsettled ∧ s'.work < s.work := by
    rintro s' i ⟨task, phase, h⟩
    exact ⟨h.unsettled hs, h.work_lt⟩
  cases e with
  | connect _ _ _ => exact hinternal.elim
  | data _ _ _ => exact hinternal.elim
  | close _ _ => exact hinternal.elim
  | markSettled j accepted =>
      rcases StarlinkTcpServer.settleMark_work henabled accepted with
        ⟨hless, hsaves⟩
      refine ⟨?_, hless⟩
      intro i task htask
      exact hs i task (hsaves ▸ htask)
  | upsertSettled i accepted =>
      exact hworksOff
        (StarlinkTcpServer.worksOff_settleUpsert hs henabled accepted)
  | saveSettled i accepted =>
      exact hworksOff
        (StarlinkTcpServer.worksOff_settleSave hs henabled accepted)
  | thenRuns i outcome listenerThrows =>
      exact hworksOff
        (StarlinkTcpServer.worksOff_runThen henabled listenerThrows)
  | catchRuns i outcome failed =>
      exact hworksOff (StarlinkTcpServer.worksOff_of_phaseOf henabled rfl rfl
        Nat.zero_lt_one nofun)

theorem exists_internal {s : StarlinkTcpServer Socket} (hwork : s.work ≠ 0) :
    exists e : StarlinkEvent Socket Bytes, e.Internal ∧ e.Enabled s ∧
      forall i outcome throws, e = StarlinkEvent.thenRuns i outcome throws ->
        throws = false := by
  by_cases hsaves : (s.saves.map SaveTask.work).sum = 0
  · have hmarks : (s.marks.map markWork).sum ≠ 0 := by
      intro hzero
      apply hwork
      unfold StarlinkTcpServer.work
      rw [hsaves, hzero]
    rcases exists_job_of_work markWork hmarks with ⟨j, mark, hmark, hleft⟩
    refine ⟨StarlinkEvent.markSettled j true, trivial, ?_, nofun⟩
    show (s.marks[j]?).any PatchJob.inFlight = true
    rw [hmark]
    unfold markWork at hleft
    show mark.inFlight = true
    by_contra hsettled
    rw [if_neg hsettled] at hleft
    exact hleft rfl
  · rcases exists_job_of_work SaveTask.work hsaves with
      ⟨i, task, htask, hleft⟩
    have hphaseOf : s.phaseOf i = some task.phase := by
      unfold StarlinkTcpServer.phaseOf
      rw [htask]
      rfl
    unfold SaveTask.work at hleft
    generalize task.phase = phase at hphaseOf hleft
    cases phase with
    | upserting =>
        exact ⟨StarlinkEvent.upsertSettled i true, trivial, hphaseOf, nofun⟩
    | saving =>
        exact ⟨StarlinkEvent.saveSettled i true, trivial, hphaseOf, nofun⟩
    | settled outcome =>
        refine ⟨StarlinkEvent.thenRuns i outcome false, trivial, hphaseOf, ?_⟩
        intro k other throws hsame
        exact (StarlinkEvent.thenRuns.inj hsame).right.right.symm
    | emitted outcome failed =>
        exact ⟨StarlinkEvent.catchRuns i outcome failed, trivial, hphaseOf,
          nofun⟩
    | finished outcome => exact absurd rfl hleft

variable {maxBufferBytes tags} {history : List (StarlinkEvent Socket Bytes)}

theorem unsettled_of_legal
    (h : (starlinkTcpServer Socket maxBufferBytes tags).Legal history) :
    ((starlinkTcpServer Socket maxBufferBytes tags).stateAfter
      history).Unsettled := by
  have hrows := (accounted_store h).rows
  intro i task htask hwaits
  have hjob : ((starlinkTcpServer Socket maxBufferBytes tags).stateAfter
      history).store.saves[i]? = some task.job := by
    refine List.getElem?_map.trans ?_
    rw [htask]
    rfl
  cases hreport : task.parsed.report with
  | some report => exact ⟨report, rfl⟩
  | none =>
      have hnothing := (hrows.waiting i task.job hjob).mp (by
        show saveReport task.parsed task.startedAt = none
        unfold saveReport
        rw [hreport]
        rfl)
      have hphase : task.phase.jobPhase = SaveJobPhase.nothing := hnothing
      cases hp : task.phase with
      | upserting => rw [hp] at hphase; cases hphase
      | saving => rw [hp] at hphase; cases hphase
      | settled outcome => rw [hp] at hwaits; cases hwaits
      | emitted outcome failed => rw [hp] at hwaits; cases hwaits
      | finished outcome => rw [hp] at hwaits; cases hwaits

end Runs

end Starlink
end AvtTracker
