import AvtTracker.Starlink.ReportTables
import Mathlib.Data.List.DropRight

/-!
# What the StarLink server saves and announces

The chains of the server are those of the event reports among the lines its
sockets deliver.  A row is saved by its own chain and announced by it once, as it
was saved, and it holds a line from which it can be computed again.
-/

namespace AvtTracker
namespace Starlink

open Foundation Tcp Persistence EventSystem

def eventReport? (tags : List String) (line : Utf16) :
    Option ParsedStarlinkFrame :=
  match parseFrame line tags with
  | Except.error _ => none
  | Except.ok parsed => if parsed.report.isSome then some parsed else none

def Emitted.chain? : Emitted -> Option Nat
  | reportReceived _ i _ => some i
  | _ => none

/-- The report was announced if its row went through {lit}`then`. -/
def SavePhase.announced : SavePhase -> Bool
  | emitted SaveOutcome.row _ => true
  | finished SaveOutcome.row => true
  | _ => false

def SaveTask.announced (i : Nat) (task : SaveTask) : List Emitted :=
  if task.phase.announced then task.announcement i else []

variable {Socket : Type} {tags : List String}

/-- Chains and announcements are those of the lines that arrived. -/
structure Announced (tags : List String) (arrivals : List (Socket × Utf16))
    (s : StarlinkTcpServer Socket) : Prop where
  chains : s.saves.map SaveTask.parsed =
    arrivals.filterMap (fun arrival => eventReport? tags arrival.2)
  announcements : forall i : Nat,
    s.emitted.filter (fun e => e.chain? == some i) =
      (s.saves[i]?).elim [] (SaveTask.announced i)

/-!
## Steps
-/

section Steps

variable {arrivals : List (Socket × Utf16)} {s s' : StarlinkTcpServer Socket}

theorem filter_unannounced {added : List Emitted}
    (h : forall e, e ∈ added -> e.chain? = none)
    (i : Nat) : added.filter (fun e => e.chain? == some i) = [] := by
  refine List.filter_eq_nil_iff.mpr fun e he hc => ?_
  rw [h e he] at hc
  cases hc

theorem Announced.idle (h : Announced tags arrivals s) (added : List Emitted)
    (hsaves : s'.saves = s.saves) (hemitted : s'.emitted = s.emitted ++ added)
    (hadded : forall e, e ∈ added -> e.chain? = none) :
    Announced tags arrivals s' := by
  constructor
  · rw [hsaves]
    exact h.chains
  · intro i
    rw [hsaves, hemitted, List.filter_append, filter_unannounced hadded,
      List.append_nil]
    exact h.announcements i

theorem Announced.arrive (h : Announced tags arrivals s) {socket : Socket}
    {line : Utf16} (tasks : List SaveTask) (added : List Emitted)
    (hsaves : s'.saves = s.saves ++ tasks)
    (htasks : tasks.map SaveTask.parsed = (eventReport? tags line).toList)
    (hphase : forall task, task ∈ tasks -> task.phase = SavePhase.upserting)
    (hemitted : s'.emitted = s.emitted ++ added)
    (hadded : forall e, e ∈ added -> e.chain? = none) :
    Announced tags (arrivals ++ [(socket, line)]) s' := by
  constructor
  · have hone : [(socket, line)].filterMap (fun arrival =>
        eventReport? tags arrival.2) = (eventReport? tags line).toList := by
      cases hreport : eventReport? tags line with
      | none => exact List.filterMap_cons_none hreport
      | some parsed => exact List.filterMap_cons_some hreport
    rw [hsaves, List.map_append, List.filterMap_append, h.chains, htasks, hone]
  · intro i
    rw [hsaves, hemitted, List.filter_append, filter_unannounced hadded,
      List.append_nil, h.announcements i]
    by_cases hi : i < s.saves.length
    · rw [List.getElem?_append_left hi]
    · have hle := Nat.not_lt.mp hi
      rw [List.getElem?_eq_none hle, List.getElem?_append_right hle]
      cases htask : tasks[i - s.saves.length]? with
      | none => rfl
      | some task =>
          show [] = task.announced i
          unfold SaveTask.announced
          rw [hphase task (List.mem_of_getElem? htask)]
          rfl

theorem Announced.advance (h : Announced tags arrivals s) {i : Nat}
    {task : SaveTask} (htask : s.saves[i]? = some task) (phase : SavePhase)
    (added : List Emitted)
    (hsaves : s'.saves = (s.setPhase i phase).saves)
    (hemitted : s'.emitted = s.emitted ++ added)
    (hadded : forall e, e ∈ added -> e.chain? = some i)
    (hannounced : task.announced i ++ added =
      SaveTask.announced i { task with phase := phase }) :
    Announced tags arrivals s' := by
  have hself : (s.setPhase i phase).saves[i]? =
      some { task with phase := phase } := by
    unfold StarlinkTcpServer.setPhase
    rw [List.getElem?_modify_eq, htask]
    rfl
  constructor
  · have hsame : (s.setPhase i phase).saves.map SaveTask.parsed =
        s.saves.map SaveTask.parsed := map_modify_same fun _ _ => rfl
    rw [hsaves, hsame]
    exact h.chains
  · intro k
    rw [hsaves, hemitted, List.filter_append, h.announcements k]
    by_cases hk : k = i
    · subst hk
      have hall : added.filter (fun e => e.chain? == some k) = added :=
        List.filter_eq_self.mpr fun e he => beq_iff_eq.mpr (hadded e he)
      rw [hall, hself, htask]
      exact hannounced
    · have hnone : added.filter (fun e => e.chain? == some k) = [] := by
        refine List.filter_eq_nil_iff.mpr fun e he hc => ?_
        rw [hadded e he] at hc
        exact hk (Option.some.inj (eq_of_beq hc)).symm
      have hother : (s.setPhase i phase).saves[k]? = s.saves[k]? :=
        List.getElem?_modify_ne _ _ (fun hc => hk hc.symm)
      rw [hnone, List.append_nil, hother]

end Steps

/-!
## Runs
-/

section Runs

variable [DecidableEq Socket] {arrivals : List (Socket × Utf16)}
variable {s : StarlinkTcpServer Socket}

theorem chain_of_connectEmissions (socket : Socket) (deviceId : String)
    (now : Int) : forall e, e ∈ s.connectEmissions socket deviceId now ->
      e.chain? = none := by
  intro e he
  unfold StarlinkTcpServer.connectEmissions at he
  by_cases h : s.tcp.deviceId socket = some deviceId
  · rw [if_pos h] at he
    cases he
  · rw [if_neg h] at he
    rw [List.mem_singleton.mp he]
    rfl

theorem chain_of_closeEmissions (socket : Socket) (now : Int) :
    forall e, e ∈ s.closeEmissions socket now -> e.chain? = none := by
  intro e he
  unfold StarlinkTcpServer.closeEmissions at he
  cases hdevice : s.tcp.deviceId socket with
  | none =>
      rw [hdevice] at he
      cases he
  | some deviceId =>
      rw [hdevice] at he
      by_cases hempty : deviceId = ""
      · simp only [if_pos hempty] at he
        cases he
      · simp only [if_neg hempty] at he
        rw [List.mem_singleton.mp he]
        rfl

theorem Announced.handleLine (h : Announced tags arrivals s) (socket : Socket)
    (line : Utf16) (now : Int) :
    Announced tags (arrivals ++ [(socket, line)])
      (s.handleLine tags socket line now) := by
  cases hparse : parseFrame line tags with
  | error message =>
      rw [s.handleLine_error socket now hparse]
      refine h.arrive [] [] (List.append_nil _).symm ?_
        (fun _ ht => absurd ht List.not_mem_nil) (List.append_nil _).symm
        (fun _ he => absurd he List.not_mem_nil)
      unfold eventReport?
      rw [hparse]
      rfl
  | ok parsed =>
      rw [s.handleLine_ok socket now hparse]
      refine h.arrive _ _ rfl ?_ ?_ rfl
        (chain_of_connectEmissions socket _ now)
      · unfold eventReport? startedTasks
        rw [hparse]
        by_cases hreport : parsed.report.isSome = true
        · simp only [if_pos hreport]
          rfl
        · simp only [if_neg hreport]
          rfl
      · intro task htask
        unfold startedTasks at htask
        cases hreport : parsed.report with
        | none =>
            rw [hreport] at htask
            cases htask
        | some report =>
            rw [hreport] at htask
            rw [List.mem_singleton.mp htask]

omit [DecidableEq Socket] in
theorem exists_task_of_phaseOf {i : Nat} {phase : SavePhase}
    (h : s.phaseOf i = some phase) :
    exists task, s.saves[i]? = some task ∧ task.phase = phase :=
  Option.map_eq_some_iff.mp h

omit [DecidableEq Socket] in
theorem Announced.quiet (h : Announced tags arrivals s) {i : Nat}
    {old : SavePhase} (hold : s.phaseOf i = some old)
    (hquiet : old.announced = false) {s' : StarlinkTcpServer Socket}
    (phase : SavePhase) (hphase : phase.announced = false)
    (hsaves : s'.saves = (s.setPhase i phase).saves)
    (hemitted : s'.emitted = s.emitted) : Announced tags arrivals s' := by
  rcases exists_task_of_phaseOf hold with ⟨task, htask, hsame⟩
  refine h.advance htask phase [] hsaves
    (hemitted.trans (List.append_nil _).symm)
    (fun _ he => absurd he List.not_mem_nil) ?_
  unfold SaveTask.announced
  rw [hsame, hquiet, hphase]
  rfl

omit [DecidableEq Socket] in
theorem Announced.settleUpsert (h : Announced tags arrivals s) {i : Nat}
    (hphase : s.phaseOf i = some SavePhase.upserting) (accepted : Bool) :
    Announced tags arrivals (s.settleUpsert i accepted) := by
  unfold StarlinkTcpServer.settleUpsert
  cases s.saves[i]? with
  | none => exact h
  | some task =>
      dsimp only
      cases task.parsed.report with
      | none => exact h
      | some report =>
          cases accepted with
          | true =>
              exact h.quiet hphase rfl SavePhase.saving rfl rfl rfl
          | false => exact h.quiet hphase rfl _ rfl rfl rfl

omit [DecidableEq Socket] in
theorem Announced.settleSave (h : Announced tags arrivals s) {i : Nat}
    (hphase : s.phaseOf i = some SavePhase.saving) (accepted : Bool) :
    Announced tags arrivals (s.settleSave i accepted) := by
  unfold StarlinkTcpServer.settleSave
  cases s.saves[i]? with
  | none => exact h
  | some task =>
      dsimp only
      cases task.parsed.report with
      | none => exact h
      | some report =>
          cases accepted with
          | true =>
              exact h.quiet hphase rfl (SavePhase.settled SaveOutcome.row) rfl
                rfl rfl
          | false => exact h.quiet hphase rfl _ rfl rfl rfl

omit [DecidableEq Socket] in
theorem Announced.runThen (h : Announced tags arrivals s) {i : Nat}
    {outcome : SaveOutcome}
    (hphase : s.phaseOf i = some (SavePhase.settled outcome))
    (listenerThrows : Bool) :
    Announced tags arrivals (s.runThen i outcome listenerThrows) := by
  rcases exists_task_of_phaseOf hphase with ⟨task, htask, hsettled⟩
  unfold StarlinkTcpServer.runThen
  simp only [htask]
  cases outcome with
  | row =>
      refine h.advance htask (SavePhase.emitted SaveOutcome.row
        listenerThrows) _ rfl rfl ?_ ?_
      · intro e he
        unfold SaveTask.announcement at he
        cases hreport : task.parsed.report with
        | none =>
            rw [hreport] at he
            cases he
        | some report =>
            rw [hreport] at he
            rw [List.mem_singleton.mp he]
            rfl
      · unfold SaveTask.announced
        rw [hsettled]
        rfl
  | null => exact h.quiet hphase rfl _ rfl rfl rfl
  | rejected => exact h.quiet hphase rfl _ rfl rfl rfl

omit [DecidableEq Socket] in
theorem Announced.runCatch (h : Announced tags arrivals s) {i : Nat}
    {outcome : SaveOutcome} {failed : Bool}
    (hphase : s.phaseOf i = some (SavePhase.emitted outcome failed)) :
    Announced tags arrivals (s.setPhase i (SavePhase.finished outcome)) := by
  rcases exists_task_of_phaseOf hphase with ⟨task, htask, hemitted⟩
  refine h.advance htask _ [] rfl (List.append_nil _).symm
    (fun _ he => absurd he List.not_mem_nil) ?_
  unfold SaveTask.announced
  rw [hemitted, List.append_nil]
  cases outcome <;> rfl

theorem announced {trace : List (StarlinkEvent Socket Utf16)}
    (h : (lineHandling Socket tags).Legal trace) :
    Announced tags (trace.filterMap StarlinkEvent.received)
      ((lineHandling Socket tags).stateAfter trace) := by
  refine invariant ?_ ?_ h
  · exact ⟨rfl, fun _ => rfl⟩
  · intro trace e _ henabled ih
    have hidle : e.received = none -> trace.filterMap StarlinkEvent.received =
        (trace ++ [e]).filterMap StarlinkEvent.received := by
      intro hnone
      rw [List.filterMap_append, List.filterMap_cons_none hnone]
      exact (List.append_nil _).symm
    rw [stateAfter_snoc]
    cases e with
    | connect socket remoteAddress remotePort =>
        rw [← hidle rfl]
        exact ih.idle [] rfl (List.append_nil _).symm
          (fun _ he => absurd he List.not_mem_nil)
    | data socket line now =>
        rw [List.filterMap_append]
        exact ih.handleLine socket line now
    | close socket now =>
        rw [← hidle rfl]
        show Announced _ _ (StarlinkTcpServer.handleClose _ socket now)
        rw [StarlinkTcpServer.handleClose_eq]
        exact ih.idle _ rfl rfl (chain_of_closeEmissions socket now)
    | markSettled j accepted =>
        rw [← hidle rfl]
        show Announced _ _ (StarlinkTcpServer.settleMark _ j accepted)
        unfold StarlinkTcpServer.settleMark
        cases ((lineHandling Socket tags).stateAfter trace).marks[j]? with
        | none => exact ih
        | some mark => exact ⟨ih.chains, ih.announcements⟩
    | upsertSettled i accepted =>
        rw [← hidle rfl]
        exact ih.settleUpsert henabled accepted
    | saveSettled i accepted =>
        rw [← hidle rfl]
        exact ih.settleSave henabled accepted
    | thenRuns i outcome listenerThrows =>
        rw [← hidle rfl]
        exact ih.runThen henabled listenerThrows
    | catchRuns i outcome failed =>
        rw [← hidle rfl]
        exact ih.runCatch henabled

end Runs

/-!
## Lines behind the rows
-/

theorem trimUnits_trimUnits (text : Utf16) :
    trimUnits (trimUnits text) = trimUnits text := by
  let front := text.dropWhile isSpaceUnit
  have htrim : trimUnits text = front.rdropWhile isSpaceUnit := rfl
  have hfront : (front.rdropWhile isSpaceUnit).dropWhile isSpaceUnit =
      front.rdropWhile isSpaceUnit := by
    rw [List.dropWhile_eq_self_iff]
    intro hpos
    -- What is left begins as the text did behind its leading spaces.
    rcases List.rdropWhile_prefix isSpaceUnit front with ⟨rest, hrest⟩
    have hlength : 0 < front.length := by
      rw [← hrest, List.length_append]
      lia
    have hhead : (front.rdropWhile isSpaceUnit)[0] = front[0] := by
      apply Option.some.inj
      rw [← List.getElem?_eq_getElem, ← List.getElem?_eq_getElem,
        ← List.getElem?_append_left hpos, hrest]
    rw [hhead]
    exact List.dropWhile_get_zero_not isSpaceUnit text hlength
  have hagain : trimUnits (trimUnits text) =
      ((front.rdropWhile isSpaceUnit).dropWhile isSpaceUnit).rdropWhile
        isSpaceUnit := rfl
  rw [hagain, hfront, htrim]
  exact List.rdropWhile_idempotent isSpaceUnit front

theorem parseFrame_trimUnits (line : Utf16) (tags : List String) :
    parseFrame (trimUnits line) tags = parseFrame line tags := by
  unfold parseFrame
  rw [trimUnits_trimUnits]

theorem rawLine_of_parseFrame {line : Utf16} {parsed : ParsedStarlinkFrame}
    (h : parseFrame line tags = Except.ok parsed) :
    parsed.rawLine = trimUnits line := by
  rcases exists_text_of_parseFrame h with ⟨l, htext⟩
  rcases parseFrame_of_text htext with ⟨parsed', hparsed, _, _, hraw⟩
  rw [h] at hparsed
  rw [Except.ok.inj hparsed, hraw, htext]

theorem eventReport?_rawLine {line : Utf16} {parsed : ParsedStarlinkFrame}
    (h : eventReport? tags line = some parsed) :
    parseFrame parsed.rawLine tags = Except.ok parsed := by
  unfold eventReport? at h
  cases hparse : parseFrame line tags with
  | error message =>
      rw [hparse] at h
      cases h
  | ok found =>
      rw [hparse] at h
      rcases ite_eq_iff.mp h with ⟨_, hsame⟩ | ⟨_, hc⟩
      · rw [← Option.some.inj hsame, rawLine_of_parseFrame hparse,
          parseFrame_trimUnits, hparse]
      · cases hc

/-!
## Reports
-/

def SaveTask.savedRow (task : SaveTask) : Option StarlinkReport :=
  if task.phase.jobPhase = SaveJobPhase.saved then
    task.parsed.report.map (reportRow task.parsed)
  else none

/-- What the server has saved and announced, given the lines that arrived on its
sockets. -/
structure ReportsExact (tags : List String) (arrivals : List (Socket × Utf16))
    (s : StarlinkTcpServer Socket) : Prop where
  chains : s.saves.map SaveTask.parsed =
    arrivals.filterMap (fun arrival => eventReport? tags arrival.2)
  rows : forall (i : Nat) (row : StarlinkReport), (i, row) ∈ s.reports <->
    exists task, s.saves[i]? = some task ∧ task.savedRow = some row
  rows_once : (s.reports.map Prod.fst).Nodup
  announced : forall (i : Nat) (task : SaveTask), s.saves[i]? = some task ->
    s.emitted.filter (fun e => e.chain? == some i) =
      if task.phase.announced then
        task.savedRow.toList.map (fun row =>
          Emitted.reportReceived row.deviceId i row)
      else []
  nothing_else : forall e, e ∈ s.emitted -> forall i, e.chain? = some i ->
    i < s.saves.length
  replayed : forall (i : Nat) (row : StarlinkReport), (i, row) ∈ s.reports ->
    exists parsed, parseFrame row.rawLine tags = Except.ok parsed ∧
      parsed.report.map (reportRow parsed) = some row

section Reports

variable {arrivals : List (Socket × Utf16)} {s : StarlinkTcpServer Socket}

theorem savedRow_iff (h : SaveStore.RowsSaved starlinkStore s.store) (i : Nat)
    (row : StarlinkReport) : (i, row) ∈ s.reports <->
      exists task, s.saves[i]? = some task ∧ task.savedRow = some row := by
  refine (h.rows i row).trans ?_
  have hjob : s.store.saves[i]? = (s.saves[i]?).map SaveTask.job :=
    List.getElem?_map
  rw [hjob]
  cases s.saves[i]? with
  | none => simp
  | some task =>
      simp only [Option.map_some, Option.some.injEq, SaveTask.job,
        SaveJob.mk.injEq, saveReport, SaveTask.savedRow, exists_eq_left']
      cases task.parsed.report with
      | none => simp
      | some report => simp [and_comm]

theorem SavePhase.jobPhase_of_announced {phase : SavePhase}
    (h : phase.announced = true) : phase.jobPhase = SaveJobPhase.saved := by
  cases phase with
  | upserting => cases h
  | saving => cases h
  | settled outcome => cases h
  | emitted outcome failed =>
      cases outcome with
      | row => rfl
      | null => cases h
      | rejected => cases h
  | finished outcome =>
      cases outcome with
      | row => rfl
      | null => cases h
      | rejected => cases h

theorem announced_eq {i : Nat} {task : SaveTask} :
    task.announced i = if task.phase.announced then
      task.savedRow.toList.map (fun row =>
        Emitted.reportReceived row.deviceId i row) else [] := by
  unfold SaveTask.announced
  by_cases hannounced : task.phase.announced = true
  · rw [if_pos hannounced, if_pos hannounced]
    unfold SaveTask.savedRow SaveTask.announcement
    rw [if_pos (SavePhase.jobPhase_of_announced hannounced)]
    cases task.parsed.report <;> rfl
  · rw [if_neg hannounced, if_neg hannounced]

theorem Announced.reportsExact (h : Announced tags arrivals s)
    (hrows : SaveStore.RowsSaved starlinkStore s.store) :
    ReportsExact tags arrivals s := by
  refine ⟨h.chains, savedRow_iff hrows, hrows.rows_once, ?_, ?_, ?_⟩
  · intro i task htask
    rw [h.announcements i, htask, ← announced_eq]
    rfl
  · intro e he i hchain
    by_contra hout
    have hnone := h.announcements i
    rw [List.getElem?_eq_none (Nat.not_lt.mp hout)] at hnone
    exact List.filter_eq_nil_iff.mp hnone e he (beq_iff_eq.mpr hchain)
  · intro i row hrow
    rcases (savedRow_iff hrows i row).mp hrow with ⟨task, htask, hsaved⟩
    have hparsed : task.parsed ∈ s.saves.map SaveTask.parsed :=
      List.mem_map.mpr ⟨task, List.mem_of_getElem? htask, rfl⟩
    rw [h.chains] at hparsed
    rcases List.mem_filterMap.mp hparsed with ⟨arrival, _, hreport⟩
    rcases ite_eq_iff.mp hsaved with ⟨_, hrow⟩ | ⟨_, hc⟩
    · rcases Option.map_eq_some_iff.mp hrow with ⟨report, _, hsame⟩
      refine ⟨task.parsed, ?_, hrow⟩
      rw [← hsame]
      exact eventReport?_rawLine hreport
    · cases hc

/-- Every run is one on lines, and these account for what is saved and
announced. -/
theorem reportsExact [DecidableEq Socket] {maxBufferBytes : Nat}
    {history : List (StarlinkEvent Socket Bytes)}
    (h : (starlinkTcpServer Socket maxBufferBytes tags).Legal history) :
    ReportsExact tags (deliveredLines maxBufferBytes
        (history.filterMap StarlinkEvent.received))
      ((starlinkTcpServer Socket maxBufferBytes tags).stateAfter history) := by
  rcases exists_line_run h with ⟨trace, hlegal, hstate, hlines, _⟩
  have hannounced := announced hlegal
  rw [hstate, hlines] at hannounced
  exact Announced.reportsExact
    ⟨hannounced.chains, hannounced.announcements⟩ (accounted_store h).rows

/-- The sockets deliver their lines in the order of the chunks that complete
them, each socket those of its own stream.  Their event reports, in this order,
are what is saved: each by its own chain at most once, announced by it once as it
was saved, and computable from the line it holds. -/
theorem starlinkReports_exact [DecidableEq Socket] {maxBufferBytes : Nat}
    (run : (starlinkTcpServer Socket maxBufferBytes tags).Run) :
    let arrivals := deliveredLines maxBufferBytes
      (run.history.filterMap StarlinkEvent.received)
    (forall socket, ofSession socket arrivals =
      linesOfChunks maxBufferBytes (ofSession socket
        (run.history.filterMap StarlinkEvent.received))) ∧
    ReportsExact tags arrivals ((starlinkTcpServer Socket maxBufferBytes
      tags).stateAfter run.history) :=
  ⟨ofSession_deliveredLines maxBufferBytes _, reportsExact run.legal⟩

theorem ReportsExact.exists_report {arrivals : List (Socket × Utf16)}
    {s : StarlinkTcpServer Socket} (h : ReportsExact tags arrivals s) {i : Nat}
    {task : SaveTask} (htask : s.saves[i]? = some task) :
    exists report, task.parsed.report = some report := by
  have hmem : task.parsed ∈ s.saves.map SaveTask.parsed :=
    List.mem_map_of_mem (List.mem_of_getElem? htask)
  rw [h.chains] at hmem
  rcases List.mem_filterMap.mp hmem with ⟨arrival, _, hreport⟩
  unfold eventReport? at hreport
  cases hparse : parseFrame arrival.2 tags with
  | error message =>
      rw [hparse] at hreport
      cases hreport
  | ok parsed =>
      simp only [hparse] at hreport
      rcases ite_eq_iff.mp hreport with ⟨hsome, hsame⟩ | ⟨_, hnone⟩
      · rw [← Option.some.inj hsame]
        exact Option.isSome_iff_exists.mp hsome
      · cases hnone

theorem ReportsExact.count_chain {arrivals : List (Socket × Utf16)}
    {s : StarlinkTcpServer Socket} (h : ReportsExact tags arrivals s)
    (i : Nat) : (s.emitted.filterMap Emitted.chain?).count i =
      if (s.saves[i]?).any (fun task => task.phase.announced) then 1
      else 0 := by
  rw [List.count_filterMap, List.countP_eq_length_filter]
  cases htask : s.saves[i]? with
  | none =>
      rw [List.filter_eq_nil_iff.mpr]
      · rfl
      · intro e he hchain
        have hlt := h.nothing_else e he i (beq_iff_eq.mp hchain)
        rw [List.getElem?_eq_some_iff.mpr ⟨hlt, rfl⟩] at htask
        cases htask
  | some task =>
      rw [h.announced i task htask]
      show _ = if task.phase.announced = true then 1 else 0
      by_cases hannounced : task.phase.announced = true
      · rcases h.exists_report htask with ⟨report, hreport⟩
        rw [if_pos hannounced, if_pos hannounced, List.length_map]
        unfold SaveTask.savedRow
        rw [if_pos (SavePhase.jobPhase_of_announced hannounced), hreport]
        rfl
      · rw [if_neg hannounced, if_neg hannounced]
        rfl

theorem ReportsExact.mem_reports {arrivals : List (Socket × Utf16)}
    {s : StarlinkTcpServer Socket} (h : ReportsExact tags arrivals s)
    {deviceId : String} {i : Nat} {saved : StarlinkReport}
    (he : Emitted.reportReceived deviceId i saved ∈ s.emitted) :
    (i, saved) ∈ s.reports ∧ saved.deviceId = deviceId := by
  rcases List.getElem?_eq_some_iff.mpr ⟨h.nothing_else _ he i rfl, rfl⟩ with
    htask
  have hmem : Emitted.reportReceived deviceId i saved ∈
      s.emitted.filter (fun e => e.chain? == some i) :=
    List.mem_filter.mpr ⟨he, beq_self_eq_true _⟩
  rw [h.announced i _ htask] at hmem
  rcases List.mem_ite_nil_right.mp hmem with ⟨_, hmem⟩
  rcases List.mem_map.mp hmem with ⟨row, hrow, hsame⟩
  rcases Emitted.reportReceived.inj hsame with ⟨hdevice, _, rfl⟩
  exact ⟨(h.rows i row).mpr ⟨_, htask, Option.mem_toList.mp hrow⟩, hdevice⟩

end Reports

end Starlink
end AvtTracker
