import AvtTracker.Tracker.FrameHandling

/-!
# Replies and announcements

The server answers heartbeats at once, and acknowledges and announces reports
when their promise chains get there.  This module accounts for every frame it
writes and every report it announces, whatever the order in which the chains
run and however they end.
-/

namespace AvtTracker
namespace Tracker

open Foundation Tcp EventSystem

/-!
## Serial numbers
-/

def serialBytes (frame : Bytes) : Bytes :=
  let bytes := if frame.getLast? = some 0x23 then frame.dropLast else frame
  bytes.drop (bytes.length - 2)

theorem binarySection_eq (frame : Bytes) (headTokenLength : Nat) :
    binarySection frame headTokenLength =
      (if frame.getLast? = some 0x23 then frame.dropLast else frame).drop
        headTokenLength := by
  unfold binarySection
  by_cases h : frame.getLast? = some 0x23
  · rw [if_pos h, if_pos h, List.dropLast_eq_take]
  · rw [if_neg h, if_neg h]
    simp only [List.take_length]

theorem serialBytes_of_envelopeAt {frame : Bytes} {colonIndex : Nat}
    (h : EnvelopeAt frame colonIndex) :
    ((binarySection frame (colonIndex + 1)).drop
        ((binarySection frame (colonIndex + 1)).length - 2)).take 2 =
      serialBytes frame ∧ (serialBytes frame).length = 2 := by
  have hfixed := h.right.right
  rw [binarySection_eq] at hfixed ⊢
  unfold serialBytes
  generalize (if frame.getLast? = some 0x23 then frame.dropLast else frame) =
    bytes at hfixed ⊢
  rw [List.length_drop] at hfixed
  have hoffset : colonIndex + 1 + ((bytes.drop (colonIndex + 1)).length - 2) =
      bytes.length - 2 := by
    rw [List.length_drop]
    lia
  have hlength : (bytes.drop (bytes.length - 2)).length = 2 := by
    rw [List.length_drop]
    lia
  refine ⟨?_, hlength⟩
  rw [List.drop_drop, hoffset, List.take_of_length_le (Nat.le_of_eq hlength)]

theorem serialNumberHex_of_parseFrame {frame : Bytes}
    {parsed : ParsedTrackerFrame} (h : parseFrame frame = Except.ok parsed) :
    parsed.header.serialNumberHex = toHex (serialBytes frame) := by
  rcases exists_envelopeAt_of_parseFrame h with ⟨colonIndex, henvelope⟩
  rw [parseFrame_header h henvelope]
  show toHex _ = _
  rw [(serialBytes_of_envelopeAt henvelope).left]

/-- The text of a serial number: four upper-case hexadecimal digits. -/
theorem serialNumberHex_digits {frame : Bytes} {parsed : ParsedTrackerFrame}
    (h : parseFrame frame = Except.ok parsed) :
    (toHex (serialBytes frame)).toList.length = 4 ∧
      forall c, c ∈ (toHex (serialBytes frame)).toList ->
        c ∈ "0123456789ABCDEF".toList := by
  rcases exists_envelopeAt_of_parseFrame h with ⟨colonIndex, henvelope⟩
  unfold toHex
  rw [String.toList_ofList, hexChars_length,
    (serialBytes_of_envelopeAt henvelope).right]
  exact ⟨rfl, fun c => mem_hexChars⟩

/-!
## Frames received
-/

def isReportFrame (frame : Bytes) : Bool :=
  match parseFrame frame with
  | Except.ok parsed => decide parsed.IsReport
  | Except.error _ => false

def isHeartbeatFrame (frame : Bytes) : Bool :=
  match parseFrame frame with
  | Except.ok parsed => decide parsed.IsHeartbeat
  | Except.error _ => false

variable {Socket : Type}

def TrackerEvent.frame : TrackerEvent Socket -> Option (Socket × Bytes)
  | TrackerEvent.data socket frame _ => some (socket, frame)
  | _ => none

def receivedFrames (history : List (TrackerEvent Socket)) :
    List (Socket × Bytes) :=
  history.filterMap TrackerEvent.frame

/-- The heartbeats received so far, on all sockets. -/
def receivedHeartbeats (history : List (TrackerEvent Socket)) :
    List (Socket × Bytes) :=
  (receivedFrames history).filter (fun received => isHeartbeatFrame received.2)

def receivedReports (history : List (TrackerEvent Socket)) :
    List (Socket × Bytes) :=
  (receivedFrames history).filter (fun received => isReportFrame received.2)

def shbdReply (received : Socket × Bytes) : Write Socket where
  socket := received.1
  text := "+SHBD:" ++ toHex (serialBytes received.2) ++ "#"

def sackReply (i : Nat) (received : Socket × Bytes) : Write Socket where
  socket := received.1
  text := "+SACK:" ++ toHex (serialBytes received.2) ++ "#"
  acknowledges := some i

theorem receivedFrames_snoc (history : List (TrackerEvent Socket))
    (e : TrackerEvent Socket) :
    receivedFrames (history ++ [e]) =
      receivedFrames history ++ e.frame.toList := by
  unfold receivedFrames
  rw [List.filterMap_append]
  cases h : e.frame <;> simp [h]

/-!
## What a chain has written and announced
-/

/-- The report was announced if its row went through {lit}`then`. -/
def SavePhase.announced : SavePhase -> Bool
  | emitted SaveOutcome.row _ => true
  | caught SaveOutcome.row => true
  | finished SaveOutcome.row => true
  | _ => false

def SavePhase.isFinished : SavePhase -> Bool
  | finished _ => true
  | _ => false

def SaveTask.replies (i : Nat) (task : SaveTask Socket) :
    List (Write Socket) :=
  if task.phase.isFinished then
    [{ socket := task.socket
       text := sackText task.parsed.header
       acknowledges := some i }]
  else []

def SaveTask.origin (task : SaveTask Socket) :
    Socket × Except String ParsedTrackerFrame :=
  (task.socket, Except.ok task.parsed)

def SaveTask.announcements (task : SaveTask Socket) : Nat :=
  if task.phase.announced then 1 else 0

/-- {lit}`saveReport` returned a row. -/
def SaveTask.returnedRow (task : SaveTask Socket) : Bool :=
  task.phase.outcome? == some SaveOutcome.row

/-- Writes and announcements are those of the frames received and of the chains
they started. -/
structure Replied (history : List (TrackerEvent Socket))
    (s : TrackerTcpServer Socket) : Prop where
  heartbeats : s.writes.filter (fun w => w.acknowledges.isNone) =
    (receivedHeartbeats history).map shbdReply
  chains : s.saves.map SaveTask.origin =
    (receivedReports history).map (fun received =>
      (received.1, parseFrame received.2))
  acknowledgements : forall i : Nat,
    s.writes.filter (fun w => w.acknowledges == some i) =
      (s.saves[i]?).elim [] (SaveTask.replies i)
  announcements : forall i : Nat, s.emitted.count (Emitted.reportReceived i) =
    (s.saves[i]?).elim 0 SaveTask.announcements
  returned : forall i : Nat,
    (s.saves[i]?).elim false SaveTask.returnedRow = true <->
      TrackerEvent.saveSettled i true ∈ history
  unsettled : forall (i : Nat) (task : SaveTask Socket),
    s.saves[i]? = some task -> task.phase.outcome? = none -> exists report,
      task.parsed.report = some report

theorem Replied.idle {history : List (TrackerEvent Socket)}
    {s s' : TrackerTcpServer Socket} {e : TrackerEvent Socket}
    {announced : List Emitted} (h : Replied history s)
    (hframe : e.frame = none)
    (hevent : forall i, e ≠ TrackerEvent.saveSettled i true)
    (hsaves : s'.saves = s.saves) (hwrites : s'.writes = s.writes)
    (hemitted : s'.emitted = s.emitted ++ announced)
    (hannounced : forall i, Emitted.reportReceived i ∉ announced) :
    Replied (history ++ [e]) s' := by
  have hreceived : receivedFrames (history ++ [e]) = receivedFrames history := by
    rw [receivedFrames_snoc, hframe]
    exact List.append_nil _
  constructor
  · unfold receivedHeartbeats
    rw [hwrites, hreceived]
    exact h.heartbeats
  · unfold receivedReports
    rw [hsaves, hreceived]
    exact h.chains
  · intro i
    rw [hwrites, hsaves]
    exact h.acknowledgements i
  · intro i
    rw [hemitted, hsaves, List.count_append,
      List.count_eq_zero.mpr (hannounced i)]
    exact h.announcements i
  · intro i
    rw [hsaves, h.returned i, List.mem_append, List.mem_singleton]
    exact (or_iff_left (fun hc => hevent i hc.symm)).symm
  · intro i task htask
    rw [hsaves] at htask
    exact h.unsettled i task htask

/-!
Writes that acknowledge the same chain are counted together, or not at all.
-/

section Counting

variable {i k : Nat}

theorem filter_acknowledges {replies : List (Write Socket)}
    {target : Option Nat}
    (h : forall w, w ∈ replies -> w.acknowledges = target)
    (counted : Option Nat -> Bool) :
    replies.filter (fun w => counted w.acknowledges) =
      if counted target = true then replies else [] := by
  cases hcounted : counted target with
  | true =>
      rw [if_pos rfl, List.filter_eq_self]
      intro w hw
      rw [h w hw]
      exact hcounted
  | false =>
      rw [if_neg Bool.false_ne_true, List.filter_eq_nil_iff]
      intro w hw
      rw [h w hw, hcounted]
      exact Bool.false_ne_true

theorem count_reportReceived {announced : List Emitted}
    (h : forall x, x ∈ announced -> x = Emitted.reportReceived i) (k : Nat) :
    announced.count (Emitted.reportReceived k) =
      if k = i then announced.length else 0 := by
  by_cases hk : k = i
  · rw [if_pos hk, hk]
    exact List.count_eq_length.mpr (fun x hx => (h x hx).symm)
  · rw [if_neg hk, List.count_eq_zero]
    intro hmem
    exact hk (Emitted.reportReceived.inj (h _ hmem))

theorem origins_of_others {saves saves' : List (SaveTask Socket)}
    {task : SaveTask Socket} {phase : SavePhase} (htask : saves[i]? = some task)
    (hself : saves'[i]? = some { task with phase := phase })
    (hothers : forall k, k ≠ i -> saves'[k]? = saves[k]?) :
    saves'.map SaveTask.origin = saves.map SaveTask.origin := by
  apply List.ext_getElem?
  intro k
  rw [List.getElem?_map, List.getElem?_map]
  by_cases hk : k = i
  · rw [hk, hself, htask]
    rfl
  · rw [hothers k hk]

end Counting

theorem Replied.advance {history : List (TrackerEvent Socket)}
    {s s' : TrackerTcpServer Socket} {e : TrackerEvent Socket}
    {i : Nat} {task : SaveTask Socket} {phase : SavePhase}
    {replies : List (Write Socket)} {announced : List Emitted}
    (h : Replied history s) (htask : s.saves[i]? = some task)
    (hframe : e.frame = none)
    (hsaves : s'.saves = (s.setPhase i phase).saves)
    (hwrites : s'.writes = s.writes ++ replies)
    (hreplies : forall w, w ∈ replies -> w.acknowledges = some i)
    (hreplied : task.replies i ++ replies =
      SaveTask.replies i { task with phase := phase })
    (hemitted : s'.emitted = s.emitted ++ announced)
    (hannounced : forall x, x ∈ announced -> x = Emitted.reportReceived i)
    (hcount : task.announcements + announced.length =
      SaveTask.announcements { task with phase := phase })
    (hevent : forall k, e = TrackerEvent.saveSettled k true -> k = i)
    (hreturned : phase.outcome? = some SaveOutcome.row <->
      task.returnedRow = true ∨ e = TrackerEvent.saveSettled i true)
    (hunsettled : phase.outcome? = none -> exists report,
      task.parsed.report = some report) :
    Replied (history ++ [e]) s' := by
  have hreceived : receivedFrames (history ++ [e]) = receivedFrames history := by
    rw [receivedFrames_snoc, hframe]
    exact List.append_nil _
  have hself : s'.saves[i]? = some { task with phase := phase } := by
    rw [hsaves, TrackerTcpServer.getElem?_setPhase_self htask]
  have hothers : forall k, k ≠ i -> s'.saves[k]? = s.saves[k]? := by
    intro k hk
    rw [hsaves, TrackerTcpServer.getElem?_setPhase_of_ne hk]
  constructor
  · unfold receivedHeartbeats
    rw [hwrites, hreceived, List.filter_append,
      filter_acknowledges hreplies Option.isNone]
    exact (List.append_nil _).trans h.heartbeats
  · unfold receivedReports
    rw [origins_of_others htask hself hothers, hreceived]
    exact h.chains
  · intro k
    rw [hwrites, List.filter_append, h.acknowledgements k,
      filter_acknowledges hreplies (fun target => target == some k)]
    by_cases hk : k = i
    · rw [hk, htask, hself, if_pos (beq_self_eq_true _)]
      exact hreplied
    · rw [hothers k hk, if_neg, List.append_nil]
      intro hc
      exact hk (Option.some.inj (eq_of_beq hc)).symm
  · intro k
    rw [hemitted, List.count_append, h.announcements k,
      count_reportReceived hannounced k]
    by_cases hk : k = i
    · rw [if_pos hk, hk, htask, hself]
      exact hcount
    · rw [if_neg hk, hothers k hk, Nat.add_zero]
  · intro k
    rw [List.mem_append, List.mem_singleton, ← h.returned k]
    by_cases hk : k = i
    · rw [hk, hself, htask]
      exact beq_iff_eq.trans (hreturned.trans (or_congr_right eq_comm))
    · rw [hothers k hk]
      exact (or_iff_left (fun hc => hk (hevent k hc.symm))).symm
  · intro k other hother
    by_cases hk : k = i
    · rw [hk, hself] at hother
      rw [← Option.some.inj hother]
      exact hunsettled
    · rw [hothers k hk] at hother
      exact h.unsettled k other hother

/-!
## Frames
-/

theorem fresh_startedTasks {socket : Socket} {parsed : ParsedTrackerFrame}
    {now : Int} {task : SaveTask Socket}
    (h : task ∈ startedTasks socket parsed now) :
    task.phase.isFinished = false ∧ task.phase.announced = false ∧
      task.returnedRow = false ∧
      (task.phase.outcome? = none -> exists report,
        task.parsed.report = some report) := by
  unfold startedTasks at h
  by_cases hreport : parsed.IsReport
  · rw [if_pos hreport] at h
    rw [List.mem_singleton.mp h]
    cases hpayload : parsed.report with
    | none => exact ⟨rfl, rfl, rfl, fun hnone => nomatch hnone⟩
    | some report => exact ⟨rfl, rfl, rfl, fun _ => ⟨report, rfl⟩⟩
  · rw [if_neg hreport] at h
    cases h

theorem elim_getElem?_append {α β : Type} (xs : List α) {more : List α}
    {f : α -> β} {b : β} (h : forall a, a ∈ more -> f a = b) (i : Nat) :
    ((xs ++ more)[i]?).elim b f = (xs[i]?).elim b f := by
  by_cases hi : i < xs.length
  · rw [List.getElem?_append_left hi]
  · rw [List.getElem?_append_right (Nat.not_lt.mp hi),
      List.getElem?_eq_none (Nat.not_lt.mp hi)]
    cases hmore : more[i - xs.length]? with
    | none => rfl
    | some a => exact h a (List.mem_of_getElem? hmore)

section Frames

variable {history : List (TrackerEvent Socket)} {s : TrackerTcpServer Socket}
variable {socket : Socket} {frame : Bytes} {now : Int}

/-!
What a frame adds to the frames received, and what handling it adds to the
server.
-/

theorem receivedHeartbeats_data (received : Socket × Bytes) :
    receivedHeartbeats
        (history ++ [TrackerEvent.data received.1 received.2 now]) =
      receivedHeartbeats history ++
        [received].filter (fun received => isHeartbeatFrame received.2) := by
  unfold receivedHeartbeats
  rw [receivedFrames_snoc, List.filter_append]
  rfl

theorem receivedReports_data (received : Socket × Bytes) :
    receivedReports
        (history ++ [TrackerEvent.data received.1 received.2 now]) =
      receivedReports history ++
        [received].filter (fun received => isReportFrame received.2) := by
  unfold receivedReports
  rw [receivedFrames_snoc, List.filter_append]
  rfl

theorem saveSettled_mem_data {i : Nat} :
    TrackerEvent.saveSettled i true ∈
        history ++ [TrackerEvent.data socket frame now] <->
      TrackerEvent.saveSettled i true ∈ history := by
  rw [List.mem_append, List.mem_singleton]
  exact or_iff_left (fun hc => nomatch hc)

theorem heartbeatReplies_eq {parsed : ParsedTrackerFrame}
    (hparse : parseFrame frame = Except.ok parsed) :
    heartbeatReplies socket parsed =
      ([(socket, frame)].filter (fun received =>
        isHeartbeatFrame received.2)).map shbdReply := by
  unfold heartbeatReplies isHeartbeatFrame
  simp only [List.filter_cons, hparse, List.filter_nil]
  by_cases hheartbeat : parsed.IsHeartbeat
  · simp [hheartbeat, shbdReply, shbdText,
      serialNumberHex_of_parseFrame hparse]
  · simp [hheartbeat]

theorem acknowledges_heartbeatReplies {parsed : ParsedTrackerFrame}
    {w : Write Socket} (h : w ∈ heartbeatReplies socket parsed) :
    w.acknowledges = none := by
  unfold heartbeatReplies at h
  by_cases hheartbeat : parsed.IsHeartbeat
  · rw [if_pos hheartbeat] at h
    rw [List.mem_singleton.mp h]
  · rw [if_neg hheartbeat] at h
    cases h

theorem startedTasks_origins {parsed : ParsedTrackerFrame}
    (hparse : parseFrame frame = Except.ok parsed) :
    (startedTasks socket parsed now).map SaveTask.origin =
      ([(socket, frame)].filter (fun received =>
        isReportFrame received.2)).map (fun received =>
          (received.1, parseFrame received.2)) := by
  unfold startedTasks isReportFrame
  simp only [List.filter_cons, hparse, List.filter_nil]
  by_cases hreport : parsed.IsReport
  · simp [hreport, SaveTask.origin, hparse]
  · simp [hreport]

variable [DecidableEq Socket]

theorem reportReceived_notMem_connectEmissions (imei : String) (i : Nat) :
    Emitted.reportReceived i ∉ s.connectEmissions socket imei := by
  unfold TrackerTcpServer.connectEmissions
  by_cases hsame : s.tcp.deviceId socket = some imei
  · simp [hsame]
  · simp [hsame]

theorem Replied.handleFrame_error {message : String} (h : Replied history s)
    (hparse : parseFrame frame = Except.error message) :
    Replied (history ++ [TrackerEvent.data socket frame now])
      (s.handleFrame socket frame now) := by
  have hheartbeat : [(socket, frame)].filter
      (fun received => isHeartbeatFrame received.2) = [] := by
    simp [isHeartbeatFrame, hparse]
  have hreport : [(socket, frame)].filter
      (fun received => isReportFrame received.2) = [] := by
    simp [isReportFrame, hparse]
  rw [s.handleFrame_error socket now hparse]
  refine ⟨?_, ?_, h.acknowledgements, h.announcements, ?_, h.unsettled⟩
  · rw [receivedHeartbeats_data (socket, frame), hheartbeat, List.append_nil]
    exact h.heartbeats
  · rw [receivedReports_data (socket, frame), hreport, List.append_nil]
    exact h.chains
  · intro i
    rw [saveSettled_mem_data]
    exact h.returned i

theorem Replied.handleFrame_ok {parsed : ParsedTrackerFrame}
    (h : Replied history s) (hparse : parseFrame frame = Except.ok parsed) :
    Replied (history ++ [TrackerEvent.data socket frame now])
      (s.handleFrame socket frame now) := by
  have hfresh : forall task, task ∈ startedTasks socket parsed now -> _ :=
    fun task htask => fresh_startedTasks htask
  have hreplies : forall w, w ∈ heartbeatReplies socket parsed ->
      w.acknowledges = none := fun w hw => acknowledges_heartbeatReplies hw
  rw [s.handleFrame_ok socket now hparse]
  constructor
  · rw [receivedHeartbeats_data (socket, frame), List.filter_append,
      filter_acknowledges hreplies Option.isNone, if_pos Option.isNone_none,
      heartbeatReplies_eq hparse, List.map_append]
    exact congrArg (· ++ _) h.heartbeats
  · rw [receivedReports_data (socket, frame), List.map_append, List.map_append,
      startedTasks_origins hparse]
    exact congrArg (· ++ _) h.chains
  · intro i
    have hkept := elim_getElem?_append s.saves
      (fun task htask => show SaveTask.replies i task = [] by
        unfold SaveTask.replies
        rw [(hfresh task htask).left]
        rfl) i
    rw [List.filter_append,
      filter_acknowledges hreplies (fun target => target == some i), hkept]
    exact (List.append_nil _).trans (h.acknowledgements i)
  · intro i
    have hkept := elim_getElem?_append s.saves
      (fun task htask => show SaveTask.announcements task = 0 by
        unfold SaveTask.announcements
        rw [(hfresh task htask).right.left]
        rfl) i
    rw [List.count_append, List.count_eq_zero.mpr
      (reportReceived_notMem_connectEmissions parsed.header.imei i),
      Nat.add_zero, hkept]
    exact h.announcements i
  · intro i
    have hkept := elim_getElem?_append s.saves
      (fun task htask => (hfresh task htask).right.right.left) i
    rw [hkept, saveSettled_mem_data]
    exact h.returned i
  · intro i task htask
    by_cases hi : i < s.saves.length
    · rw [List.getElem?_append_left hi] at htask
      exact h.unsettled i task htask
    · rw [List.getElem?_append_right (Nat.not_lt.mp hi)] at htask
      exact (hfresh task (List.mem_of_getElem? htask)).right.right.right

theorem Replied.handleFrame (h : Replied history s) :
    Replied (history ++ [TrackerEvent.data socket frame now])
      (s.handleFrame socket frame now) := by
  cases hparse : parseFrame frame with
  | error message => exact h.handleFrame_error hparse
  | ok parsed => exact h.handleFrame_ok hparse

end Frames

/-!
## Chains
-/

section Chains

variable {history : List (TrackerEvent Socket)}
variable {s : TrackerTcpServer Socket} {i : Nat}

theorem Replied.advance_quiet {s' : TrackerTcpServer Socket}
    {e : TrackerEvent Socket} {task : SaveTask Socket} {phase : SavePhase}
    (h : Replied history s) (htask : s.saves[i]? = some task)
    (hframe : e.frame = none)
    (hevent : forall k, e ≠ TrackerEvent.saveSettled k true)
    (hsaves : s'.saves = (s.setPhase i phase).saves)
    (hwrites : s'.writes = s.writes) (hemitted : s'.emitted = s.emitted)
    (hfinished : phase.isFinished = task.phase.isFinished)
    (hannounced : phase.announced = task.phase.announced)
    (hreturned : phase.outcome? = some SaveOutcome.row <->
      task.phase.outcome? = some SaveOutcome.row)
    (hunsettled : phase.outcome? = none -> exists report,
      task.parsed.report = some report) :
    Replied (history ++ [e]) s' := by
  have hnothing : forall x, x ∈ ([] : List Emitted) ->
      x = Emitted.reportReceived i := fun _ hx => nomatch hx
  refine h.advance htask hframe hsaves
    (hwrites.trans (List.append_nil _).symm) (fun _ hw => nomatch hw) ?_
    (hemitted.trans (List.append_nil _).symm) hnothing ?_
    (fun k hk => absurd hk (hevent k)) ?_ hunsettled
  · unfold SaveTask.replies
    rw [List.append_nil, hfinished]
  · unfold SaveTask.announcements
    rw [List.length_nil, Nat.add_zero, hannounced]
  · rw [hreturned, or_iff_left (hevent i)]
    exact beq_iff_eq.symm

theorem Replied.settleUpsert {accepted : Bool} (h : Replied history s)
    (hphase : s.phaseOf i = some SavePhase.upserting) :
    Replied (history ++ [TrackerEvent.upsertSettled i accepted])
      (s.settleUpsert i accepted) := by
  rcases Option.map_eq_some_iff.mp hphase with
    ⟨⟨socket, parsed, startedAt, _⟩, htask, rfl⟩
  rcases h.unsettled i _ htask rfl with ⟨report, hreport⟩
  have hreport' : parsed.report = some report := hreport
  unfold TrackerTcpServer.settleUpsert
  simp only [htask, hreport']
  cases accepted with
  | true =>
      exact h.advance_quiet htask rfl (by simp) rfl rfl rfl rfl rfl Iff.rfl
        (fun _ => ⟨report, hreport⟩)
  | false =>
      refine h.advance_quiet htask rfl (by simp) rfl rfl rfl rfl rfl ?_
        (fun hnone => nomatch hnone)
      simp [SavePhase.outcome?]

theorem Replied.settleSave {accepted : Bool} (h : Replied history s)
    (hphase : s.phaseOf i = some SavePhase.saving) :
    Replied (history ++ [TrackerEvent.saveSettled i accepted])
      (s.settleSave i accepted) := by
  rcases Option.map_eq_some_iff.mp hphase with
    ⟨⟨socket, parsed, startedAt, _⟩, htask, rfl⟩
  rcases h.unsettled i _ htask rfl with ⟨report, hreport⟩
  have hreport' : parsed.report = some report := hreport
  unfold TrackerTcpServer.settleSave
  simp only [htask, hreport']
  cases accepted with
  | true =>
      refine h.advance htask rfl rfl (List.append_nil _).symm
        (fun _ hw => nomatch hw) rfl (List.append_nil _).symm
        (fun _ hx => nomatch hx) rfl ?_ ?_ (fun hnone => nomatch hnone)
      · intro k hk
        exact (TrackerEvent.saveSettled.inj hk).left.symm
      · exact iff_of_true rfl (Or.inr rfl)
  | false =>
      refine h.advance_quiet htask rfl (by simp) rfl rfl rfl rfl rfl ?_
        (fun hnone => nomatch hnone)
      simp [SavePhase.outcome?]

theorem Replied.runThen {outcome : SaveOutcome} {listenerThrows : Bool}
    (h : Replied history s)
    (hphase : s.phaseOf i = some (SavePhase.settled outcome)) :
    Replied (history ++ [TrackerEvent.thenRuns i outcome listenerThrows])
      (s.runThen i outcome listenerThrows) := by
  rcases Option.map_eq_some_iff.mp hphase with
    ⟨⟨socket, parsed, startedAt, _⟩, htask, rfl⟩
  unfold TrackerTcpServer.runThen
  cases outcome with
  | row =>
      refine h.advance htask rfl rfl (List.append_nil _).symm
        (fun _ hw => nomatch hw) rfl rfl ?_ rfl ?_ ?_
        (fun hnone => nomatch hnone)
      · intro x hx
        exact List.mem_singleton.mp hx
      · intro k hk
        cases hk
      · exact iff_of_true rfl (Or.inl rfl)
  | null =>
      exact h.advance_quiet htask rfl (by simp) rfl rfl rfl rfl rfl Iff.rfl
        (fun hnone => nomatch hnone)
  | rejected =>
      exact h.advance_quiet htask rfl (by simp) rfl rfl rfl rfl rfl Iff.rfl
        (fun hnone => nomatch hnone)

theorem Replied.runCatch {outcome : SaveOutcome} {failed : Bool}
    (h : Replied history s)
    (hphase : s.phaseOf i = some (SavePhase.emitted outcome failed)) :
    Replied (history ++ [TrackerEvent.catchRuns i outcome failed])
      (s.setPhase i (SavePhase.caught outcome)) := by
  rcases Option.map_eq_some_iff.mp hphase with
    ⟨⟨socket, parsed, startedAt, _⟩, htask, rfl⟩
  refine h.advance_quiet htask rfl (by simp) rfl rfl rfl rfl ?_ Iff.rfl
    (fun hnone => nomatch hnone)
  cases outcome <;> rfl

theorem Replied.runFinally {outcome : SaveOutcome} (h : Replied history s)
    (hphase : s.phaseOf i = some (SavePhase.caught outcome)) :
    Replied (history ++ [TrackerEvent.finallyRuns i outcome])
      (s.runFinally i outcome) := by
  rcases Option.map_eq_some_iff.mp hphase with
    ⟨⟨socket, parsed, startedAt, _⟩, htask, rfl⟩
  unfold TrackerTcpServer.runFinally
  simp only [htask]
  refine h.advance htask rfl rfl rfl ?_ rfl (List.append_nil _).symm
    (fun _ hx => nomatch hx) ?_ ?_ ?_ (fun hnone => nomatch hnone)
  · intro w hw
    rw [List.mem_singleton.mp hw]
  · cases outcome <;> rfl
  · intro k hk
    cases hk
  · rw [or_iff_left (by simp)]
    exact beq_iff_eq.symm

end Chains

/-!
## Runs
-/

section Runs

variable [DecidableEq Socket]

theorem reportReceived_notMem_closeEmissions (s : TrackerTcpServer Socket)
    (socket : Socket) (i : Nat) :
    Emitted.reportReceived i ∉ s.closeEmissions socket := by
  unfold TrackerTcpServer.closeEmissions
  cases s.tcp.deviceId socket with
  | none => exact List.not_mem_nil
  | some imei =>
      by_cases hempty : imei = ""
      · simp [hempty]
      · simp [hempty]

theorem replied {history : List (TrackerEvent Socket)}
    (h : (frameHandling Socket).Legal history) :
    Replied history ((frameHandling Socket).stateAfter history) := by
  refine invariant ?_ ?_ h
  · constructor
    · rfl
    · rfl
    · intro i
      rfl
    · intro i
      rfl
    · intro i
      exact iff_of_false Bool.false_ne_true List.not_mem_nil
    · intro i task htask
      cases htask
  · intro history e _ henabled ih
    rw [stateAfter_snoc]
    cases e with
    | connect socket remoteAddress remotePort =>
        exact ih.idle rfl (by simp) rfl rfl (List.append_nil _).symm (by simp)
    | data socket frame now => exact ih.handleFrame
    | close socket =>
        show Replied _ (TrackerTcpServer.handleClose _ socket)
        rw [TrackerTcpServer.handleClose_eq]
        exact ih.idle rfl (by simp) rfl rfl rfl
          (reportReceived_notMem_closeEmissions _ socket)
    | markSettled j accepted =>
        show Replied _ (TrackerTcpServer.settleMark _ j accepted)
        unfold TrackerTcpServer.settleMark
        cases ((frameHandling Socket).stateAfter history).marks[j]? with
        | none =>
            exact ih.idle rfl (by simp) rfl rfl (List.append_nil _).symm
              (by simp)
        | some mark =>
            exact ih.idle rfl (by simp) rfl rfl (List.append_nil _).symm
              (by simp)
    | upsertSettled i accepted => exact ih.settleUpsert henabled
    | saveSettled i accepted => exact ih.settleSave henabled
    | thenRuns i outcome listenerThrows => exact ih.runThen henabled
    | catchRuns i outcome failed => exact ih.runCatch henabled
    | finallyRuns i outcome => exact ih.runFinally henabled

/-- A report received on a socket: its chain, the one acknowledgement it has
written if it has run to its end, and the one announcement it has made if its
row went through {lit}`then`. -/
structure ReportAnswered (history : List (TrackerEvent Socket))
    (s : TrackerTcpServer Socket) (i : Nat) (received : Socket × Bytes)
    (task : SaveTask Socket) : Prop where
  chain : s.saves[i]? = some task
  socket : task.socket = received.1
  parsed : parseFrame received.2 = Except.ok task.parsed
  acknowledged : s.writes.filter (fun w => w.acknowledges == some i) =
    if task.phase.isFinished then [sackReply i received] else []
  announced : s.emitted.count (Emitted.reportReceived i) =
    if task.phase.announced then 1 else 0
  returned : TrackerEvent.saveSettled i true ∈ history <->
    task.phase.announced = true ∨
      task.phase = SavePhase.settled SaveOutcome.row

/-- Everything written and announced answers a frame received, and every frame
is answered as its kind asks for. -/
structure RepliesExact (history : List (TrackerEvent Socket))
    (s : TrackerTcpServer Socket) : Prop where
  heartbeats : forall socket,
    s.writes.filter (fun w =>
        decide (w.socket = socket) && w.acknowledges.isNone) =
      ((receivedHeartbeats history).filter (fun received =>
        decide (received.1 = socket))).map shbdReply
  reports : forall i received, (receivedReports history)[i]? = some received ->
    exists task, ReportAnswered history s i received task
  nothing_else : forall w, w ∈ s.writes -> w.acknowledges = none ∨
    exists i, w.acknowledges = some i ∧ i < (receivedReports history).length
  nothing_announced : forall i, Emitted.reportReceived i ∈ s.emitted ->
    i < (receivedReports history).length
  digits : forall received, received ∈ receivedFrames history ->
    isHeartbeatFrame received.2 = true ∨ isReportFrame received.2 = true ->
      (toHex (serialBytes received.2)).toList.length = 4 ∧
        forall c, c ∈ (toHex (serialBytes received.2)).toList ->
          c ∈ "0123456789ABCDEF".toList

omit [DecidableEq Socket] in
theorem returnedRow_iff {task : SaveTask Socket} :
    task.returnedRow = true <-> task.phase.announced = true ∨
      task.phase = SavePhase.settled SaveOutcome.row := by
  unfold SaveTask.returnedRow
  cases hphase : task.phase with
  | upserting => decide
  | saving => decide
  | settled outcome => cases outcome <;> decide
  | emitted outcome failed => cases outcome <;> cases failed <;> decide
  | caught outcome => cases outcome <;> decide
  | finished outcome => cases outcome <;> decide

omit [DecidableEq Socket] in
theorem exists_parsed_of_kind {frame : Bytes}
    (h : isHeartbeatFrame frame = true ∨ isReportFrame frame = true) :
    exists parsed, parseFrame frame = Except.ok parsed := by
  cases hparse : parseFrame frame with
  | ok parsed => exact ⟨parsed, rfl⟩
  | error message =>
      unfold isHeartbeatFrame isReportFrame at h
      rw [hparse] at h
      exact h.elim (fun hc => nomatch hc) (fun hc => nomatch hc)

omit [DecidableEq Socket] in
theorem Replied.saves_length {history : List (TrackerEvent Socket)}
    {s : TrackerTcpServer Socket} (h : Replied history s) :
    s.saves.length = (receivedReports history).length := by
  have hlength := congrArg List.length h.chains
  rwa [List.length_map, List.length_map] at hlength

omit [DecidableEq Socket] in
theorem Replied.reportAnswered {history : List (TrackerEvent Socket)}
    {s : TrackerTcpServer Socket} (h : Replied history s) {i : Nat}
    {received : Socket × Bytes}
    (hreceived : (receivedReports history)[i]? = some received) :
    exists task, ReportAnswered history s i received task := by
  have horigin : (s.saves.map SaveTask.origin)[i]? =
      some (received.1, parseFrame received.2) := by
    rw [h.chains, List.getElem?_map, hreceived]
    rfl
  rw [List.getElem?_map] at horigin
  rcases Option.map_eq_some_iff.mp horigin with ⟨task, htask, hsame⟩
  rcases Prod.mk.inj hsame with ⟨hsocket, hparsed⟩
  have htext : task.replies i =
      if task.phase.isFinished then [sackReply i received] else [] := by
    unfold SaveTask.replies sackReply sackText
    rw [serialNumberHex_of_parseFrame hparsed.symm, hsocket]
  refine ⟨task, htask, hsocket, hparsed.symm, ?_, ?_, ?_⟩
  · rw [h.acknowledgements i, htask]
    exact htext
  · rw [h.announcements i, htask]
    rfl
  · rw [← h.returned i, htask]
    exact returnedRow_iff

/--
At every moment of every run on frames, the server has answered each parsed
heartbeat once, in order of arrival on its socket, has acknowledged exactly the
reports whose chains have run to their ends, each with its own serial number on
its own socket, and has announced exactly the reports whose saved rows went
through {lit}`then`.
-/
theorem replies_exact (run : (frameHandling Socket).Run) :
    Throughout (fun history => RepliesExact history
      ((frameHandling Socket).stateAfter history)) run.history := by
  rintro history ⟨later, hlater⟩
  have hlegal := run.legal
  rw [← hlater] at hlegal
  have hreplied := replied (legalFrom_append.mp hlegal).left
  constructor
  · intro socket
    rw [← List.filter_filter, hreplied.heartbeats, List.filter_map]
    rfl
  · intro i received hreceived
    exact hreplied.reportAnswered hreceived
  · intro w hw
    cases hack : w.acknowledges with
    | none => exact Or.inl rfl
    | some i =>
        refine Or.inr ⟨i, rfl, ?_⟩
        rw [← hreplied.saves_length]
        by_contra hout
        have hnone := hreplied.acknowledgements i
        rw [List.getElem?_eq_none (Nat.not_lt.mp hout)] at hnone
        have hnot := List.filter_eq_nil_iff.mp hnone w hw
        rw [hack] at hnot
        exact hnot (beq_self_eq_true _)
  · intro i hmem
    rw [← hreplied.saves_length]
    by_contra hout
    have hnone := hreplied.announcements i
    rw [List.getElem?_eq_none (Nat.not_lt.mp hout)] at hnone
    exact List.count_eq_zero.mp hnone hmem
  · intro received _ hkind
    rcases exists_parsed_of_kind hkind with ⟨parsed, hparsed⟩
    exact serialNumberHex_digits hparsed

end Runs

end Tracker
end AvtTracker
