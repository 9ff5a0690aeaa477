import AvtTracker.Tracker.FrameHandling

/-!
# The stored online flag

The column {lit}`tcpConnected` is written by upserts nobody waits for: the marks
of connecting and closing sockets, and the upserts of reports.  The database
applies them in whatever order it gets them.  This module determines when the
column agrees with the sockets once the upserts in flight have been applied.
-/

namespace AvtTracker
namespace Tracker

open Foundation Tcp EventSystem

variable {Socket : Type}

/-!
## Upserts in flight
-/

/-- An upsert of a device row: a connection mark, or the one of a report. -/
inductive Upsert where
  | mark (j : Nat)
  | report (i : Nat)
  deriving DecidableEq, Repr

/-- The patch of a mark that has not reached the database yet. -/
def Mark.pending (mark : Mark) : Option DevicePatch :=
  if mark.inFlight then some mark.patch else none

def SaveTask.pending (task : SaveTask Socket) : Option DevicePatch :=
  if task.phase = SavePhase.upserting then
    task.parsed.report.map (fun report =>
      reportPatch task.parsed.header report task.startedAt)
  else none

namespace TrackerTcpServer

section Queries

variable (s : TrackerTcpServer Socket)

/-- The patch of an upsert in flight. -/
def inFlight : Upsert -> Option DevicePatch
  | Upsert.mark j => (s.marks[j]?).bind Mark.pending
  | Upsert.report i => (s.saves[i]?).bind SaveTask.pending

def Quiet : Prop :=
  forall u, s.inFlight u = none

def Pending (device : String) : Prop :=
  exists u patch, s.inFlight u = some patch ∧ patch.imei = device

variable [DecidableEq Socket]

/-- An open socket is currently identified as the device. -/
def Identified (device : String) : Prop :=
  exists socket, s.tcp.isOpen socket = true ∧
    s.tcp.deviceId socket = some device

/-- An open socket other than this one is identified as the device. -/
def IdentifiedApartFrom (socket : Socket) (device : String) : Prop :=
  exists other, other ≠ socket ∧ s.tcp.isOpen other = true ∧
    s.tcp.deviceId other = some device

/-- The column of the device's row, if it has one, tells whether the device is
identified. -/
def FlagAgrees (device : String) : Prop :=
  forall row, s.devices.lookup device = some row ->
    (row.tcpConnected = true <-> s.Identified device)

/-- The columns of all devices without an upsert in flight agree. -/
def SettledFlagsAgree : Prop :=
  forall device, ¬ s.Pending device -> s.FlagAgrees device

end Queries

section Fields

variable {s s' : TrackerTcpServer Socket} {device : String}

theorem pending_iff :
    s.Pending device <->
      (exists mark patch, mark ∈ s.marks ∧ mark.pending = some patch ∧
        patch.imei = device) ∨
      (exists task patch, task ∈ s.saves ∧ task.pending = some patch ∧
        patch.imei = device) := by
  constructor
  · rintro ⟨u, patch, hpatch, himei⟩
    cases u with
    | mark j =>
        rcases Option.bind_eq_some_iff.mp hpatch with ⟨mark, hmark, hpending⟩
        exact Or.inl ⟨mark, patch, List.mem_of_getElem? hmark, hpending, himei⟩
    | report i =>
        rcases Option.bind_eq_some_iff.mp hpatch with ⟨task, htask, hpending⟩
        exact Or.inr ⟨task, patch, List.mem_of_getElem? htask, hpending, himei⟩
  · rintro (⟨mark, patch, hmark, hpending, himei⟩ |
      ⟨task, patch, htask, hpending, himei⟩)
    · rcases List.getElem?_of_mem hmark with ⟨j, hj⟩
      refine ⟨Upsert.mark j, patch, ?_, himei⟩
      exact Option.bind_eq_some_iff.mpr ⟨mark, hj, hpending⟩
    · rcases List.getElem?_of_mem htask with ⟨i, hi⟩
      refine ⟨Upsert.report i, patch, ?_, himei⟩
      exact Option.bind_eq_some_iff.mpr ⟨task, hi, hpending⟩

theorem pending_append {marks : List Mark} {tasks : List (SaveTask Socket)}
    (hmarks : s'.marks = s.marks ++ marks)
    (hsaves : s'.saves = s.saves ++ tasks) :
    s'.Pending device <-> s.Pending device ∨
      (exists mark patch, mark ∈ marks ∧ mark.pending = some patch ∧
        patch.imei = device) ∨
      (exists task patch, task ∈ tasks ∧ task.pending = some patch ∧
        patch.imei = device) := by
  rw [pending_iff, pending_iff, hmarks, hsaves]
  constructor
  · rintro (⟨mark, patch, hmark, hrest⟩ | ⟨task, patch, htask, hrest⟩)
    · rcases List.mem_append.mp hmark with hmark | hmark
      · exact Or.inl (Or.inl ⟨mark, patch, hmark, hrest⟩)
      · exact Or.inr (Or.inl ⟨mark, patch, hmark, hrest⟩)
    · rcases List.mem_append.mp htask with htask | htask
      · exact Or.inl (Or.inr ⟨task, patch, htask, hrest⟩)
      · exact Or.inr (Or.inr ⟨task, patch, htask, hrest⟩)
  · rintro ((⟨mark, patch, hmark, hrest⟩ | ⟨task, patch, htask, hrest⟩) |
      ⟨mark, patch, hmark, hrest⟩ | ⟨task, patch, htask, hrest⟩)
    · exact Or.inl ⟨mark, patch, List.mem_append_left _ hmark, hrest⟩
    · exact Or.inr ⟨task, patch, List.mem_append_left _ htask, hrest⟩
    · exact Or.inl ⟨mark, patch, List.mem_append_right _ hmark, hrest⟩
    · exact Or.inr ⟨task, patch, List.mem_append_right _ htask, hrest⟩

variable [DecidableEq Socket]

theorem settledFlagsAgree_congr (htcp : s'.tcp = s.tcp)
    (hdevices : s'.devices = s.devices) (hinFlight : s'.inFlight = s.inFlight) :
    s'.SettledFlagsAgree <-> s.SettledFlagsAgree := by
  unfold SettledFlagsAgree FlagAgrees Pending Identified
  rw [htcp, hdevices, hinFlight]

theorem identified_iff (socket : Socket) :
    s.Identified device <->
      (s.tcp.isOpen socket = true ∧ s.tcp.deviceId socket = some device) ∨
        s.IdentifiedApartFrom socket device := by
  constructor
  · rintro ⟨other, hopen, hdevice⟩
    by_cases hsame : other = socket
    · rw [hsame] at hopen hdevice
      exact Or.inl ⟨hopen, hdevice⟩
    · exact Or.inr ⟨other, hsame, hopen, hdevice⟩
  · rintro (⟨hopen, hdevice⟩ | ⟨other, _, hopen, hdevice⟩)
    · exact ⟨socket, hopen, hdevice⟩
    · exact ⟨other, hopen, hdevice⟩

theorem identifiedApartFrom_congr {socket : Socket}
    (h : forall other, other ≠ socket ->
      s'.tcp.isOpen other = s.tcp.isOpen other ∧
        s'.tcp.deviceId other = s.tcp.deviceId other) :
    s'.IdentifiedApartFrom socket device <->
      s.IdentifiedApartFrom socket device := by
  unfold IdentifiedApartFrom
  apply exists_congr
  intro other
  apply and_congr_right
  intro hother
  rw [(h other hother).left, (h other hother).right]

end Fields

end TrackerTcpServer

/-!
## The steps that keep the column right
-/

section Conditions

variable [DecidableEq Socket]

/-- If the upsert is the last one in flight for its device, it says what is
true of the device. -/
def TrackerTcpServer.LastSaysTrue (s : TrackerTcpServer Socket) (u : Upsert) :
    Prop :=
  forall patch, s.inFlight u = some patch ->
    (exists v other, v ≠ u ∧ s.inFlight v = some other ∧
      other.imei = patch.imei) ∨
      (patch.tcpConnected = some true <-> s.Identified patch.imei)

/-- A frame that names another device than its socket did before leaves the old
device, if it has a row, with an upsert in flight or with another socket; and
the last upsert applied for a device is right. -/
def TrackerTcpServer.KeepsFlags (s : TrackerTcpServer Socket) :
    TrackerEvent Socket -> Prop
  | TrackerEvent.data socket frame _ =>
      forall parsed device, parseFrame frame = Except.ok parsed ->
        s.tcp.deviceId socket = some device ->
          device ≠ parsed.header.imei -> device ∈ s.devices ->
            s.Pending device ∨ s.IdentifiedApartFrom socket device
  | TrackerEvent.markSettled j _ => s.LastSaysTrue (Upsert.mark j)
  | TrackerEvent.upsertSettled i _ => s.LastSaysTrue (Upsert.report i)
  | _ => True

/-- The database applies every upsert it is sent. -/
def TrackerEvent.Applied : TrackerEvent Socket -> Prop
  | TrackerEvent.markSettled _ accepted => accepted = true
  | TrackerEvent.upsertSettled _ accepted => accepted = true
  | _ => True

instance : forall e : TrackerEvent Socket, Decidable e.Applied
  | TrackerEvent.connect _ _ _ => inferInstanceAs (Decidable True)
  | TrackerEvent.data _ _ _ => inferInstanceAs (Decidable True)
  | TrackerEvent.close _ => inferInstanceAs (Decidable True)
  | TrackerEvent.markSettled _ accepted =>
      inferInstanceAs (Decidable (accepted = true))
  | TrackerEvent.upsertSettled _ accepted =>
      inferInstanceAs (Decidable (accepted = true))
  | TrackerEvent.saveSettled _ _ => inferInstanceAs (Decidable True)
  | TrackerEvent.thenRuns _ _ _ => inferInstanceAs (Decidable True)
  | TrackerEvent.catchRuns _ _ _ => inferInstanceAs (Decidable True)
  | TrackerEvent.finallyRuns _ _ => inferInstanceAs (Decidable True)

/-- The server, frame by frame, on a database that applies every upsert. -/
abbrev appliedHandling (Socket : Type) [DecidableEq Socket] :
    EventSystem (TrackerTcpServer Socket) (TrackerEvent Socket) :=
  (frameHandling Socket).only TrackerEvent.Applied

end Conditions

/-!
## Events of sockets
-/

namespace TrackerTcpServer

section Sockets

variable [DecidableEq Socket] {s : TrackerTcpServer Socket} {socket : Socket}

section Frame

variable {frame : Bytes} {parsed : ParsedTrackerFrame} (now : Int)
variable {device : String}

theorem identified_handleFrame (hparse : parseFrame frame = Except.ok parsed)
    (hopen : s.tcp.isOpen socket = true) :
    (s.handleFrame socket frame now).Identified device <->
      device = parsed.header.imei ∨ s.IdentifiedApartFrom socket device := by
  have hself : (s.handleFrame socket frame now).tcp.deviceId socket =
      some parsed.header.imei := by
    rw [s.handleFrame_tcp socket now hparse,
      trackerProtocol.deviceId_step_decoded hopen, if_pos rfl]
    rfl
  have hothers : forall other, other ≠ socket ->
      (s.handleFrame socket frame now).tcp.isOpen other =
          s.tcp.isOpen other ∧
        (s.handleFrame socket frame now).tcp.deviceId other =
          s.tcp.deviceId other := by
    intro other hother
    refine ⟨s.isOpen_handleFrame socket frame now other, ?_⟩
    rw [s.handleFrame_tcp socket now hparse,
      trackerProtocol.deviceId_step_decoded hopen, if_neg hother]
  rw [identified_iff socket, identifiedApartFrom_congr hothers,
    s.isOpen_handleFrame, hself]
  constructor
  · exact Or.imp_left (fun hnow => (Option.some.inj hnow.right).symm)
  · exact Or.imp_left (fun hnow => ⟨hopen, by rw [hnow]⟩)

/-- A frame fires upserts for its own device only, and does so if its socket was
not identified as this device yet. -/
theorem pending_handleFrame (hparse : parseFrame frame = Except.ok parsed) :
    (s.Pending device -> (s.handleFrame socket frame now).Pending device) ∧
      ((s.handleFrame socket frame now).Pending device ->
        s.Pending device ∨ device = parsed.header.imei) ∧
      (device = parsed.header.imei ->
        s.tcp.deviceId socket ≠ some parsed.header.imei ->
          (s.handleFrame socket frame now).Pending device) := by
  have hadded : forall other,
      (s.handleFrame socket frame now).Pending other <-> _ :=
    fun other => pending_append (by rw [s.handleFrame_ok socket now hparse])
      (by rw [s.handleFrame_ok socket now hparse])
  refine ⟨?_, ?_, ?_⟩
  · intro hpending
    exact (hadded device).mpr (Or.inl hpending)
  · intro hpending
    refine ((hadded device).mp hpending).imp_right ?_
    rintro (⟨mark, patch, hmark, hpatch, himei⟩ |
      ⟨task, patch, htask, hpatch, himei⟩)
    · unfold connectMarks at hmark
      by_cases hsame : s.tcp.deviceId socket = some parsed.header.imei
      · rw [if_pos hsame] at hmark
        cases hmark
      · rw [if_neg hsame] at hmark
        rw [List.mem_singleton.mp hmark] at hpatch
        rw [← himei, ← Option.some.inj hpatch]
        rfl
    · unfold startedTasks at htask
      by_cases hreport : parsed.IsReport
      · rw [if_pos hreport] at htask
        rw [List.mem_singleton.mp htask] at hpatch
        rcases ite_eq_iff.mp hpatch with ⟨_, hpatch⟩ | ⟨_, hnone⟩
        · rcases Option.map_eq_some_iff.mp hpatch with ⟨report, _, hpatch⟩
          rw [← himei, ← hpatch]
          rfl
        · cases hnone
      · rw [if_neg hreport] at htask
        cases htask
  · intro hdevice hnew
    rw [hdevice]
    apply (hadded _).mpr
    refine Or.inr (Or.inl ⟨{ patch := markDeviceConnected _ now }, _, ?_,
      rfl, rfl⟩)
    unfold connectMarks
    rw [if_neg hnew]
    exact List.mem_singleton.mpr rfl

end Frame

theorem settledFlagsAgree_data {frame : Bytes} {now : Int}
    (hopen : s.tcp.isOpen socket = true) (h : s.SettledFlagsAgree) :
    (s.handleFrame socket frame now).SettledFlagsAgree <->
      s.KeepsFlags (TrackerEvent.data socket frame now) := by
  cases hparse : parseFrame frame with
  | error message =>
      rw [s.handleFrame_error socket now hparse]
      refine iff_of_true h ?_
      intro parsed device hparsed
      rw [hparse] at hparsed
      cases hparsed
  | ok parsed =>
      have hdevices : (s.handleFrame socket frame now).devices = s.devices := by
        rw [s.handleFrame_ok socket now hparse]
      constructor
      · intro hafter parsed' device hparsed hold hother hrow
        rw [hparse] at hparsed
        rw [← Except.ok.inj hparsed] at hother
        by_contra hlost
        rcases not_or.mp hlost with ⟨hquiet, halone⟩
        rcases AList.lookup_isSome.mpr hrow |> Option.isSome_iff_exists.mp with
          ⟨row, hrow⟩
        -- The flag stays set although the device has lost its only socket.
        have hset := (h device hquiet row hrow).mpr ⟨socket, hopen, hold⟩
        have hstill : ¬ (s.handleFrame socket frame now).Pending device := by
          intro hpending
          exact ((pending_handleFrame now hparse).right.left hpending).elim
            hquiet hother
        have hagain := (hafter device hstill row (by rw [hdevices, hrow])).mp
          hset
        exact ((identified_handleFrame now hparse hopen).mp hagain).elim
          hother halone
      · intro hkeeps device hquiet row hrow
        rw [hdevices] at hrow
        have hbefore : ¬ s.Pending device := fun hpending =>
          hquiet ((pending_handleFrame now hparse).left hpending)
        rw [h device hbefore row hrow, identified_iff socket,
          identified_handleFrame now hparse hopen]
        by_cases hdevice : device = parsed.header.imei
        · have hsame : s.tcp.deviceId socket = some parsed.header.imei := by
            by_contra hnew
            exact hquiet
              ((pending_handleFrame now hparse).right.right hdevice hnew)
          refine iff_of_true (Or.inl ⟨hopen, ?_⟩) (Or.inl hdevice)
          rw [hsame, hdevice]
        · have hmem : device ∈ s.devices := by
            rw [← AList.lookup_isSome, hrow]
            rfl
          constructor
          · rintro (⟨_, hold⟩ | hapart)
            · exact Or.inr ((hkeeps parsed device hparse hold hdevice
                hmem).resolve_left hbefore)
            · exact Or.inr hapart
          · rintro (hsame | hapart)
            · exact absurd hsame hdevice
            · exact Or.inr hapart

theorem settledFlagsAgree_connect {remoteAddress : Option String}
    {remotePort : Option Nat} (hnew : socket ∉ s.tcp.connections)
    (h : s.SettledFlagsAgree) :
    ((frameHandling Socket).step s (TrackerEvent.connect socket remoteAddress
      remotePort)).SettledFlagsAgree := by
  intro device hquiet row hrow
  have hself : ((frameHandling Socket).step s (TrackerEvent.connect socket
      remoteAddress remotePort)).tcp.deviceId socket = none :=
    (TcpServer.deviceId_handleConnection _ _).trans (if_pos rfl)
  have hothers : forall other, other ≠ socket ->
      ((frameHandling Socket).step s (TrackerEvent.connect socket
          remoteAddress remotePort)).tcp.isOpen other = s.tcp.isOpen other ∧
        ((frameHandling Socket).step s (TrackerEvent.connect socket
          remoteAddress remotePort)).tcp.deviceId other =
            s.tcp.deviceId other := by
    intro other hother
    constructor
    · exact (TcpServer.isOpen_handleConnection _ _).trans (if_neg hother)
    · exact (TcpServer.deviceId_handleConnection _ _).trans (if_neg hother)
  have hclosed : ¬ s.tcp.isOpen socket = true :=
    fun hopen => hnew (TcpServer.mem_of_isOpen hopen)
  rw [h device hquiet row hrow, identified_iff socket, identified_iff socket,
    identifiedApartFrom_congr hothers, hself]
  simp [hclosed]

theorem pending_handleClose {device : String}
    (hnamed : s.tcp.deviceId socket ≠ some "") :
    (s.Pending device -> (s.handleClose socket).Pending device) ∧
      (s.tcp.deviceId socket = some device ->
        (s.handleClose socket).Pending device) := by
  have hmarks : (s.handleClose socket).marks =
      s.marks ++ s.closeMarks socket := by
    rw [s.handleClose_eq]
  have hsaves : (s.handleClose socket).saves = s.saves ++ [] := by
    rw [s.handleClose_eq, List.append_nil]
  rw [pending_append hmarks hsaves]
  constructor
  · exact Or.inl
  · intro hsame
    refine Or.inr (Or.inl ⟨{ patch := markDeviceDisconnected device }, _, ?_,
      rfl, rfl⟩)
    rw [hsame] at hnamed
    have hnonempty : device ≠ "" := fun hempty => hnamed (by rw [hempty])
    simp [closeMarks, hsame, hnonempty]

theorem settledFlagsAgree_close
    (hnamed : s.tcp.deviceId socket ≠ some "") (h : s.SettledFlagsAgree) :
    (s.handleClose socket).SettledFlagsAgree := by
  intro device hquiet row hrow
  have hbefore : ¬ s.Pending device :=
    fun hpending => hquiet ((pending_handleClose hnamed).left hpending)
  have hother : s.tcp.deviceId socket ≠ some device :=
    fun hsame => hquiet ((pending_handleClose hnamed).right hsame)
  have hdevices : (s.handleClose socket).devices = s.devices := by
    rw [s.handleClose_eq]
  have hclosed : (s.handleClose socket).tcp.isOpen socket = false := by
    rw [s.handleClose_tcp, TcpServer.isOpen_handleClose, if_pos rfl]
  have hothers : forall other, other ≠ socket ->
      (s.handleClose socket).tcp.isOpen other = s.tcp.isOpen other ∧
        (s.handleClose socket).tcp.deviceId other =
          s.tcp.deviceId other := by
    intro other hne
    rw [s.handleClose_tcp, TcpServer.isOpen_handleClose,
      TcpServer.deviceId_handleClose, if_neg hne]
    exact ⟨rfl, rfl⟩
  rw [hdevices] at hrow
  rw [h device hbefore row hrow, identified_iff socket, identified_iff socket,
    identifiedApartFrom_congr hothers, hclosed]
  simp [hother]

end Sockets

/-!
## Events of the database and of the chains
-/

/-- One upsert in flight is applied, and nothing else happens. -/
structure Settles (s s' : TrackerTcpServer Socket) (u : Upsert)
    (patch : DevicePatch) : Prop where
  tcp : s'.tcp = s.tcp
  devices : s'.devices = upsertDevice s.devices patch
  self : s'.inFlight u = none
  others : forall v, v ≠ u -> s'.inFlight v = s.inFlight v

/-- A chain behind its upsert moves on; sockets, marks and device rows stay as
they are. -/
structure Advances (s s' : TrackerTcpServer Socket) (i : Nat) : Prop where
  tcp : s'.tcp = s.tcp
  marks : s'.marks = s.marks
  devices : s'.devices = s.devices
  saves : exists old phase, s.phaseOf i = some old ∧
    old ≠ SavePhase.upserting ∧ phase ≠ SavePhase.upserting ∧
      s'.saves = (s.setPhase i phase).saves

section Parts

variable {s : TrackerTcpServer Socket} {i : Nat}

theorem saves_setPhase_self {phase : SavePhase}
    (h : s.phaseOf i = some phase) : (s.setPhase i phase).saves = s.saves := by
  rcases Option.map_eq_some_iff.mp h with ⟨task, htask, hphase⟩
  apply List.ext_getElem?
  intro k
  by_cases hk : k = i
  · rw [hk, getElem?_setPhase_self htask, htask, ← hphase]
  · rw [getElem?_setPhase_of_ne hk]

theorem advances_settleSave (accepted : Bool)
    (h : s.phaseOf i = some SavePhase.saving) :
    Advances s (s.settleSave i accepted) i := by
  have hidle : Advances s s i :=
    ⟨rfl, rfl, rfl, _, _, h, by simp, by simp, (saves_setPhase_self h).symm⟩
  unfold settleSave
  cases s.saves[i]? with
  | none => exact hidle
  | some task =>
      dsimp only
      cases task.parsed.report with
      | none => exact hidle
      | some report =>
          cases accepted with
          | true =>
              exact ⟨rfl, rfl, rfl, _, _, h, by simp, by simp, rfl⟩
          | false =>
              exact ⟨rfl, rfl, rfl, _, _, h, by simp, by simp, rfl⟩

theorem advances_runThen {outcome : SaveOutcome} (listenerThrows : Bool)
    (h : s.phaseOf i = some (SavePhase.settled outcome)) :
    Advances s (s.runThen i outcome listenerThrows) i := by
  cases outcome with
  | row => exact ⟨rfl, rfl, rfl, _, _, h, by simp, by simp, rfl⟩
  | null => exact ⟨rfl, rfl, rfl, _, _, h, by simp, by simp, rfl⟩
  | rejected => exact ⟨rfl, rfl, rfl, _, _, h, by simp, by simp, rfl⟩

theorem advances_runCatch {outcome : SaveOutcome} {failed : Bool}
    (h : s.phaseOf i = some (SavePhase.emitted outcome failed)) :
    Advances s (s.setPhase i (SavePhase.caught outcome)) i :=
  ⟨rfl, rfl, rfl, _, _, h, by simp, by simp, rfl⟩

theorem advances_runFinally {outcome : SaveOutcome}
    (h : s.phaseOf i = some (SavePhase.caught outcome)) :
    Advances s (s.runFinally i outcome) i := by
  unfold runFinally
  cases s.saves[i]? with
  | none =>
      exact ⟨rfl, rfl, rfl, _, _, h, by simp, by simp,
        (saves_setPhase_self h).symm⟩
  | some task => exact ⟨rfl, rfl, rfl, _, _, h, by simp, by simp, rfl⟩

theorem settleUpsert_marks (accepted : Bool) :
    (s.settleUpsert i accepted).marks = s.marks := by
  unfold settleUpsert
  cases s.saves[i]? with
  | none => rfl
  | some task =>
      dsimp only
      cases task.parsed.report with
      | none => rfl
      | some report => cases accepted <;> rfl

end Parts

section Settling

variable {s s' : TrackerTcpServer Socket} {u : Upsert} {patch : DevicePatch}
variable {i j : Nat}

theorem inFlight_congr (hmarks : s'.marks = s.marks)
    (hsaves : s'.saves = s.saves) : s'.inFlight = s.inFlight := by
  funext v
  cases v with
  | mark j =>
      show (s'.marks[j]?).bind _ = (s.marks[j]?).bind _
      rw [hmarks]
  | report k =>
      show (s'.saves[k]?).bind _ = (s.saves[k]?).bind _
      rw [hsaves]

theorem settles_settleMark
    (h : s.inFlight (Upsert.mark j) = some patch) :
    Settles s (s.settleMark j true) (Upsert.mark j) patch := by
  rcases Option.bind_eq_some_iff.mp h with ⟨mark, hmark, hpending⟩
  have hpatch : mark.patch = patch := by
    rcases ite_eq_iff.mp hpending with ⟨_, hpatch⟩ | ⟨_, hnone⟩
    · exact Option.some.inj hpatch
    · cases hnone
  unfold settleMark
  rw [hmark]
  refine ⟨rfl, by rw [← hpatch]; rfl, ?_, ?_⟩
  · show ((s.marks.modify j _)[j]?).bind Mark.pending = none
    rw [List.getElem?_modify_eq, hmark]
    rfl
  · intro v hv
    cases v with
    | mark k =>
        have hk : j ≠ k := fun hsame => hv (by rw [hsame])
        show ((s.marks.modify j _)[k]?).bind Mark.pending = _
        rw [List.getElem?_modify_ne _ _ hk]
        rfl
    | report i => rfl

theorem inFlight_setPhase (phase : SavePhase)
    (hphase : phase ≠ SavePhase.upserting) (v : Upsert) :
    (s.setPhase i phase).inFlight v =
      if v = Upsert.report i then none else s.inFlight v := by
  cases v with
  | mark j =>
      rw [if_neg (by simp)]
      rfl
  | report k =>
      show ((s.setPhase i phase).saves[k]?).bind SaveTask.pending = _
      by_cases hk : k = i
      · rw [if_pos (by rw [hk]), hk]
        show ((s.saves.modify i _)[i]?).bind SaveTask.pending = none
        rw [List.getElem?_modify_eq]
        cases s.saves[i]? with
        | none => rfl
        | some task => exact if_neg hphase
      · have hne : Upsert.report k ≠ Upsert.report i :=
          fun hsame => hk (Upsert.report.inj hsame)
        rw [if_neg hne, getElem?_setPhase_of_ne hk]
        rfl

theorem inFlight_of_phaseOf {phase : SavePhase}
    (h : s.phaseOf i = some phase) (hphase : phase ≠ SavePhase.upserting) :
    s.inFlight (Upsert.report i) = none := by
  rcases Option.map_eq_some_iff.mp h with ⟨task, htask, hsame⟩
  show (s.saves[i]?).bind SaveTask.pending = none
  rw [htask]
  exact if_neg (fun hupserting => hphase (hsame.symm.trans hupserting))

theorem settles_settleUpsert
    (h : s.inFlight (Upsert.report i) = some patch) :
    Settles s (s.settleUpsert i true) (Upsert.report i) patch := by
  rcases Option.bind_eq_some_iff.mp h with ⟨task, htask, hpending⟩
  rcases ite_eq_iff.mp hpending with ⟨_, hpatch⟩ | ⟨_, hnone⟩
  · rcases Option.map_eq_some_iff.mp hpatch with ⟨report, hreport, hpatch⟩
    have hphase : SavePhase.saving ≠ SavePhase.upserting := by decide
    unfold settleUpsert
    simp only [htask, hreport, hpatch, if_true]
    have hsame : inFlight { s.setPhase i SavePhase.saving with
        devices := upsertDevice s.devices patch } =
          (s.setPhase i SavePhase.saving).inFlight :=
      inFlight_congr rfl rfl
    refine ⟨rfl, rfl, ?_, ?_⟩
    · rw [hsame, inFlight_setPhase _ hphase, if_pos rfl]
    · intro v hv
      rw [hsame, inFlight_setPhase _ hphase, if_neg hv]
  · cases hnone

theorem settleUpsert_of_none
    (henabled : s.phaseOf i = some SavePhase.upserting)
    (hnone : s.inFlight (Upsert.report i) = none) :
    s.settleUpsert i true = s := by
  rcases Option.map_eq_some_iff.mp henabled with ⟨task, htask, hphase⟩
  have hreport : task.parsed.report = none := by
    have hpending : (s.saves[i]?).bind SaveTask.pending = none := hnone
    rw [htask] at hpending
    exact Option.map_eq_none_iff.mp ((if_pos hphase).symm.trans hpending)
  unfold settleUpsert
  simp only [htask, hreport]

theorem exists_inFlight_mark
    (henabled : (s.marks[j]?).any Mark.inFlight = true) :
    exists patch, s.inFlight (Upsert.mark j) = some patch := by
  cases hmark : s.marks[j]? with
  | none =>
      rw [hmark] at henabled
      cases henabled
  | some mark =>
      rw [hmark] at henabled
      exists mark.patch
      show (s.marks[j]?).bind Mark.pending = _
      rw [hmark]
      exact if_pos henabled

variable [DecidableEq Socket]

theorem settledFlagsAgree_settles (hsettles : Settles s s' u patch)
    (hu : s.inFlight u = some patch)
    (hflag : exists flag, patch.tcpConnected = some flag)
    (h : s.SettledFlagsAgree) :
    s'.SettledFlagsAgree <-> s.LastSaysTrue u := by
  rcases hflag with ⟨flag, hflag⟩
  have hidentified : forall device,
      s'.Identified device <-> s.Identified device := by
    intro device
    unfold Identified
    rw [hsettles.tcp]
  have hpending : forall device, s'.Pending device <->
      exists v other, v ≠ u ∧ s.inFlight v = some other ∧
        other.imei = device := by
    intro device
    constructor
    · rintro ⟨v, other, hother, himei⟩
      by_cases hv : v = u
      · rw [hv, hsettles.self] at hother
        cases hother
      · rw [hsettles.others v hv] at hother
        exact ⟨v, other, hv, hother, himei⟩
    · rintro ⟨v, other, hv, hother, himei⟩
      exact ⟨v, other, by rw [hsettles.others v hv, hother], himei⟩
  constructor
  · intro hafter patch' hpatch'
    rw [hu] at hpatch'
    rw [← Option.some.inj hpatch', ← hpending]
    by_cases hstill : s'.Pending patch.imei
    · exact Or.inl hstill
    · have hagrees := hafter patch.imei hstill _ (by
        rw [hsettles.devices, lookup_upsertDevice, if_pos rfl])
      simp only [TrackerDevice.patched, hflag, Option.getD_some,
        hidentified] at hagrees
      refine Or.inr ?_
      rw [← hagrees, hflag, Option.some.injEq]
  · intro hlast device hquiet row hrow
    rw [hsettles.devices, lookup_upsertDevice] at hrow
    rw [hidentified]
    rcases ite_eq_iff.mp hrow with ⟨hdevice, hrow⟩ | ⟨hother, hrow⟩
    · have htrue := (hlast patch hu).resolve_left (by
        rw [← hpending, ← hdevice]
        exact hquiet)
      rw [hdevice, ← htrue, ← Option.some.inj hrow, hflag, Option.some.injEq]
      simp only [TrackerDevice.patched, hflag, Option.getD_some]
    · refine h device ?_ row hrow
      rintro ⟨v, other, hpatch, himei⟩
      refine hquiet ((hpending device).mpr ⟨v, other, ?_, hpatch, himei⟩)
      intro hv
      rw [hv, hu] at hpatch
      rw [← Option.some.inj hpatch] at himei
      exact hother himei.symm

theorem Advances.settledFlagsAgree (hadvances : Advances s s' i)
    (h : s.SettledFlagsAgree) : s'.SettledFlagsAgree := by
  rcases hadvances.saves with ⟨old, phase, hold, hbefore, hafter, hsaves⟩
  refine (settledFlagsAgree_congr hadvances.tcp hadvances.devices ?_).mpr h
  funext v
  have hsame : s'.inFlight = (s.setPhase i phase).inFlight :=
    inFlight_congr hadvances.marks hsaves
  rw [hsame, inFlight_setPhase phase hafter]
  by_cases hv : v = Upsert.report i
  · rw [if_pos hv, hv, inFlight_of_phaseOf hold hbefore]
  · rw [if_neg hv]

end Settling

/-!
## What holds in every run
-/

/-- Sockets are identified as devices with a name, and marks write the
column. -/
structure MarksFlags [DecidableEq Socket] (s : TrackerTcpServer Socket) :
    Prop where
  named : forall socket, s.tcp.deviceId socket ≠ some ""
  marks : forall mark, mark ∈ s.marks ->
    exists flag, mark.patch.tcpConnected = some flag

section Runs

variable [DecidableEq Socket] {s s' : TrackerTcpServer Socket}

theorem MarksFlags.congr (h : s.MarksFlags) (htcp : s'.tcp = s.tcp)
    (hmarks : s'.marks = s.marks) : s'.MarksFlags := by
  constructor
  · rw [htcp]
    exact h.named
  · rw [hmarks]
    exact h.marks

theorem MarksFlags.handleFrame (h : s.MarksFlags) {socket : Socket}
    {frame : Bytes} {now : Int} (hopen : s.tcp.isOpen socket = true) :
    (s.handleFrame socket frame now).MarksFlags := by
  cases hparse : parseFrame frame with
  | error message =>
      rw [s.handleFrame_error socket now hparse]
      exact h
  | ok parsed =>
      rw [s.handleFrame_ok socket now hparse]
      constructor
      · intro other hempty
        rw [trackerProtocol.deviceId_step_decoded hopen] at hempty
        rcases ite_eq_iff.mp hempty with ⟨_, hself⟩ | ⟨_, hother⟩
        · exact parseFrame_imei_ne_empty hparse (Option.some.inj hself)
        · exact h.named other hother
      · intro mark hmark
        rcases List.mem_append.mp hmark with hmark | hmark
        · exact h.marks mark hmark
        · unfold connectMarks at hmark
          by_cases hsame : s.tcp.deviceId socket = some parsed.header.imei
          · rw [if_pos hsame] at hmark
            cases hmark
          · rw [if_neg hsame] at hmark
            rw [List.mem_singleton.mp hmark]
            exact ⟨true, rfl⟩

theorem MarksFlags.handleClose (h : s.MarksFlags) (socket : Socket) :
    (s.handleClose socket).MarksFlags := by
  rw [s.handleClose_eq]
  constructor
  · intro other
    show TcpServer.deviceId _ other ≠ some ""
    rw [TcpServer.deviceId_handleClose]
    exact h.named other
  · intro mark hmark
    rcases List.mem_append.mp hmark with hmark | hmark
    · exact h.marks mark hmark
    · unfold closeMarks at hmark
      cases hdevice : s.tcp.deviceId socket with
      | none =>
          rw [hdevice] at hmark
          cases hmark
      | some imei =>
          have hnonempty : imei ≠ "" := by
            intro hempty
            rw [hempty] at hdevice
            exact h.named socket hdevice
          simp only [hdevice, if_neg hnonempty] at hmark
          rw [List.mem_singleton.mp hmark]
          exact ⟨false, rfl⟩

omit [DecidableEq Socket] in
theorem exists_mark_of_mem_settleMark {j : Nat} {accepted : Bool}
    {mark : Mark} (h : mark ∈ (s.settleMark j accepted).marks) :
    exists before, before ∈ s.marks ∧ before.patch = mark.patch := by
  unfold settleMark at h
  cases hj : s.marks[j]? with
  | none =>
      rw [hj] at h
      exact ⟨mark, h, rfl⟩
  | some settled =>
      simp only [hj] at h
      rcases List.getElem?_of_mem h with ⟨k, hk⟩
      rw [List.getElem?_modify] at hk
      rcases Option.map_eq_some_iff.mp hk with ⟨before, hbefore, hmark⟩
      refine ⟨before, List.mem_of_getElem? hbefore, ?_⟩
      rw [← hmark]
      by_cases hkj : j = k
      · rw [if_pos hkj]
      · rw [if_neg hkj]

theorem marksFlags {history : List (TrackerEvent Socket)}
    (h : (frameHandling Socket).Legal history) :
    ((frameHandling Socket).stateAfter history).MarksFlags := by
  refine invariant ?_ ?_ h
  · refine ⟨fun _ hnone => ?_, fun _ hmem => ?_⟩
    · cases hnone
    · cases hmem
  · intro history e _ henabled ih
    rw [stateAfter_snoc]
    cases e with
    | connect socket remoteAddress remotePort =>
        refine ⟨fun other => ?_, ih.marks⟩
        show (TcpServer.handleConnection _ socket remoteAddress
          remotePort).deviceId other ≠ some ""
        intro hempty
        rw [TcpServer.deviceId_handleConnection] at hempty
        rcases ite_eq_iff.mp hempty with ⟨_, hnone⟩ | ⟨_, hother⟩
        · cases hnone
        · exact ih.named other hother
    | data socket frame now => exact ih.handleFrame henabled
    | close socket => exact ih.handleClose socket
    | markSettled j accepted =>
        constructor
        · intro socket
          show (settleMark _ j accepted).tcp.deviceId socket ≠ some ""
          rw [settleMark_tcp]
          exact ih.named socket
        · intro mark hmark
          rcases exists_mark_of_mem_settleMark hmark with
            ⟨before, hbefore, hpatch⟩
          rw [← hpatch]
          exact ih.marks before hbefore
    | upsertSettled i accepted =>
        exact ih.congr (settleUpsert_tcp _ i accepted)
          (settleUpsert_marks accepted)
    | saveSettled i accepted =>
        have hadvances := advances_settleSave accepted henabled
        exact ih.congr hadvances.tcp hadvances.marks
    | thenRuns i outcome listenerThrows =>
        have hadvances := advances_runThen listenerThrows henabled
        exact ih.congr hadvances.tcp hadvances.marks
    | catchRuns i outcome failed => exact ih.congr rfl rfl
    | finallyRuns i outcome =>
        have hadvances := advances_runFinally henabled
        exact ih.congr hadvances.tcp hadvances.marks

theorem MarksFlags.exists_flag (h : s.MarksFlags) {u : Upsert}
    {patch : DevicePatch} (hu : s.inFlight u = some patch) :
    exists flag, patch.tcpConnected = some flag := by
  cases u with
  | mark j =>
      rcases Option.bind_eq_some_iff.mp hu with ⟨mark, hmark, hpending⟩
      rcases ite_eq_iff.mp hpending with ⟨_, hpatch⟩ | ⟨_, hnone⟩
      · rw [← Option.some.inj hpatch]
        exact h.marks mark (List.mem_of_getElem? hmark)
      · cases hnone
  | report i =>
      rcases Option.bind_eq_some_iff.mp hu with ⟨task, _, hpending⟩
      rcases ite_eq_iff.mp hpending with ⟨_, hpatch⟩ | ⟨_, hnone⟩
      · rcases Option.map_eq_some_iff.mp hpatch with ⟨report, _, hpatch⟩
        rw [← hpatch]
        exact ⟨true, rfl⟩
      · cases hnone

/-- Exactly the steps that keep the flags keep the settled columns right. -/
theorem settledFlagsAgree_step {e : TrackerEvent Socket}
    (henabled : (appliedHandling Socket).Enabled s e) (hflags : s.MarksFlags)
    (h : s.SettledFlagsAgree) :
    ((frameHandling Socket).step s e).SettledFlagsAgree <->
      s.KeepsFlags e := by
  rcases henabled with ⟨henabled, happlied⟩
  cases e with
  | connect socket remoteAddress remotePort =>
      exact iff_of_true (settledFlagsAgree_connect henabled h) trivial
  | data socket frame now => exact settledFlagsAgree_data henabled h
  | close socket =>
      exact iff_of_true (settledFlagsAgree_close (hflags.named socket) h)
        trivial
  | markSettled j accepted =>
      have haccepted : accepted = true := happlied
      rcases exists_inFlight_mark henabled with ⟨patch, hu⟩
      rw [haccepted]
      exact settledFlagsAgree_settles (settles_settleMark hu) hu
        (hflags.exists_flag hu) h
  | upsertSettled i accepted =>
      have haccepted : accepted = true := happlied
      rw [haccepted]
      cases hu : s.inFlight (Upsert.report i) with
      | none =>
          show (s.settleUpsert i true).SettledFlagsAgree <-> _
          rw [settleUpsert_of_none henabled hu]
          refine iff_of_true h ?_
          intro patch hpatch
          rw [hu] at hpatch
          cases hpatch
      | some patch =>
          exact settledFlagsAgree_settles (settles_settleUpsert hu) hu
            (hflags.exists_flag hu) h
  | saveSettled i accepted =>
      exact iff_of_true
        ((advances_settleSave accepted henabled).settledFlagsAgree h) trivial
  | thenRuns i outcome listenerThrows =>
      exact iff_of_true
        ((advances_runThen listenerThrows henabled).settledFlagsAgree h)
        trivial
  | catchRuns i outcome failed =>
      exact iff_of_true ((advances_runCatch henabled).settledFlagsAgree h)
        trivial
  | finallyRuns i outcome =>
      exact iff_of_true ((advances_runFinally henabled).settledFlagsAgree h)
        trivial

end Runs

end TrackerTcpServer

/-!
## Runs
-/

section Runs

variable [DecidableEq Socket]

/-- If no upsert is in flight, every column agrees with the sockets. -/
def FlagsAgreeWhenQuiet (history : List (TrackerEvent Socket)) : Prop :=
  ((frameHandling Socket).stateAfter history).Quiet ->
    forall device, ((frameHandling Socket).stateAfter history).FlagAgrees device

/-- The same for one device after the other: a device's column agrees if none of
its own upserts is in flight. -/
def FlagsAgreeWhenSettled (history : List (TrackerEvent Socket)) : Prop :=
  ((frameHandling Socket).stateAfter history).SettledFlagsAgree

theorem FlagsAgreeWhenSettled.whenQuiet {history : List (TrackerEvent Socket)}
    (h : FlagsAgreeWhenSettled history) : FlagsAgreeWhenQuiet history := by
  intro hquiet device
  apply h
  rintro ⟨u, patch, hpatch, _⟩
  rw [hquiet u] at hpatch
  cases hpatch

theorem throughout_flagsAgreeWhenSettled_iff
    (run : (appliedHandling Socket).Run) :
    Throughout FlagsAgreeWhenSettled run.history <->
      (appliedHandling Socket).EveryStep TrackerTcpServer.KeepsFlags
        run.history := by
  refine throughout_iff_everyStep ?_ ?_ run.legal
  · intro device _ row hrow
    cases hrow
  · intro history e hlegal henabled hbefore
    have hflags := TrackerTcpServer.marksFlags (legal_of_only hlegal)
    unfold FlagsAgreeWhenSettled
    rw [stateAfter_snoc]
    exact TrackerTcpServer.settledFlagsAgree_step henabled hflags
      (hbefore history List.prefix_rfl)

/--
On a database that applies every upsert it is sent: if every step keeps the
flags, the columns agree with the sockets whenever no upsert is in flight.  The
condition is exact device by device: a column is right whenever no upsert of its
own device is in flight, throughout a run, if and only if every step keeps the
flags.
-/
theorem flagsAgree_throughout (run : (appliedHandling Socket).Run) :
    ((appliedHandling Socket).EveryStep TrackerTcpServer.KeepsFlags
        run.history ->
      Throughout FlagsAgreeWhenQuiet run.history) ∧
    ((appliedHandling Socket).EveryStep TrackerTcpServer.KeepsFlags
        run.history <->
      Throughout FlagsAgreeWhenSettled run.history) := by
  have hiff := throughout_flagsAgreeWhenSettled_iff run
  constructor
  · intro hsteps seen hseen
    exact (hiff.mpr hsteps seen hseen).whenQuiet
  · exact hiff.symm

end Runs

def heartbeatFrame : Bytes :=
  [0x2b, 0x48, 0x42, 0x44, 0x3a, 0, 20, 35, 69, 38, 3, 56, 43, 80, 9, 0x20,
    11, 1, 0x07, 0xea, 7, 7, 4, 34, 56, 0, 1, 0x23]

/-- The device connects and disconnects, and the database applies the marks in
the order they were fired. -/
def orderlyMarks : List (TrackerEvent Nat) :=
  [TrackerEvent.connect 0 none none, TrackerEvent.data 0 heartbeatFrame 0,
    TrackerEvent.markSettled 0 true, TrackerEvent.close 0,
    TrackerEvent.markSettled 1 true]

/-- The same, but the database applies the second mark first. -/
def reorderedMarks : List (TrackerEvent Nat) :=
  [TrackerEvent.connect 0 none none, TrackerEvent.data 0 heartbeatFrame 0,
    TrackerEvent.close 0, TrackerEvent.markSettled 1 true,
    TrackerEvent.markSettled 0 true]

theorem TrackerTcpServer.not_identified [DecidableEq Socket]
    {s : TrackerTcpServer Socket} {device : String}
    (h : forall entry, entry ∈ s.tcp.connections.entries ->
      entry.2.isOpen = false) : ¬ s.Identified device := by
  rintro ⟨socket, hopen, _⟩
  rcases TcpServer.exists_lookup_of_isOpen hopen with ⟨connection, hlookup⟩
  have hclosed := h _ (AList.mem_lookup_iff.mp hlookup)
  unfold TcpServer.isOpen at hopen
  rw [hlookup] at hopen
  exact Bool.false_ne_true (hclosed.symm.trans hopen)

theorem orderlyMarks_agree : Throughout FlagsAgreeWhenQuiet orderlyMarks := by
  refine (flagsAgree_throughout ⟨orderlyMarks, by decide⟩).left ?_
  have hconnect : (appliedHandling Nat).EveryStep TrackerTcpServer.KeepsFlags
      ([] ++ [TrackerEvent.connect 0 none none]) :=
    everyStep_snoc.mpr ⟨everyStep_nil, trivial⟩
  have hdata := everyStep_snoc.mpr ⟨hconnect,
    show TrackerTcpServer.KeepsFlags _
        (TrackerEvent.data 0 heartbeatFrame 0) by
      intro parsed device _ hdevice
      cases hdevice⟩
  have hconnected := everyStep_snoc.mpr ⟨hdata,
    show TrackerTcpServer.KeepsFlags _ (TrackerEvent.markSettled 0 true) by
      intro patch hpatch
      have hmark : some (markDeviceConnected "356938035643809" 0) =
          some patch := hpatch
      rw [← Option.some.inj hmark]
      exact Or.inr (iff_of_true rfl ⟨0, by decide, by decide⟩)⟩
  have hclose := everyStep_snoc.mpr ⟨hconnected,
    show TrackerTcpServer.KeepsFlags _ (TrackerEvent.close 0) by trivial⟩
  exact everyStep_snoc.mpr ⟨hclose,
    show TrackerTcpServer.KeepsFlags _ (TrackerEvent.markSettled 1 true) by
      intro patch hpatch
      have hmark : some (markDeviceDisconnected "356938035643809") =
          some patch := hpatch
      rw [← Option.some.inj hmark]
      refine Or.inr (iff_of_false (by decide) ?_)
      exact TrackerTcpServer.not_identified (by decide)⟩

/-- Nothing is in flight any more, no socket is open, and the column says that
the device is connected. -/
theorem reorderedMarks_stays_online :
    (appliedHandling Nat).Legal reorderedMarks ∧
      ¬ Throughout FlagsAgreeWhenQuiet reorderedMarks := by
  have hlegal : (appliedHandling Nat).Legal reorderedMarks := by decide
  have hmarks : ((frameHandling Nat).stateAfter reorderedMarks).marks.map
      Mark.pending = [none, none] := by decide
  have hsaves : ((frameHandling Nat).stateAfter reorderedMarks).saves.length =
      0 := by decide
  have hrow : (((frameHandling Nat).stateAfter
      reorderedMarks).devices.lookup "356938035643809").map
        TrackerDevice.tcpConnected = some true := by decide
  refine ⟨hlegal, fun hall => ?_⟩
  have hquiet : ((frameHandling Nat).stateAfter reorderedMarks).Quiet := by
    intro u
    by_contra hpending
    rcases Option.ne_none_iff_exists'.mp hpending with ⟨patch, hpatch⟩
    rcases TrackerTcpServer.pending_iff.mp ⟨u, patch, hpatch, rfl⟩ with
      ⟨mark, other, hmark, hother, _⟩ | ⟨task, _, htask, _⟩
    · have hmem := List.mem_map_of_mem (f := Mark.pending) hmark
      rw [hmarks, hother] at hmem
      simp at hmem
    · rw [List.length_eq_zero_iff.mp hsaves] at htask
      cases htask
  rcases Option.map_eq_some_iff.mp hrow with ⟨row, hlookup, honline⟩
  have hagrees := hall reorderedMarks List.prefix_rfl hquiet _ row hlookup
  exact TrackerTcpServer.not_identified (by decide) (hagrees.mp honline)

end Tracker
end AvtTracker
