import AvtTracker.Publishing.EventPublisher
import AvtTracker.Starlink.Settlement
import AvtTracker.Tcp.ConnectionInfo
import AvtTracker.Tracker.FrameHandling

/-!
# What the servers emit

Each step of a server adds to its emissions at the end.  What it adds comes from
the socket whose handler runs, or from the chain whose {lit}`then` part does, and
the peers it tells of are those the sockets connected from.
-/

namespace AvtTracker
namespace Publishing

open Foundation Tcp Tracker Starlink

variable {Socket : Type} [DecidableEq Socket]

/-!
## The tracker's server
-/

/-- The emissions a step can make. -/
inductive TrackerEmits :
    TrackerEvent Socket -> Tracker.Emitted -> Prop where
  | connected (socket : Socket) (chunk : Bytes) (now : Int) (imei : String) :
      TrackerEmits (TrackerEvent.data socket chunk now)
        (Tracker.Emitted.deviceConnected imei)
  | disconnected (socket : Socket) (imei : String) :
      TrackerEmits (TrackerEvent.close socket)
        (Tracker.Emitted.deviceDisconnected imei)
  | report (i : Nat) (listenerThrows : Bool) :
      TrackerEmits
        (TrackerEvent.thenRuns i Tracker.SaveOutcome.row listenerThrows)
        (Tracker.Emitted.reportReceived i)

section Tracker

variable (s : TrackerTcpServer Socket) (socket : Socket)

theorem connectEmissions_connected (imei : String) {x : Tracker.Emitted}
    (hx : x ∈ s.connectEmissions socket imei) :
    x = Tracker.Emitted.deviceConnected imei := by
  unfold TrackerTcpServer.connectEmissions at hx
  by_cases h : s.tcp.deviceId socket = some imei
  · rw [if_pos h] at hx
    cases hx
  · rw [if_neg h] at hx
    exact List.mem_singleton.mp hx

theorem emitted_handleFrame (frame : Bytes) (now : Int) :
    (s.handleFrame socket frame now).reports = s.reports ∧
      exists added, (s.handleFrame socket frame now).emitted =
        s.emitted ++ added ∧
          forall x, x ∈ added -> exists imei,
            x = Tracker.Emitted.deviceConnected imei := by
  cases hparse : parseFrame frame with
  | error message =>
      rw [s.handleFrame_error socket now hparse]
      exact ⟨rfl, [], (List.append_nil _).symm, nofun⟩
  | ok parsed =>
      rw [s.handleFrame_ok socket now hparse]
      exact ⟨rfl, _, rfl,
        fun x hx => ⟨_, connectEmissions_connected s socket _ hx⟩⟩

theorem emitted_handleFrames (frames : List Bytes) (now : Int) :
    (s.handleFrames socket frames now).reports = s.reports ∧
      exists added, (s.handleFrames socket frames now).emitted =
        s.emitted ++ added ∧
          forall x, x ∈ added -> exists imei,
            x = Tracker.Emitted.deviceConnected imei := by
  induction frames generalizing s with
  | nil => exact ⟨rfl, [], (List.append_nil _).symm, nofun⟩
  | cons frame frames ih =>
      rcases emitted_handleFrame s socket frame now with
        ⟨hreports, first, hfirst, hkind⟩
      rcases ih (s.handleFrame socket frame now) with
        ⟨hreports', later, hlater, hkind'⟩
      refine ⟨hreports'.trans hreports, first ++ later, ?_, ?_⟩
      · rw [← List.append_assoc, ← hfirst]
        exact hlater
      · intro x hx
        exact (List.mem_append.mp hx).elim (hkind x) (hkind' x)

theorem closeEmissions_disconnected {x : Tracker.Emitted}
    (hx : x ∈ s.closeEmissions socket) :
    exists imei, x = Tracker.Emitted.deviceDisconnected imei := by
  unfold TrackerTcpServer.closeEmissions at hx
  cases hdevice : s.tcp.deviceId socket with
  | none =>
      rw [hdevice] at hx
      cases hx
  | some imei =>
      rw [hdevice] at hx
      by_cases hempty : imei = ""
      · simp only [if_pos hempty] at hx
        cases hx
      · simp only [if_neg hempty] at hx
        exact ⟨imei, List.mem_singleton.mp hx⟩

variable (maxBufferBytes : Nat)

/-- Emissions and rows are only ever added. -/
structure TrackerGrows (s s' : TrackerTcpServer Socket)
    (e : TrackerEvent Socket) : Prop where
  reports : s.reports <+: s'.reports
  emitted : exists added, s'.emitted = s.emitted ++ added ∧
    forall x, x ∈ added -> TrackerEmits e x

theorem trackerGrows (e : TrackerEvent Socket) :
    TrackerGrows s ((trackerTcpServer Socket maxBufferBytes).step s e) e := by
  have hquiet : forall s' : TrackerTcpServer Socket,
      s.reports <+: s'.reports -> s'.emitted = s.emitted ->
        TrackerGrows s s' e :=
    fun s' hreports hsame =>
      ⟨hreports, [], hsame.trans (List.append_nil _).symm, nofun⟩
  have hsame := List.prefix_refl s.reports
  cases e with
  | connect socket remoteAddress remotePort => exact hquiet _ hsame rfl
  | data socket chunk now =>
      show TrackerGrows s (s.handleData socket chunk now) _
      unfold TrackerTcpServer.handleData
      cases s.splitters.lookup socket with
      | none => exact hquiet s hsame rfl
      | some splitter =>
          let pushed := splitter.push chunk
          let fed : TrackerTcpServer Socket :=
            { s with splitters := s.splitters.insert socket pushed.2 }
          rcases emitted_handleFrames fed socket pushed.1.frames now with
            ⟨hreports, added, hadded, hkind⟩
          refine ⟨hreports.symm ▸ hsame, added, hadded, fun x hx => ?_⟩
          rcases hkind x hx with ⟨imei, rfl⟩
          exact TrackerEmits.connected socket chunk now imei
  | close socket =>
      show TrackerGrows s (s.handleClose socket) _
      rw [s.handleClose_eq socket]
      refine ⟨hsame, s.closeEmissions socket, rfl, fun x hx => ?_⟩
      rcases closeEmissions_disconnected s socket hx with ⟨imei, rfl⟩
      exact TrackerEmits.disconnected socket imei
  | markSettled j accepted =>
      show TrackerGrows s (s.settleMark j accepted) _
      unfold TrackerTcpServer.settleMark
      cases s.marks[j]? <;> exact hquiet _ hsame rfl
  | upsertSettled i accepted =>
      show TrackerGrows s (s.settleUpsert i accepted) _
      unfold TrackerTcpServer.settleUpsert
      cases s.saves[i]? with
      | none => exact hquiet _ hsame rfl
      | some task =>
          dsimp only
          cases task.parsed.report <;> cases accepted <;>
            exact hquiet _ hsame rfl
  | saveSettled i accepted =>
      show TrackerGrows s (s.settleSave i accepted) _
      unfold TrackerTcpServer.settleSave
      cases s.saves[i]? with
      | none => exact hquiet _ hsame rfl
      | some task =>
          dsimp only
          cases task.parsed.report with
          | none => exact hquiet _ hsame rfl
          | some report =>
              cases accepted with
              | true => exact hquiet _ (List.prefix_append _ _) rfl
              | false => exact hquiet _ hsame rfl
  | thenRuns i outcome listenerThrows =>
      cases outcome with
      | row =>
          refine ⟨hsame, [Tracker.Emitted.reportReceived i], rfl, ?_⟩
          intro x hx
          rw [List.mem_singleton.mp hx]
          exact TrackerEmits.report i listenerThrows
      | null => exact hquiet _ hsame rfl
      | rejected => exact hquiet _ hsame rfl
  | catchRuns i outcome failed => exact hquiet _ hsame rfl
  | finallyRuns i outcome =>
      show TrackerGrows s (s.runFinally i outcome) _
      unfold TrackerTcpServer.runFinally
      cases s.saves[i]? <;> exact hquiet _ hsame rfl

theorem peersKept_handleFrames (frames : List Bytes) (now : Int) :
    TcpServer.PeersKept s.tcp (s.handleFrames socket frames now).tcp := by
  induction frames generalizing s with
  | nil => exact TcpServer.PeersKept.refl _
  | cons frame frames ih =>
      refine TcpServer.PeersKept.trans ?_ (ih (s.handleFrame socket frame now))
      cases hparse : parseFrame frame with
      | error message =>
          rw [s.handleFrame_error socket now hparse]
          exact TcpServer.PeersKept.refl _
      | ok parsed =>
          rw [s.handleFrame_tcp socket now hparse]
          exact trackerProtocol.peersKept_step_decoded

variable {maxBufferBytes} {history : List (TrackerEvent Socket)}

theorem trackerPeers
    (h : (trackerTcpServer Socket maxBufferBytes).Legal history) :
    forall socket connection,
      ((trackerTcpServer Socket maxBufferBytes).stateAfter
        history).tcp.connections.lookup socket = some connection ->
      TrackerEvent.connect socket connection.remoteAddress
        connection.remotePort ∈ history := by
  refine EventSystem.invariant ?_ ?_ h
  · intro socket connection hlookup
    cases hlookup
  · intro history e _ _ ih
    rw [EventSystem.stateAfter_snoc]
    generalize (trackerTcpServer Socket maxBufferBytes).stateAfter history = s
      at ih
    have hkeeps : forall t, TcpServer.PeersKept s.tcp t ->
        forall socket connection,
          t.connections.lookup socket = some connection ->
            TrackerEvent.connect socket connection.remoteAddress
              connection.remotePort ∈ history ++ [e] := by
      intro t hkept socket connection hlookup
      rcases hkept socket connection hlookup with ⟨before, hold, haddress, hport⟩
      rw [haddress, hport]
      exact List.mem_append_left _ (ih socket before hold)
    have hsame : forall t, t = s.tcp -> TcpServer.PeersKept s.tcp t := by
      rintro t rfl
      exact TcpServer.PeersKept.refl _
    cases e with
    | connect new remoteAddress remotePort =>
        intro socket connection hlookup
        have hinsert : (s.tcp.handleConnection new remoteAddress
            remotePort).connections.lookup socket = some connection := hlookup
        unfold TcpServer.handleConnection at hinsert
        by_cases hnew : socket = new
        · rw [hnew, AList.lookup_insert] at hinsert
          rw [hnew, ← Option.some.inj hinsert]
          exact List.mem_concat_self
        · rw [AList.lookup_insert_ne hnew] at hinsert
          exact List.mem_append_left _ (ih socket connection hinsert)
    | data socket chunk now =>
        apply hkeeps
        show TcpServer.PeersKept s.tcp (s.handleData socket chunk now).tcp
        unfold TrackerTcpServer.handleData
        cases s.splitters.lookup socket with
        | none => exact TcpServer.PeersKept.refl _
        | some splitter =>
            exact peersKept_handleFrames { s with splitters := _ } socket _ now
    | close socket =>
        apply hkeeps
        show TcpServer.PeersKept s.tcp (s.handleClose socket).tcp
        rw [s.handleClose_tcp socket]
        exact TcpServer.peersKept_handleClose
    | markSettled j accepted =>
        exact hkeeps _ (hsame _ (s.settleMark_tcp j accepted))
    | upsertSettled i accepted =>
        exact hkeeps _ (hsame _ (s.settleUpsert_tcp i accepted))
    | saveSettled i accepted =>
        exact hkeeps _ (hsame _ (s.settleSave_tcp i accepted))
    | thenRuns i outcome listenerThrows =>
        exact hkeeps _ (hsame _ (s.runThen_tcp i outcome listenerThrows))
    | catchRuns i outcome failed => exact hkeeps _ (hsame _ rfl)
    | finallyRuns i outcome =>
        exact hkeeps _ (hsame _ (s.runFinally_tcp i outcome))

end Tracker

/-!
## The StarLink server
-/

/-- The peer an emission tells of is one that connected. -/
def FromPeer (Came : Socket -> Option String -> Option Nat -> Prop) :
    Starlink.Emitted -> Prop
  | Starlink.Emitted.deviceConnected _ remoteAddress remotePort _ =>
      exists socket, Came socket remoteAddress remotePort
  | Starlink.Emitted.deviceDisconnected _ remoteAddress remotePort _ =>
      exists socket, Came socket remoteAddress remotePort
  | Starlink.Emitted.reportReceived _ _ _ => True

/-- So are the peers of the sockets. -/
structure PeersFrom (Came : Socket -> Option String -> Option Nat -> Prop)
    (s : StarlinkTcpServer Socket) : Prop where
  sockets : forall socket connection,
    s.tcp.connections.lookup socket = some connection ->
      Came socket connection.remoteAddress connection.remotePort
  emitted : forall x, x ∈ s.emitted -> FromPeer Came x

/-- Emissions and rows are only ever added. -/
structure StarlinkGrows (s s' : StarlinkTcpServer Socket) : Prop where
  reports : s.reports <+: s'.reports
  emitted : s.emitted <+: s'.emitted

section Starlink

variable {Came : Socket -> Option String -> Option Nat -> Prop}
variable {s : StarlinkTcpServer Socket} {socket : Socket}

omit [DecidableEq Socket] in
theorem StarlinkGrows.refl (s : StarlinkTcpServer Socket) :
    StarlinkGrows s s :=
  ⟨List.prefix_rfl, List.prefix_rfl⟩

omit [DecidableEq Socket] in
theorem StarlinkGrows.trans {s' s'' : StarlinkTcpServer Socket}
    (h : StarlinkGrows s s') (h' : StarlinkGrows s' s'') :
    StarlinkGrows s s'' :=
  ⟨h.reports.trans h'.reports, h.emitted.trans h'.emitted⟩

omit [DecidableEq Socket] in
theorem FromPeer.mono {Came' : Socket -> Option String -> Option Nat -> Prop}
    (hcame : forall socket remoteAddress remotePort,
      Came socket remoteAddress remotePort ->
        Came' socket remoteAddress remotePort)
    {x : Starlink.Emitted} (h : FromPeer Came x) : FromPeer Came' x := by
  cases x with
  | deviceConnected deviceId address port connectedAt =>
      rcases h with ⟨socket, h⟩
      exact ⟨socket, hcame _ _ _ h⟩
  | deviceDisconnected deviceId address port disconnectedAt =>
      rcases h with ⟨socket, h⟩
      exact ⟨socket, hcame _ _ _ h⟩
  | reportReceived deviceId i saved => trivial

theorem PeersFrom.mono {Came' : Socket -> Option String -> Option Nat -> Prop}
    (h : PeersFrom Came s)
    (hcame : forall socket remoteAddress remotePort,
      Came socket remoteAddress remotePort ->
        Came' socket remoteAddress remotePort) : PeersFrom Came' s where
  sockets socket connection hlookup :=
    hcame _ _ _ (h.sockets socket connection hlookup)
  emitted x hx := (h.emitted x hx).mono hcame

theorem PeersFrom.peer (h : PeersFrom Came s)
    (hopen : s.tcp.isOpen socket = true) :
    Came socket (s.peer socket).1 (s.peer socket).2 := by
  rcases TcpServer.exists_lookup_of_isOpen hopen with ⟨connection, hlookup⟩
  unfold StarlinkTcpServer.peer
  rw [hlookup]
  exact h.sockets socket connection hlookup

theorem PeersFrom.extend (h : PeersFrom Came s)
    {s' : StarlinkTcpServer Socket} {added : List Starlink.Emitted}
    (hkept : TcpServer.PeersKept s.tcp s'.tcp)
    (hemitted : s'.emitted = s.emitted ++ added)
    (hadded : forall x, x ∈ added -> FromPeer Came x) : PeersFrom Came s' := by
  constructor
  · intro other connection hlookup
    rcases hkept other connection hlookup with ⟨before, hold, haddress, hport⟩
    rw [haddress, hport]
    exact h.sockets other before hold
  · intro x hx
    rw [hemitted] at hx
    exact (List.mem_append.mp hx).elim (h.emitted x) (hadded x)

theorem PeersFrom.handleLine (h : PeersFrom Came s)
    (hopen : s.tcp.isOpen socket = true) (tags : List String) (line : Utf16)
    (now : Int) :
    PeersFrom Came (s.handleLine tags socket line now) ∧
      StarlinkGrows s (s.handleLine tags socket line now) := by
  cases hparse : Starlink.parseFrame line tags with
  | error message =>
      rw [s.handleLine_error socket now hparse]
      exact ⟨h, StarlinkGrows.refl s⟩
  | ok parsed =>
      rw [s.handleLine_ok socket now hparse]
      refine ⟨h.extend starlinkProtocol.peersKept_step_decoded rfl ?_,
        List.prefix_rfl, List.prefix_append _ _⟩
      intro x hx
      unfold StarlinkTcpServer.connectEmissions at hx
      by_cases hid : s.tcp.deviceId socket = some parsed.header.deviceId
      · rw [if_pos hid] at hx
        cases hx
      · rw [if_neg hid] at hx
        rw [List.mem_singleton.mp hx]
        exact ⟨socket, h.peer hopen⟩

theorem PeersFrom.handleLines (h : PeersFrom Came s)
    (hopen : s.tcp.isOpen socket = true) (tags : List String)
    (lines : List Utf16) (now : Int) :
    PeersFrom Came (s.handleLines tags socket lines now) ∧
      StarlinkGrows s (s.handleLines tags socket lines now) := by
  induction lines generalizing s with
  | nil => exact ⟨h, StarlinkGrows.refl s⟩
  | cons line lines ih =>
      rcases h.handleLine hopen tags line now with ⟨hline, hgrows⟩
      have hstill := (s.isOpen_handleLine socket tags line now socket).trans
        hopen
      rcases ih hline hstill with ⟨hlines, hlater⟩
      exact ⟨hlines, hgrows.trans hlater⟩

theorem PeersFrom.handleClose (h : PeersFrom Came s)
    (hopen : s.tcp.isOpen socket = true) (now : Int) :
    PeersFrom Came (s.handleClose socket now) ∧
      StarlinkGrows s (s.handleClose socket now) := by
  rw [s.handleClose_eq socket now]
  refine ⟨h.extend TcpServer.peersKept_handleClose rfl ?_, List.prefix_rfl,
    List.prefix_append _ _⟩
  intro x hx
  unfold StarlinkTcpServer.closeEmissions at hx
  cases hdevice : s.tcp.deviceId socket with
  | none =>
      rw [hdevice] at hx
      cases hx
  | some deviceId =>
      rw [hdevice] at hx
      by_cases hempty : deviceId = ""
      · simp only [if_pos hempty] at hx
        cases hx
      · simp only [if_neg hempty] at hx
        rw [List.mem_singleton.mp hx]
        exact ⟨socket, h.peer hopen⟩

theorem PeersFrom.connect (h : PeersFrom Came s)
    {remoteAddress : Option String} {remotePort : Option Nat}
    (hcame : Came socket remoteAddress remotePort) (maxBufferBytes : Nat) :
    PeersFrom Came (s.handleConnection maxBufferBytes socket remoteAddress
      remotePort) := by
  refine ⟨?_, h.emitted⟩
  intro other connection hlookup
  have hinsert : (s.tcp.handleConnection socket remoteAddress
      remotePort).connections.lookup other = some connection := hlookup
  unfold TcpServer.handleConnection at hinsert
  by_cases hnew : other = socket
  · rw [hnew, AList.lookup_insert] at hinsert
    rw [hnew, ← Option.some.inj hinsert]
    exact hcame
  · rw [AList.lookup_insert_ne hnew] at hinsert
    exact h.sockets other connection hinsert

theorem PeersFrom.quiet (h : PeersFrom Came s)
    {s' : StarlinkTcpServer Socket} (htcp : s'.tcp = s.tcp)
    (hemitted : s'.emitted = s.emitted)
    (hreports : s.reports <+: s'.reports) :
    PeersFrom Came s' ∧ StarlinkGrows s s' := by
  have hkept : TcpServer.PeersKept s.tcp s'.tcp := by
    rw [htcp]
    exact TcpServer.PeersKept.refl _
  have hnothing : s'.emitted = s.emitted ++ [] :=
    hemitted.trans (List.append_nil _).symm
  have hnone : forall x, x ∈ ([] : List Starlink.Emitted) ->
      FromPeer Came x := fun _ hx => nomatch hx
  refine ⟨h.extend hkept hnothing hnone, hreports, ?_⟩
  rw [hemitted]

omit [DecidableEq Socket] in
theorem announcement_reports (i : Nat) (task : Starlink.SaveTask) :
    (Starlink.SaveTask.announcement i task).length ≤ 1 ∧
      forall x, x ∈ Starlink.SaveTask.announcement i task ->
        exists deviceId saved,
          x = Starlink.Emitted.reportReceived deviceId i saved := by
  unfold Starlink.SaveTask.announcement
  cases task.parsed.report with
  | none => exact ⟨Nat.zero_le 1, fun _ hx => nomatch hx⟩
  | some report =>
      exact ⟨Nat.le_refl 1, fun x hx => ⟨_, _, List.mem_singleton.mp hx⟩⟩

theorem PeersFrom.runThen (h : PeersFrom Came s) (i : Nat)
    (outcome : Starlink.SaveOutcome) (listenerThrows : Bool) :
    PeersFrom Came (s.runThen i outcome listenerThrows) ∧
      StarlinkGrows s (s.runThen i outcome listenerThrows) := by
  unfold StarlinkTcpServer.runThen
  cases s.saves[i]? with
  | none => exact h.quiet rfl rfl List.prefix_rfl
  | some task =>
      cases outcome with
      | row =>
          refine ⟨h.extend (TcpServer.PeersKept.refl _) rfl ?_,
            List.prefix_rfl, List.prefix_append _ _⟩
          intro x hx
          rcases (announcement_reports i task).right x hx with
            ⟨deviceId, saved, rfl⟩
          trivial
      | null => exact h.quiet rfl rfl List.prefix_rfl
      | rejected => exact h.quiet rfl rfl List.prefix_rfl

theorem PeersFrom.step (h : PeersFrom Came s)
    {e : StarlinkEvent Socket Bytes} (henabled : e.Enabled s)
    (hcame : forall socket remoteAddress remotePort,
      e = StarlinkEvent.connect socket remoteAddress remotePort ->
        Came socket remoteAddress remotePort) (maxBufferBytes : Nat)
    (tags : List String) :
    let s' := (starlinkTcpServer Socket maxBufferBytes tags).step s e
    PeersFrom Came s' ∧ StarlinkGrows s s' := by
  have htcp := s.tcp_handle e
  have hsame := List.prefix_refl s.reports
  cases e with
  | connect socket remoteAddress remotePort =>
      exact ⟨h.connect (hcame _ _ _ rfl) maxBufferBytes, hsame,
        List.prefix_rfl⟩
  | data socket chunk now =>
      show PeersFrom Came (s.handleData tags socket chunk now) ∧
        StarlinkGrows s (s.handleData tags socket chunk now)
      unfold StarlinkTcpServer.handleData
      cases s.splitters.lookup socket with
      | none => exact ⟨h, StarlinkGrows.refl s⟩
      | some splitter =>
          let pushed := splitter.push chunk
          let fed : StarlinkTcpServer Socket :=
            { s with splitters := s.splitters.insert socket pushed.2 }
          have hfed : PeersFrom Came fed := ⟨h.sockets, h.emitted⟩
          rcases hfed.handleLines henabled tags pushed.1.lines now with
            ⟨hlines, hgrows⟩
          exact ⟨hlines, hgrows.reports, hgrows.emitted⟩
  | close socket now => exact h.handleClose henabled now
  | markSettled j accepted =>
      show PeersFrom Came (s.settleMark j accepted) ∧
        StarlinkGrows s (s.settleMark j accepted)
      unfold StarlinkTcpServer.settleMark
      cases s.marks[j]? <;> exact h.quiet rfl rfl hsame
  | upsertSettled i accepted =>
      show PeersFrom Came (s.settleUpsert i accepted) ∧
        StarlinkGrows s (s.settleUpsert i accepted)
      unfold StarlinkTcpServer.settleUpsert
      cases s.saves[i]? with
      | none => exact h.quiet rfl rfl hsame
      | some task =>
          dsimp only
          cases task.parsed.report <;> cases accepted <;>
            exact h.quiet rfl rfl hsame
  | saveSettled i accepted =>
      show PeersFrom Came (s.settleSave i accepted) ∧
        StarlinkGrows s (s.settleSave i accepted)
      unfold StarlinkTcpServer.settleSave
      cases s.saves[i]? with
      | none => exact h.quiet rfl rfl hsame
      | some task =>
          dsimp only
          cases task.parsed.report with
          | none => exact h.quiet rfl rfl hsame
          | some report =>
              cases accepted with
              | true => exact h.quiet rfl rfl (List.prefix_append _ _)
              | false => exact h.quiet rfl rfl hsame
  | thenRuns i outcome listenerThrows =>
      exact h.runThen i outcome listenerThrows
  | catchRuns i outcome failed => exact h.quiet htcp rfl hsame

theorem starlinkEmits_internal {Input : Type} (s : StarlinkTcpServer Socket)
    {e : StarlinkEvent Socket Input} (hinternal : e.Internal) :
    exists added, (s.handle e).emitted = s.emitted ++ added ∧
      added.length ≤ 1 ∧ forall x, x ∈ added -> exists deviceId i saved,
        x = Starlink.Emitted.reportReceived deviceId i saved := by
  have hquiet : forall s' : StarlinkTcpServer Socket,
      s'.emitted = s.emitted -> exists added,
        s'.emitted = s.emitted ++ added ∧ added.length ≤ 1 ∧
          forall x, x ∈ added -> exists deviceId i saved,
            x = Starlink.Emitted.reportReceived deviceId i saved :=
    fun s' hsame => ⟨[], hsame.trans (List.append_nil _).symm, Nat.zero_le 1,
      fun _ hx => nomatch hx⟩
  cases e with
  | connect _ _ _ => exact hinternal.elim
  | data _ _ _ => exact hinternal.elim
  | close _ _ => exact hinternal.elim
  | markSettled j accepted =>
      simp only [StarlinkTcpServer.handle, StarlinkTcpServer.settleMark]
      cases s.marks[j]? <;> exact hquiet _ rfl
  | upsertSettled i accepted =>
      simp only [StarlinkTcpServer.handle, StarlinkTcpServer.settleUpsert]
      cases s.saves[i]? with
      | none => exact hquiet _ rfl
      | some task =>
          dsimp only
          cases task.parsed.report <;> cases accepted <;> exact hquiet _ rfl
  | saveSettled i accepted =>
      simp only [StarlinkTcpServer.handle, StarlinkTcpServer.settleSave]
      cases s.saves[i]? with
      | none => exact hquiet _ rfl
      | some task =>
          dsimp only
          cases task.parsed.report <;> cases accepted <;> exact hquiet _ rfl
  | thenRuns i outcome listenerThrows =>
      simp only [StarlinkTcpServer.handle, StarlinkTcpServer.runThen]
      cases s.saves[i]? with
      | none => exact hquiet _ rfl
      | some task =>
          cases outcome with
          | row =>
              rcases announcement_reports i task with ⟨hlength, hreport⟩
              refine ⟨Starlink.SaveTask.announcement i task, rfl, hlength, ?_⟩
              intro x hx
              rcases hreport x hx with ⟨deviceId, saved, hsame⟩
              exact ⟨deviceId, i, saved, hsame⟩
          | null => exact hquiet _ rfl
          | rejected => exact hquiet _ rfl
  | catchRuns i outcome failed => exact hquiet _ rfl

variable {maxBufferBytes : Nat} {tags : List String}
variable {history : List (StarlinkEvent Socket Bytes)}

theorem starlinkPeers
    (h : (starlinkTcpServer Socket maxBufferBytes tags).Legal history) :
    PeersFrom (fun socket remoteAddress remotePort =>
        StarlinkEvent.connect socket remoteAddress remotePort ∈ history)
      ((starlinkTcpServer Socket maxBufferBytes tags).stateAfter history) := by
  refine EventSystem.invariant ?_ ?_ h
  · constructor
    · intro socket connection hlookup
      cases hlookup
    · intro x hx
      cases hx
  · intro history e _ henabled ih
    rw [EventSystem.stateAfter_snoc]
    have hkept : PeersFrom (fun socket remoteAddress remotePort =>
        StarlinkEvent.connect socket remoteAddress remotePort ∈ history ++ [e])
        ((starlinkTcpServer Socket maxBufferBytes tags).stateAfter history) :=
      ih.mono fun _ _ _ hcame => List.mem_append_left _ hcame
    refine (hkept.step henabled ?_ maxBufferBytes tags).left
    rintro socket remoteAddress remotePort rfl
    exact List.mem_concat_self

end Starlink

end Publishing
end AvtTracker
