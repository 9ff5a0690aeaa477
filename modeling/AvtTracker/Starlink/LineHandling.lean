import AvtTracker.Foundation.ConcurrentSaves
import AvtTracker.Foundation.Sessions
import AvtTracker.Starlink.StarlinkTcpServer

/-!
# Line by line

Behind its splitters the server handles one line after the other.  This module
states once what handling a line adds to the server, and shows that every run on
chunks is a run on lines, in which each socket delivers the lines of its own
stream, whatever the other sockets do.
-/

namespace AvtTracker
namespace Starlink

open Foundation Tcp

/-- The chain a parsed line starts, if it is an event report. -/
def startedTasks (parsed : ParsedStarlinkFrame) (now : Int) : List SaveTask :=
  if parsed.report.isSome then
    [{ parsed := parsed, startedAt := now, phase := SavePhase.upserting }]
  else []

namespace StarlinkTcpServer

variable {Socket : Type} [DecidableEq Socket]
variable (s : StarlinkTcpServer Socket) (socket : Socket)

/-- The mark fired for a socket that was not identified as the device yet. -/
def connectMarks (deviceId : String) (now : Int) :
    List (PatchJob StarlinkDevicePatch) :=
  if s.tcp.deviceId socket = some deviceId then []
  else [{ patch := markDeviceConnected deviceId now }]

def connectEmissions (deviceId : String) (now : Int) : List Emitted :=
  if s.tcp.deviceId socket = some deviceId then []
  else
    [Emitted.deviceConnected deviceId (s.peer socket).1 (s.peer socket).2 now]

theorem registerDevice_eq (deviceId : String) (now : Int) :
    s.registerDevice socket deviceId now =
      { s with
        tcp := s.tcp.registerDevice socket deviceId now
        marks := s.marks ++ s.connectMarks socket deviceId now
        emitted := s.emitted ++ s.connectEmissions socket deviceId now } := by
  unfold registerDevice connectMarks connectEmissions
  by_cases h : s.tcp.deviceId socket = some deviceId
  · simp only [if_pos h, List.append_nil]
  · simp only [if_neg h]

section Lines

variable {tags : List String} {line : Utf16} (now : Int)

theorem handleLine_error {message : Utf16}
    (h : parseFrame line tags = Except.error message) :
    s.handleLine tags socket line now = s := by
  unfold handleLine
  rw [h]

theorem handleLine_ok {parsed : ParsedStarlinkFrame}
    (h : parseFrame line tags = Except.ok parsed) :
    s.handleLine tags socket line now =
      { s with
        tcp := (starlinkProtocol.server Socket).step s.tcp
          (ServerEvent.decoded socket parsed.header now)
        marks := s.marks ++ s.connectMarks socket parsed.header.deviceId now
        saves := s.saves ++ startedTasks parsed now
        emitted := s.emitted ++
          s.connectEmissions socket parsed.header.deviceId now } := by
  unfold handleLine
  simp only [h, registerDevice_eq]
  by_cases hreport : parsed.report.isSome
  · simp only [if_pos hreport, handleReport, startedTasks]
    rfl
  · simp only [if_neg hreport, startedTasks, List.append_nil]
    rfl

end Lines

/-- The mark fired for the device a closing socket was identified as. -/
def closeMarks : List (PatchJob StarlinkDevicePatch) :=
  match s.tcp.deviceId socket with
  | none => []
  | some deviceId =>
      if deviceId = "" then []
      else [{ patch := markDeviceDisconnected deviceId }]

def closeEmissions (now : Int) : List Emitted :=
  match s.tcp.deviceId socket with
  | none => []
  | some deviceId =>
      if deviceId = "" then []
      else
        [Emitted.deviceDisconnected deviceId (s.peer socket).1
          (s.peer socket).2 now]

theorem handleClose_eq (now : Int) :
    s.handleClose socket now =
      { s with
        tcp := s.tcp.handleClose socket
        marks := s.marks ++ s.closeMarks socket
        emitted := s.emitted ++ s.closeEmissions socket now } := by
  unfold handleClose closeMarks closeEmissions
  cases s.tcp.deviceId socket with
  | none => simp only [List.append_nil]
  | some deviceId =>
      by_cases hempty : deviceId = ""
      · simp only [if_pos hempty, List.append_nil]
      · simp only [if_neg hempty]

/-!
## The server without its splitters
-/

def unsplit : StarlinkTcpServer Socket :=
  { s with splitters := ∅ }

theorem unsplit_handleLine (tags : List String) (line : Utf16) (now : Int) :
    (s.handleLine tags socket line now).unsplit =
      s.unsplit.handleLine tags socket line now := by
  cases hparse : parseFrame line tags with
  | error message =>
      rw [handleLine_error _ _ _ hparse, handleLine_error _ _ _ hparse]
  | ok parsed =>
      rw [handleLine_ok _ _ _ hparse, handleLine_ok _ _ _ hparse]
      rfl

theorem isOpen_handleLine (tags : List String) (line : Utf16) (now : Int)
    (other : Socket) :
    (s.handleLine tags socket line now).tcp.isOpen other =
      s.tcp.isOpen other := by
  cases hparse : parseFrame line tags with
  | error message => rw [handleLine_error _ _ _ hparse]
  | ok parsed =>
      rw [handleLine_ok _ _ _ hparse]
      exact starlinkProtocol.isOpen_step_decoded

end StarlinkTcpServer

/-- The event, if it is not the input of a socket. -/
def StarlinkEvent.other? {Socket Input Input' : Type} :
    StarlinkEvent Socket Input -> Option (StarlinkEvent Socket Input')
  | connect socket remoteAddress remotePort =>
      some (connect socket remoteAddress remotePort)
  | data _ _ _ => none
  | close socket now => some (close socket now)
  | markSettled j accepted => some (markSettled j accepted)
  | upsertSettled i accepted => some (upsertSettled i accepted)
  | saveSettled i accepted => some (saveSettled i accepted)
  | thenRuns i outcome listenerThrows =>
      some (thenRuns i outcome listenerThrows)
  | catchRuns i outcome failed => some (catchRuns i outcome failed)

/-- The statement about a device that the event says was applied. -/
def StarlinkEvent.applied? {Socket Input : Type} :
    StarlinkEvent Socket Input -> Option Upserter
  | markSettled j accepted => if accepted then some (Upserter.patch j) else none
  | upsertSettled i accepted => if accepted then some (Upserter.save i) else none
  | _ => none

namespace StarlinkTcpServer

variable {Socket Input Input' : Type} [DecidableEq Socket]
variable (s : StarlinkTcpServer Socket)

/-- The other handlers do not look at the splitters. -/
theorem handle_eq {e : StarlinkEvent Socket Input}
    {e' : StarlinkEvent Socket Input'} (h : e.other? = some e') :
    s.handle e = { s.unsplit.handle e' with splitters := s.splitters } := by
  cases e with
  | connect socket remoteAddress remotePort => cases h; rfl
  | data socket input now => cases h
  | close socket now =>
      cases h
      simp only [handle, handleClose_eq]
      rfl
  | markSettled j accepted =>
      cases h
      simp only [handle, settleMark, unsplit]
      cases s.marks[j]? <;> rfl
  | upsertSettled i accepted =>
      cases h
      simp only [handle, settleUpsert, unsplit]
      cases s.saves[i]? with
      | none => rfl
      | some task =>
          dsimp only
          cases task.parsed.report with
          | none => rfl
          | some report => cases accepted <;> rfl
  | saveSettled i accepted =>
      cases h
      simp only [handle, settleSave, unsplit]
      cases s.saves[i]? with
      | none => rfl
      | some task =>
          dsimp only
          cases task.parsed.report with
          | none => rfl
          | some report => cases accepted <;> rfl
  | thenRuns i outcome listenerThrows =>
      cases h
      simp only [handle, runThen, unsplit]
      cases s.saves[i]? with
      | none => rfl
      | some task => cases outcome <;> rfl
  | catchRuns i outcome failed => cases h; rfl

theorem unsplit_handle {e : StarlinkEvent Socket Input}
    {e' : StarlinkEvent Socket Input'} (h : e.other? = some e') :
    (s.handle e).unsplit = s.unsplit.handle e' := by
  have hsplitters : (s.unsplit.handle e').splitters = ∅ := by
    have hback : e'.other? = some e' := by
      cases e <;> cases h <;> rfl
    rw [s.unsplit.handle_eq hback]
    rfl
  rw [s.handle_eq h, unsplit, ← hsplitters]

theorem enabled_unsplit {e : StarlinkEvent Socket Input}
    {e' : StarlinkEvent Socket Input'} (h : e.other? = some e')
    (henabled : e.Enabled s) : e'.Enabled s.unsplit := by
  cases e with
  | data socket input now => cases h
  | _ => cases h; exact henabled

theorem tcp_handle (e : StarlinkEvent Socket Input) :
    (s.handle e).tcp =
      match e with
      | StarlinkEvent.connect socket remoteAddress remotePort =>
          s.tcp.handleConnection socket remoteAddress remotePort
      | StarlinkEvent.close socket _ => s.tcp.handleClose socket
      | _ => s.tcp := by
  cases e with
  | connect socket remoteAddress remotePort => rfl
  | data socket input now => rfl
  | close socket now => simp only [handle, handleClose_eq]
  | markSettled j accepted =>
      simp only [handle, settleMark]
      cases s.marks[j]? <;> rfl
  | upsertSettled i accepted =>
      simp only [handle, settleUpsert]
      cases s.saves[i]? with
      | none => rfl
      | some task =>
          dsimp only
          cases task.parsed.report with
          | none => rfl
          | some report => cases accepted <;> rfl
  | saveSettled i accepted =>
      simp only [handle, settleSave]
      cases s.saves[i]? with
      | none => rfl
      | some task =>
          dsimp only
          cases task.parsed.report with
          | none => rfl
          | some report => cases accepted <;> rfl
  | thenRuns i outcome listenerThrows =>
      simp only [handle, runThen]
      cases s.saves[i]? with
      | none => rfl
      | some task => cases outcome <;> rfl
  | catchRuns i outcome failed => rfl

end StarlinkTcpServer

/-!
## The streams of the sockets
-/

section Streams

variable {Socket Input : Type} [DecidableEq Socket]

def StarlinkEvent.received :
    StarlinkEvent Socket Input -> Option (Socket × Input)
  | data socket input _ => some (socket, input)
  | _ => none

/-- A splitter answers every chunk with the lines it completes. -/
def lineSplitting (maxBufferBytes : Nat) :
    Transducer StarlinkLineSplitter Bytes LinePush where
  initial := { maxBufferBytes := maxBufferBytes }
  step := StarlinkLineSplitter.push

/-- The lines of a stream that arrives in these chunks. -/
def linesOfChunks (maxBufferBytes : Nat) (chunks : List Bytes) : List Utf16 :=
  ((lineSplitting maxBufferBytes).outputs chunks).flatMap LinePush.lines

/-- The lines the sockets deliver, in the order of the chunks that complete
them. -/
def deliveredLines {Socket : Type} [DecidableEq Socket] (maxBufferBytes : Nat)
    (chunks : List (Socket × Bytes)) : List (Socket × Utf16) :=
  ((lineSplitting maxBufferBytes).parallel.outputs chunks).flatMap
    (fun keyed => keyed.2.lines.map (fun line => (keyed.1, line)))

theorem ofSession_deliveredLines {Socket : Type} [DecidableEq Socket]
    (maxBufferBytes : Nat) (chunks : List (Socket × Bytes)) (socket : Socket) :
    ofSession socket (deliveredLines maxBufferBytes chunks) =
      linesOfChunks maxBufferBytes (ofSession socket chunks) := by
  unfold deliveredLines linesOfChunks
  rw [ofSession_flatMap, parallel_outputs]

theorem pushChunks_eq_outputs (maxBufferBytes : Nat) (chunks : List Bytes) :
    forall s : StarlinkLineSplitter, s.pushChunks chunks =
      ((lineSplitting maxBufferBytes).outputsFrom s chunks,
        (lineSplitting maxBufferBytes).stateFrom s chunks) := by
  induction chunks with
  | nil => intro s; rfl
  | cons chunk chunks ih =>
      intro s
      rw [StarlinkLineSplitter.pushChunks, ih]
      rfl

section Lines

variable (tags : List String)

theorem lineHandling_lines (socket : Socket) (lines : List Utf16) (now : Int)
    (s : StarlinkTcpServer Socket) (hopen : s.tcp.isOpen socket = true) :
    (lineHandling Socket tags).LegalFrom s.unsplit
        (lines.map (fun line => StarlinkEvent.data socket line now)) ∧
      (lineHandling Socket tags).stateFrom s.unsplit
          (lines.map (fun line => StarlinkEvent.data socket line now)) =
        (s.handleLines tags socket lines now).unsplit := by
  induction lines generalizing s with
  | nil => exact ⟨trivial, rfl⟩
  | cons line lines ih =>
      have hstill := (s.isOpen_handleLine socket tags line now socket).trans
        hopen
      rcases ih (s.handleLine tags socket line now) hstill with
        ⟨hlegal, hstate⟩
      rw [s.unsplit_handleLine] at hlegal hstate
      exact ⟨⟨hopen, hlegal⟩, hstate⟩

theorem sockets_handleLine (s : StarlinkTcpServer Socket) (socket : Socket)
    (line : Utf16) (now : Int) (hopen : s.tcp.isOpen socket = true) :
    (s.handleLine tags socket line now).splitters = s.splitters ∧
      forall other, other ∈ (s.handleLine tags socket line
        now).tcp.connections <-> other ∈ s.tcp.connections := by
  cases hparse : parseFrame line tags with
  | error message =>
      rw [s.handleLine_error socket now hparse]
      exact ⟨rfl, fun _ => Iff.rfl⟩
  | ok parsed =>
      rw [s.handleLine_ok socket now hparse]
      exact ⟨rfl, fun other => TcpServer.mem_registerDevice hopen now⟩

theorem sockets_handleLines (socket : Socket) (lines : List Utf16)
    (now : Int) (s : StarlinkTcpServer Socket)
    (hopen : s.tcp.isOpen socket = true) :
    (s.handleLines tags socket lines now).splitters = s.splitters ∧
      forall other, other ∈ (s.handleLines tags socket lines
        now).tcp.connections <-> other ∈ s.tcp.connections := by
  induction lines generalizing s with
  | nil => exact ⟨rfl, fun _ => Iff.rfl⟩
  | cons line lines ih =>
      rcases sockets_handleLine tags s socket line now hopen with ⟨hsplit, hmem⟩
      rcases ih (s.handleLine tags socket line now)
        ((s.isOpen_handleLine socket tags line now socket).trans hopen) with
        ⟨hsplits, hmems⟩
      exact ⟨hsplits.trans hsplit, fun other => (hmems other).trans (hmem other)⟩

end Lines

/-!
Every socket that ever connected has a splitter.
-/

def StarlinkTcpServer.SplittersOpen (s : StarlinkTcpServer Socket) : Prop :=
  forall socket, socket ∈ s.splitters <-> socket ∈ s.tcp.connections

section Chunks

variable (maxBufferBytes : Nat) (tags : List String)
variable {s : StarlinkTcpServer Socket}

theorem handleData_lines (hs : s.SplittersOpen) {socket : Socket}
    (chunk : Bytes) (now : Int) (hopen : s.tcp.isOpen socket = true) :
    exists splitter, s.splitters.lookup socket = some splitter ∧
      (s.handleData tags socket chunk now).SplittersOpen ∧
      (s.handleData tags socket chunk now).splitters =
        s.splitters.insert socket (splitter.push chunk).2 ∧
      exists lines : List (StarlinkEvent Socket Utf16),
        (lineHandling Socket tags).LegalFrom s.unsplit lines ∧
        (lineHandling Socket tags).stateFrom s.unsplit lines =
          (s.handleData tags socket chunk now).unsplit ∧
        lines.filterMap StarlinkEvent.received =
          (splitter.push chunk).1.lines.map (fun line => (socket, line)) ∧
        lines.filterMap StarlinkEvent.applied? = [] := by
  have hmem := (hs socket).mpr (TcpServer.mem_of_isOpen hopen)
  rcases Option.isSome_iff_exists.mp (AList.lookup_isSome.mpr hmem) with
    ⟨splitter, hlookup⟩
  let pushed := splitter.push chunk
  let fed : StarlinkTcpServer Socket :=
    { s with splitters := s.splitters.insert socket pushed.2 }
  have hnext : s.handleData tags socket chunk now =
      fed.handleLines tags socket pushed.1.lines now := by
    unfold StarlinkTcpServer.handleData
    rw [hlookup]
  rcases sockets_handleLines tags socket pushed.1.lines now fed hopen with
    ⟨hsplitters, hsockets⟩
  rcases lineHandling_lines tags socket pushed.1.lines now fed hopen with
    ⟨hlegal, hstate⟩
  rw [hnext]
  refine ⟨splitter, hlookup, ?_, hsplitters, _, hlegal, hstate, ?_, ?_⟩
  · intro other
    rw [hsplitters, hsockets]
    show other ∈ s.splitters.insert socket pushed.2 <-> _
    rw [AList.mem_insert, or_iff_right_of_imp]
    · exact hs other
    · rintro rfl
      exact hmem
  · rw [List.filterMap_map]
    show pushed.1.lines.filterMap (fun line => some (socket, line)) = _
    exact congrFun List.filterMap_eq_map' _
  · rw [List.filterMap_map]
    exact List.filterMap_eq_nil_iff.mpr fun _ _ => rfl

theorem handle_splitters {e : StarlinkEvent Socket Bytes}
    {e' : StarlinkEvent Socket Utf16} (h : e.other? = some e') :
    (s.handle e).splitters = s.splitters := by
  rw [s.handle_eq h]

/-- An event that is not the input of a socket happens in both runs. -/
theorem step_other {e : StarlinkEvent Socket Bytes}
    {e' : StarlinkEvent Socket Utf16} (h : e.other? = some e') :
    ((starlinkTcpServer Socket maxBufferBytes tags).step s e).unsplit =
        (lineHandling Socket tags).step s.unsplit e' ∧
      e'.received = none ∧ e'.applied? = e.applied? := by
  have hhandle := s.unsplit_handle h
  cases e with
  | data socket chunk now => cases h
  | _ => cases h; exact ⟨hhandle, rfl, rfl⟩

omit [DecidableEq Socket] in
theorem exists_other {e : StarlinkEvent Socket Bytes} (h : e.received = none) :
    exists e' : StarlinkEvent Socket Utf16, e.other? = some e' := by
  cases e with
  | data socket chunk now => cases h
  | _ => exact ⟨_, rfl⟩

theorem splittersOpen_handle (hs : s.SplittersOpen)
    {e : StarlinkEvent Socket Bytes} {e' : StarlinkEvent Socket Utf16}
    (hother : e.other? = some e')
    (hconnect : forall socket remoteAddress remotePort,
      e ≠ StarlinkEvent.connect socket remoteAddress remotePort) :
    (s.handle e).SplittersOpen := by
  intro other
  rw [handle_splitters hother, s.tcp_handle, hs other]
  cases e with
  | connect socket remoteAddress remotePort =>
      exact absurd rfl (hconnect socket remoteAddress remotePort)
  | close socket now => exact TcpServer.mem_handleClose.symm
  | _ => exact Iff.rfl

theorem step_splitters (hs : s.SplittersOpen) {e : StarlinkEvent Socket Bytes}
    (henabled : e.Enabled s) (h : e.received = none) :
    let s' := (starlinkTcpServer Socket maxBufferBytes tags).step s e
    s'.SplittersOpen ∧ (s'.splitters = s.splitters ∨
      exists socket, socket ∉ s.splitters ∧
        s'.splitters = s.splitters.insert socket
          (lineSplitting maxBufferBytes).initial) := by
  intro s'
  rcases exists_other h with ⟨e', hother⟩
  cases e with
  | connect socket remoteAddress remotePort =>
      have hnew : socket ∉ s.splitters := fun hmem =>
        henabled ((hs socket).mp hmem)
      refine ⟨?_, Or.inr ⟨socket, hnew, rfl⟩⟩
      intro other
      show other ∈ AList.insert socket _ _ <->
        other ∈ (s.tcp.handleConnection socket _ _).connections
      rw [AList.mem_insert, TcpServer.mem_handleConnection, hs other]
  | data socket chunk now => cases h
  | _ =>
      exact ⟨splittersOpen_handle hs hother (fun _ _ _ => nomatch ·),
        Or.inl (handle_splitters hother)⟩

theorem splittersOpen_step (hs : s.SplittersOpen)
    {e : StarlinkEvent Socket Bytes} (henabled : e.Enabled s) :
    ((starlinkTcpServer Socket maxBufferBytes tags).step s e).SplittersOpen := by
  cases hreceived : e.received with
  | none => exact (step_splitters maxBufferBytes tags hs henabled hreceived).left
  | some keyed =>
      cases e with
      | data socket chunk now =>
          rcases handleData_lines tags hs chunk now henabled with
            ⟨_, _, hkept, _⟩
          exact hkept
      | _ => cases hreceived

theorem exists_idle (s : StarlinkTcpServer Socket)
    {e : StarlinkEvent Socket Bytes} (henabled : e.Enabled s)
    (h : e.received = none) :
    exists events, (lineHandling Socket tags).LegalFrom s.unsplit events ∧
      (lineHandling Socket tags).stateFrom s.unsplit events =
        ((starlinkTcpServer Socket maxBufferBytes tags).step s e).unsplit ∧
      events.filterMap StarlinkEvent.received = [] ∧
      events.filterMap StarlinkEvent.applied? =
        [e].filterMap StarlinkEvent.applied? := by
  rcases exists_other h with ⟨e', hother⟩
  rcases step_other (s := s) maxBufferBytes tags hother with
    ⟨hstep, hnone, happlied⟩
  refine ⟨[e'], ⟨s.enabled_unsplit hother henabled, trivial⟩, hstep.symm,
    List.filterMap_cons_none hnone, ?_⟩
  rw [List.filterMap_cons, List.filterMap_cons, happlied]
  rfl

/-- The server as one that feeds line splitters. -/
def lineServer : SessionServer (starlinkTcpServer Socket maxBufferBytes tags)
    (lineHandling Socket tags) Socket StarlinkLineSplitter Bytes LinePush
    Utf16 Upserter where
  machine := lineSplitting maxBufferBytes
  messages := LinePush.lines
  project := StarlinkTcpServer.unsplit
  table := StarlinkTcpServer.splitters
  Inv := StarlinkTcpServer.SplittersOpen
  input := StarlinkEvent.received
  message := StarlinkEvent.received
  label := StarlinkEvent.applied?
  label' := StarlinkEvent.applied?
  initial _ := Iff.rfl
  project_initial := rfl
  table_initial := rfl
  kept _ _ hs henabled := splittersOpen_step maxBufferBytes tags hs henabled
  idle s _ hs henabled hinput :=
    ⟨exists_idle maxBufferBytes tags s henabled hinput,
      (step_splitters maxBufferBytes tags hs henabled hinput).right⟩
  fed s e socket chunk hs henabled hinput := by
    cases e with
    | data other input now =>
        cases hinput
        rcases handleData_lines tags hs chunk now henabled with
          ⟨splitter, hlookup, _, hsplitters, hlines⟩
        exact ⟨splitter, hlookup, hsplitters, hlines⟩
    | _ => cases hinput

/-- A run on lines is, for the sockets, a run of the connection system. -/
theorem exists_connection_run {tags : List String}
    {history : List (StarlinkEvent Socket Utf16)}
    (h : (lineHandling Socket tags).Legal history) :
    exists trace, (starlinkProtocol.server Socket).Legal trace ∧
      starlinkProtocol.after trace =
        ((lineHandling Socket tags).stateAfter history).tcp := by
  refine EventSystem.exists_projected_run StarlinkTcpServer.tcp rfl ?_ h
  intro s e henabled
  cases e with
  | connect socket remoteAddress remotePort =>
      exact ⟨[ServerEvent.connect socket remoteAddress remotePort],
        ⟨henabled, trivial⟩, rfl⟩
  | data socket line now =>
      show exists events, _ ∧ _ = (s.handleLine tags socket line now).tcp
      cases hparse : parseFrame line tags with
      | error message =>
          rw [s.handleLine_error socket now hparse]
          exact ⟨[], trivial, rfl⟩
      | ok parsed =>
          rw [s.handleLine_ok socket now hparse]
          exact ⟨[ServerEvent.decoded socket parsed.header now],
            ⟨henabled, trivial⟩, rfl⟩
  | close socket now =>
      exact ⟨[ServerEvent.close socket], ⟨henabled, trivial⟩,
        (s.tcp_handle (StarlinkEvent.close socket now :
          StarlinkEvent Socket Utf16)).symm⟩
  | markSettled j accepted =>
      exact ⟨[], trivial, (s.tcp_handle (StarlinkEvent.markSettled j accepted :
        StarlinkEvent Socket Utf16)).symm⟩
  | upsertSettled i accepted =>
      exact ⟨[], trivial, (s.tcp_handle (StarlinkEvent.upsertSettled i
        accepted : StarlinkEvent Socket Utf16)).symm⟩
  | saveSettled i accepted =>
      exact ⟨[], trivial, (s.tcp_handle (StarlinkEvent.saveSettled i
        accepted : StarlinkEvent Socket Utf16)).symm⟩
  | thenRuns i outcome listenerThrows =>
      exact ⟨[], trivial, (s.tcp_handle (StarlinkEvent.thenRuns i outcome
        listenerThrows : StarlinkEvent Socket Utf16)).symm⟩
  | catchRuns i outcome failed => exact ⟨[], trivial, rfl⟩

/-- Every run on chunks is a run on the lines they deliver, in which the database
applies the same statements. -/
theorem exists_line_run {maxBufferBytes : Nat} {tags : List String}
    {history : List (StarlinkEvent Socket Bytes)}
    (h : (starlinkTcpServer Socket maxBufferBytes tags).Legal history) :
    exists trace, (lineHandling Socket tags).Legal trace ∧
      (lineHandling Socket tags).stateAfter trace =
        ((starlinkTcpServer Socket maxBufferBytes tags).stateAfter
          history).unsplit ∧
      trace.filterMap StarlinkEvent.received =
        deliveredLines maxBufferBytes
          (history.filterMap StarlinkEvent.received) ∧
      trace.filterMap StarlinkEvent.applied? =
        history.filterMap StarlinkEvent.applied? := by
  rcases (lineServer maxBufferBytes tags).exists_message_run h with
    ⟨trace, hrun⟩
  exact ⟨trace, hrun.legal, hrun.state, hrun.messages, hrun.labels⟩

end Chunks

end Streams

end Starlink
end AvtTracker
