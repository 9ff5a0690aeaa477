import AvtTracker.Foundation.FramingConservation
import AvtTracker.Foundation.Sessions
import AvtTracker.Tracker.FrameParts
import AvtTracker.Tracker.Replies

/-!
# The streams of the sockets

The server keeps a splitter for every socket, so the frames it handles for a
socket are those of the bytes received on that socket.  What it writes there, and
what it saves, is thus determined by these bytes, whatever the other sockets do.
-/

namespace AvtTracker
namespace Tracker

open Foundation Tcp

/-- A splitter answers every chunk with the frames it completes. -/
def frameSplitting (maxBufferBytes : Nat) :
    Transducer TrackerFrameSplitter Bytes Push where
  initial := { maxBufferBytes := maxBufferBytes }
  step := TrackerFrameSplitter.push

theorem pushChunks_eq_outputs (maxBufferBytes : Nat) (chunks : List Bytes) :
    forall s : TrackerFrameSplitter, s.pushChunks chunks =
      ((frameSplitting maxBufferBytes).outputsFrom s chunks,
        (frameSplitting maxBufferBytes).stateFrom s chunks) := by
  induction chunks with
  | nil => intro s; rfl
  | cons chunk chunks ih =>
      intro s
      rw [TrackerFrameSplitter.pushChunks, ih]
      rfl

def framesOfChunks (maxBufferBytes : Nat) (chunks : List Bytes) : List Bytes :=
  framesOf (TrackerFrameSplitter.pushChunks
    { maxBufferBytes := maxBufferBytes } chunks).1

namespace TrackerTcpServer

variable {Socket : Type} [DecidableEq Socket]

/-- Every socket that ever connected has a splitter. -/
def SplittersOpen (s : TrackerTcpServer Socket) : Prop :=
  forall socket, socket ∈ s.splitters <-> socket ∈ s.tcp.connections

theorem sockets_handleFrame (s : TrackerTcpServer Socket) (socket : Socket)
    (frame : Bytes) (now : Int) (hopen : s.tcp.isOpen socket = true) :
    (s.handleFrame socket frame now).splitters = s.splitters ∧
      forall other, other ∈ (s.handleFrame socket frame now).tcp.connections <->
        other ∈ s.tcp.connections := by
  cases hparse : parseFrame frame with
  | error message =>
      rw [s.handleFrame_error socket now hparse]
      exact ⟨rfl, fun _ => Iff.rfl⟩
  | ok parsed =>
      refine ⟨?_, ?_⟩
      · rw [s.handleFrame_ok socket now hparse]
      · intro other
        rw [s.handleFrame_tcp socket now hparse]
        exact trackerProtocol.mem_step_decoded hopen

theorem sockets_handleFrames (socket : Socket) (frames : List Bytes)
    (now : Int) (s : TrackerTcpServer Socket)
    (hopen : s.tcp.isOpen socket = true) :
    (s.handleFrames socket frames now).splitters = s.splitters ∧
      forall other, other ∈ (s.handleFrames socket frames
        now).tcp.connections <-> other ∈ s.tcp.connections := by
  induction frames generalizing s with
  | nil => exact ⟨rfl, fun _ => Iff.rfl⟩
  | cons frame frames ih =>
      rcases s.sockets_handleFrame socket frame now hopen with ⟨hsplit, hmem⟩
      rcases ih (s.handleFrame socket frame now)
        ((s.isOpen_handleFrame socket frame now socket).trans hopen) with
        ⟨hsplits, hmems⟩
      exact ⟨hsplits.trans hsplit, fun other => (hmems other).trans (hmem other)⟩

theorem handleData_frames {s : TrackerTcpServer Socket} (hs : s.SplittersOpen)
    {socket : Socket} (chunk : Bytes) (now : Int)
    (hopen : s.tcp.isOpen socket = true) :
    exists splitter, s.splitters.lookup socket = some splitter ∧
      (s.handleData socket chunk now).SplittersOpen ∧
      (s.handleData socket chunk now).splitters =
        s.splitters.insert socket (splitter.push chunk).2 ∧
      exists frames : List (TrackerEvent Socket),
        (frameHandling Socket).LegalFrom s.unsplit frames ∧
        (frameHandling Socket).stateFrom s.unsplit frames =
          (s.handleData socket chunk now).unsplit ∧
        frames.filterMap TrackerEvent.frame =
          (splitter.push chunk).1.frames.map (fun frame => (socket, frame)) ∧
        frames.filterMap TrackerEvent.applied? = [] := by
  have hmem := (hs socket).mpr (TcpServer.mem_of_isOpen hopen)
  rcases Option.isSome_iff_exists.mp (AList.lookup_isSome.mpr hmem) with
    ⟨splitter, hlookup⟩
  let pushed := splitter.push chunk
  let fed : TrackerTcpServer Socket :=
    { s with splitters := s.splitters.insert socket pushed.2 }
  have hnext : s.handleData socket chunk now =
      fed.handleFrames socket pushed.1.frames now := by
    unfold handleData
    rw [hlookup]
  rcases sockets_handleFrames socket pushed.1.frames now fed hopen with
    ⟨hsplitters, hsockets⟩
  rcases frameHandling_frames socket pushed.1.frames now fed hopen with
    ⟨hlegal, hstate⟩
  rw [hnext]
  refine ⟨splitter, hlookup, ?_, hsplitters, _, hlegal, hstate, ?_,
    applied?_frames socket _ now⟩
  · intro other
    rw [hsplitters, hsockets]
    show other ∈ s.splitters.insert socket pushed.2 <-> _
    rw [AList.mem_insert, or_iff_right_of_imp]
    · exact hs other
    · rintro rfl
      exact hmem
  · rw [List.filterMap_map]
    show pushed.1.frames.filterMap (fun frame => some (socket, frame)) = _
    exact congrFun List.filterMap_eq_map' _

theorem chain_step (s : TrackerTcpServer Socket) (maxBufferBytes : Nat)
    {e : TrackerEvent Socket} (hframe : e.frame = none)
    (hconnect : forall socket remoteAddress remotePort,
      e ≠ TrackerEvent.connect socket remoteAddress remotePort)
    (hclose : forall socket, e ≠ TrackerEvent.close socket) :
    ((trackerTcpServer Socket maxBufferBytes).step s e).splitters =
        s.splitters ∧
      ((trackerTcpServer Socket maxBufferBytes).step s e).tcp = s.tcp ∧
      ((trackerTcpServer Socket maxBufferBytes).step s e).unsplit =
        (frameHandling Socket).step s.unsplit e := by
  cases e with
  | connect socket remoteAddress remotePort =>
      exact absurd rfl (hconnect socket remoteAddress remotePort)
  | data socket chunk now => cases hframe
  | close socket => exact absurd rfl (hclose socket)
  | markSettled j accepted =>
      refine ⟨?_, s.settleMark_tcp j accepted, s.unsplit_settleMark j accepted⟩
      show (s.settleMark j accepted).splitters = s.splitters
      unfold settleMark
      cases s.marks[j]? <;> rfl
  | upsertSettled i accepted =>
      refine ⟨?_, s.settleUpsert_tcp i accepted,
        s.unsplit_settleUpsert i accepted⟩
      show (s.settleUpsert i accepted).splitters = s.splitters
      unfold settleUpsert
      cases s.saves[i]? with
      | none => rfl
      | some task =>
          dsimp only
          cases task.parsed.report with
          | none => rfl
          | some report => cases accepted <;> rfl
  | saveSettled i accepted =>
      refine ⟨?_, s.settleSave_tcp i accepted, s.unsplit_settleSave i accepted⟩
      show (s.settleSave i accepted).splitters = s.splitters
      unfold settleSave
      cases s.saves[i]? with
      | none => rfl
      | some task =>
          dsimp only
          cases task.parsed.report with
          | none => rfl
          | some report => cases accepted <;> rfl
  | thenRuns i outcome listenerThrows =>
      refine ⟨?_, s.runThen_tcp i outcome listenerThrows,
        s.unsplit_runThen i outcome listenerThrows⟩
      cases outcome <;> rfl
  | catchRuns i outcome failed => exact ⟨rfl, rfl, rfl⟩
  | finallyRuns i outcome =>
      refine ⟨?_, s.runFinally_tcp i outcome, s.unsplit_runFinally i outcome⟩
      show (s.runFinally i outcome).splitters = s.splitters
      unfold runFinally
      cases s.saves[i]? <;> rfl

section Idle

variable (maxBufferBytes : Nat) {s : TrackerTcpServer Socket}

theorem handleClose_splitters (socket : Socket) :
    (s.handleClose socket).splitters = s.splitters := by
  rw [handleClose_eq]

/-- An event that is no chunk happens in both runs, and only a connection gets a
new splitter. -/
theorem step_idle (hs : s.SplittersOpen) {e : TrackerEvent Socket}
    (henabled : e.Enabled s) (h : e.frame = none) :
    let s' := (trackerTcpServer Socket maxBufferBytes).step s e
    s'.SplittersOpen ∧ s'.unsplit = (frameHandling Socket).step s.unsplit e ∧
      (s'.splitters = s.splitters ∨ exists socket, socket ∉ s.splitters ∧
        s'.splitters = s.splitters.insert socket
          (frameSplitting maxBufferBytes).initial) := by
  intro s'
  cases e with
  | connect socket remoteAddress remotePort =>
      have hnew : socket ∉ s.splitters := fun hmem =>
        henabled ((hs socket).mp hmem)
      refine ⟨?_, rfl, Or.inr ⟨socket, hnew, rfl⟩⟩
      intro other
      show other ∈ AList.insert socket _ _ <->
        other ∈ (s.tcp.handleConnection socket _ _).connections
      rw [AList.mem_insert, TcpServer.mem_handleConnection, hs other]
  | data socket chunk now => cases h
  | close socket =>
      refine ⟨?_, s.unsplit_handleClose socket,
        Or.inl (s.handleClose_splitters socket)⟩
      intro other
      show other ∈ (s.handleClose socket).splitters <->
        other ∈ (s.handleClose socket).tcp.connections
      rw [handleClose_splitters, handleClose_tcp, hs other]
      exact TcpServer.mem_handleClose.symm
  | _ =>
      rcases s.chain_step maxBufferBytes h
        (fun _ _ _ => nomatch ·) (fun _ => nomatch ·) with
        ⟨hsplitters, htcp, hunsplit⟩
      refine ⟨?_, hunsplit, Or.inl hsplitters⟩
      intro other
      rw [hsplitters, htcp]
      exact hs other

theorem splittersOpen_step (hs : s.SplittersOpen) {e : TrackerEvent Socket}
    (henabled : e.Enabled s) :
    ((trackerTcpServer Socket maxBufferBytes).step s e).SplittersOpen := by
  cases hframe : e.frame with
  | none => exact (step_idle maxBufferBytes hs henabled hframe).left
  | some keyed =>
      cases e with
      | data socket chunk now =>
          rcases handleData_frames hs chunk now henabled with ⟨_, _, hkept, _⟩
          exact hkept
      | _ => cases hframe

theorem exists_idle (hs : s.SplittersOpen) {e : TrackerEvent Socket}
    (henabled : e.Enabled s) (h : e.frame = none) :
    exists events, (frameHandling Socket).LegalFrom s.unsplit events ∧
      (frameHandling Socket).stateFrom s.unsplit events =
        ((trackerTcpServer Socket maxBufferBytes).step s e).unsplit ∧
      events.filterMap TrackerEvent.frame = [] ∧
      events.filterMap TrackerEvent.applied? =
        [e].filterMap TrackerEvent.applied? := by
  refine ⟨[e], ⟨?_, trivial⟩,
    (step_idle maxBufferBytes hs henabled h).right.left.symm,
    List.filterMap_cons_none h, rfl⟩
  cases e <;> exact henabled

end Idle

end TrackerTcpServer

/-!
## Runs
-/

section Runs

variable {Socket : Type} [DecidableEq Socket]

/-- The server as one that feeds frame splitters. -/
def frameServer (maxBufferBytes : Nat) :
    SessionServer (trackerTcpServer Socket maxBufferBytes)
      (frameHandling Socket) Socket TrackerFrameSplitter Bytes Push Bytes
      Upserter where
  machine := frameSplitting maxBufferBytes
  messages := Push.frames
  project := TrackerTcpServer.unsplit
  table := TrackerTcpServer.splitters
  Inv := TrackerTcpServer.SplittersOpen
  input := TrackerEvent.frame
  message := TrackerEvent.frame
  label := TrackerEvent.applied?
  label' := TrackerEvent.applied?
  initial _ := Iff.rfl
  project_initial := rfl
  table_initial := rfl
  kept _ _ hs henabled :=
    TrackerTcpServer.splittersOpen_step maxBufferBytes hs henabled
  idle _ _ hs henabled hinput :=
    ⟨TrackerTcpServer.exists_idle maxBufferBytes hs henabled hinput,
      (TrackerTcpServer.step_idle maxBufferBytes hs henabled
        hinput).right.right⟩
  fed s e socket chunk hs henabled hinput := by
    cases e with
    | data other input now =>
        cases hinput
        rcases TrackerTcpServer.handleData_frames hs chunk now henabled with
          ⟨splitter, hlookup, _, hsplitters, hframes⟩
        exact ⟨splitter, hlookup, hsplitters, hframes⟩
    | _ => cases hinput

/-!
The chains of a socket go by their numbers.
-/

theorem map_numbers {α β : Type} {xs : List α} {f : α -> β} {g : Nat -> β}
    (p : α -> Bool) (h : forall i x, xs[i]? = some x -> g i = f x) :
    ((xs.zipIdx.filter (fun numbered => p numbered.1)).map Prod.snd).map g =
      (xs.filter p).map f := by
  have hfst : xs.filter p =
      (xs.zipIdx.filter (fun numbered => p numbered.1)).map Prod.fst := by
    calc
      xs.filter p = (xs.zipIdx.map Prod.fst).filter p :=
        congrArg (List.filter p) (List.zipIdx_map_fst 0 xs).symm
      _ = _ := List.filter_map
  rw [hfst, List.map_map, List.map_map]
  refine List.map_congr_left fun numbered hnumbered => ?_
  exact h _ _ (List.mem_zipIdx_iff_getElem?.mp
    (List.mem_of_mem_filter hnumbered))

def TrackerTcpServer.chainsOn (s : TrackerTcpServer Socket) (socket : Socket) :
    List (SaveTask Socket × Nat) :=
  s.saves.zipIdx.filter (fun numbered => decide (numbered.1.socket = socket))

theorem TrackerTcpServer.mem_chainsOn {s : TrackerTcpServer Socket}
    {socket : Socket} {task : SaveTask Socket} {i : Nat} :
    (task, i) ∈ s.chainsOn socket <->
      s.saves[i]? = some task ∧ task.socket = socket := by
  unfold chainsOn
  rw [List.mem_filter, List.mem_zipIdx_iff_getElem?, decide_eq_true_eq]

theorem TrackerTcpServer.map_chainsOn {β : Type} {s : TrackerTcpServer Socket}
    {socket : Socket} {f : SaveTask Socket -> β} {g : Nat -> β}
    (h : forall i task, s.saves[i]? = some task -> g i = f task) :
    ((s.chainsOn socket).map Prod.snd).map g =
      (s.saves.filter (fun task => decide (task.socket = socket))).map f :=
  map_numbers (fun task : SaveTask Socket => decide (task.socket = socket)) h

def chunksOn (socket : Socket) (history : List (TrackerEvent Socket)) :
    List Bytes :=
  ofSession socket (receivedFrames history)

/-- Every run on chunks is a run on frames, in which each socket delivers the
frames of its own stream. -/
theorem exists_stream_run {maxBufferBytes : Nat}
    {history : List (TrackerEvent Socket)}
    (h : (trackerTcpServer Socket maxBufferBytes).Legal history) :
    exists trace, (frameHandling Socket).Legal trace ∧
      (frameHandling Socket).stateAfter trace =
        ((trackerTcpServer Socket maxBufferBytes).stateAfter
          history).unsplit ∧
      forall socket, ofSession socket (receivedFrames trace) =
        framesOfChunks maxBufferBytes (chunksOn socket history) := by
  rcases (frameServer maxBufferBytes).exists_message_run h with ⟨trace, hrun⟩
  refine ⟨trace, hrun.legal, hrun.state, fun socket => ?_⟩
  have hmessages := congrArg (ofSession socket) hrun.messages
  rw [SessionServer.ofSession_allAnswers] at hmessages
  refine hmessages.trans ?_
  unfold framesOfChunks
  rw [pushChunks_eq_outputs]
  rfl

end Runs

end Tracker
end AvtTracker
