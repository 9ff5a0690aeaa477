import AvtTracker.Tracker.FrameStreams
import AvtTracker.Tracker.ReportTables

/-!
# Where report rows come from

Every row of {lit}`tracker_report` is that of one frame that was cut out of the
bytes received on the socket of its chain.  It carries that frame in
{lit}`rawHex`, from which it can be computed again, and no frame is stored
twice.
-/

namespace AvtTracker
namespace Tracker

open Foundation Tcp Persistence

variable {Socket : Type} [DecidableEq Socket]

def TrackerTcpServer.rowsOn (s : TrackerTcpServer Socket) (socket : Socket) :
    List TrackerReport :=
  (s.reports.filter (fun saved =>
    (s.saves[saved.1]?).any (fun task =>
      decide (task.socket = socket)))).map Prod.snd

/-- A row, the chain that saved it, and its frame. -/
structure SavedFrom (frames : List Bytes) (row : TrackerReport)
    (task : SaveTask Socket) (frame : Bytes) : Prop where
  received : frame ∈ frames
  parsed : parseFrame frame = Except.ok task.parsed
  rawHex : row.rawHex = toHex frame
  replayed : forall frame', toHex frame' = row.rawHex ->
    exists patch, saveTrackerFrame frame' task.startedAt = some (patch, row)

/-- What the rows of a server owe to the streams of its sockets, which arrived
in these chunks. -/
structure Provenance (maxBufferBytes : Nat) (chunks : Socket -> List Bytes)
    (s : TrackerTcpServer Socket) : Prop where
  laid_out : forall socket,
    LaidOut (framesOfChunks maxBufferBytes (chunks socket))
      (chunks socket).flatten
  saved : forall i row, (i, row) ∈ s.reports ->
    exists task frame, s.saves[i]? = some task ∧
      SavedFrom (framesOfChunks maxBufferBytes (chunks task.socket)) row task
        frame
  once : forall socket, ((s.rowsOn socket).map TrackerReport.rawHex).Subperm
    ((framesOfChunks maxBufferBytes (chunks socket)).map toHex)

/-!
## Frames behind the chains
-/

theorem laidOut_framesOfChunks (maxBufferBytes : Nat) (chunks : List Bytes) :
    LaidOut (framesOfChunks maxBufferBytes chunks) chunks.flatten := by
  unfold framesOfChunks
  rw [TrackerFrameSplitter.pushChunks_eq]
  exact laidOut_pushAll trackerFraming maxBufferBytes chunks

theorem rawHex_of_parseFrame {frame : Bytes} {parsed : ParsedTrackerFrame}
    (h : parseFrame frame = Except.ok parsed) : parsed.rawHex = toHex frame := by
  rcases exists_envelopeAt_of_parseFrame h with ⟨colonIndex, henvelope⟩
  exact parseFrame_rawHex h henvelope

theorem replay_of_saved {frame : Bytes} {parsed : ParsedTrackerFrame}
    {now : Int} {patch : DevicePatch} {row : TrackerReport}
    (hparse : parseFrame frame = Except.ok parsed)
    (hsave : saveReport parsed now = some (patch, row)) :
    row.rawHex = toHex frame ∧ forall frame', toHex frame' = row.rawHex ->
      exists patch, saveTrackerFrame frame' now = some (patch, row) := by
  have hraw : row.rawHex = toHex frame := by
    rcases Option.map_eq_some_iff.mp hsave with ⟨report, _, hpair⟩
    cases hpair
    exact rawHex_of_parseFrame hparse
  refine ⟨hraw, ?_⟩
  intro frame' hsame
  rw [toHex_injective (hsame.trans hraw)]
  refine ⟨patch, ?_⟩
  unfold saveTrackerFrame
  rw [hparse]
  exact hsave

section Chains

variable {trace : List (TrackerEvent Socket)} {s : TrackerTcpServer Socket}

theorem Replied.exists_frame (h : Replied trace s) {i : Nat}
    {task : SaveTask Socket} (htask : s.saves[i]? = some task) :
    exists frame, frame ∈ ofSession task.socket (receivedFrames trace) ∧
      parseFrame frame = Except.ok task.parsed := by
  have horigin : (s.saves.map SaveTask.origin)[i]? = some task.origin := by
    rw [List.getElem?_map, htask]
    rfl
  rw [h.chains, List.getElem?_map] at horigin
  rcases Option.map_eq_some_iff.mp horigin with ⟨received, hreceived, hsame⟩
  rcases Prod.mk.inj hsame with ⟨hsocket, hparse⟩
  refine ⟨received.2, ?_, hparse⟩
  refine List.mem_filterMap.mpr
    ⟨received, List.mem_of_mem_filter (List.mem_of_getElem? hreceived), ?_⟩
  exact if_pos hsocket

/-- The texts of the frames of the chains of a socket are among those of its
stream. -/
theorem Replied.rawHex_sublist (h : Replied trace s) (socket : Socket) :
    ((s.saves.filter (fun task => decide (task.socket = socket))).map
        (fun task => task.parsed.rawHex)).Sublist
      ((ofSession socket (receivedFrames trace)).map toHex) := by
  have hchains : ofSession socket (s.saves.map (fun task =>
        (task.socket, task.parsed.rawHex))) =
      (ofSession socket (receivedReports trace)).map toHex := by
    have horigins := congrArg (List.filterMap (fun origin :
      Socket × Except String ParsedTrackerFrame =>
        origin.2.toOption.map (fun parsed => (origin.1, parsed.rawHex))))
      h.chains
    rw [List.filterMap_map, List.filterMap_map] at horigins
    have hleft : s.saves.filterMap ((fun origin :
        Socket × Except String ParsedTrackerFrame =>
          origin.2.toOption.map (fun parsed => (origin.1, parsed.rawHex))) ∘
        SaveTask.origin) =
        s.saves.map (fun task => (task.socket, task.parsed.rawHex)) :=
      congrFun List.filterMap_eq_map' _
    have hright : (receivedReports trace).filterMap ((fun origin :
        Socket × Except String ParsedTrackerFrame =>
          origin.2.toOption.map (fun parsed => (origin.1, parsed.rawHex))) ∘
        fun received => (received.1, parseFrame received.2)) =
        (receivedReports trace).map (fun received =>
          (received.1, toHex received.2)) := by
      rw [← List.filterMap_eq_map]
      refine List.filterMap_congr fun received hreceived => ?_
      rcases exists_parsed_of_kind (Or.inr
        (List.mem_filter.mp hreceived).right) with ⟨parsed, hparsed⟩
      show (parseFrame received.2).toOption.map _ = some _
      rw [hparsed]
      exact congrArg (fun text => some (received.1, text))
        (rawHex_of_parseFrame hparsed)
    rw [← hleft, horigins, hright, ofSession_map]
  have hfilter : (s.saves.filter (fun task =>
      decide (task.socket = socket))).map (fun task => task.parsed.rawHex) =
      ofSession socket (s.saves.map (fun task =>
        (task.socket, task.parsed.rawHex))) := by
    rw [ofSession_eq, List.filter_map, List.map_map]
    rfl
  rw [hfilter, hchains]
  unfold receivedReports
  rw [ofSession_filter]
  exact List.filter_sublist.map toHex

end Chains

/-!
## Rows behind the frames
-/

section Rows

variable {s : TrackerTcpServer Socket}

omit [DecidableEq Socket] in
theorem exists_task_of_row
    (h : SaveStore.RowsSaved trackerStore s.store) {i : Nat}
    {row : TrackerReport} (hrow : (i, row) ∈ s.reports) :
    exists task patch, s.saves[i]? = some task ∧
      saveReport task.parsed task.startedAt = some (patch, row) := by
  rcases (h.rows i row).mp hrow with ⟨patch, hjob⟩
  have htask : (s.saves[i]?).map SaveTask.job =
      some { content := some (patch, row), phase := SaveJobPhase.saved } := by
    rw [← List.getElem?_map]
    exact hjob
  rcases Option.map_eq_some_iff.mp htask with ⟨task, hfound, hsame⟩
  exact ⟨task, patch, hfound, congrArg SaveJob.content hsame⟩

theorem rowsOn_subperm (h : SaveStore.RowsSaved trackerStore s.store)
    (socket : Socket) :
    ((s.rowsOn socket).map TrackerReport.rawHex).Subperm
      ((s.saves.filter (fun task => decide (task.socket = socket))).map
        (fun task => task.parsed.rawHex)) := by
  let rows := s.reports.filter (fun saved =>
    (s.saves[saved.1]?).any (fun task => decide (task.socket = socket)))
  let textOf : Nat -> String := fun i =>
    (s.saves[i]?).elim "" (fun task => task.parsed.rawHex)
  have hnumbers : (rows.map Prod.fst).Subperm
      ((s.chainsOn socket).map Prod.snd) := by
    refine List.subperm_of_subset ?_ ?_
    · exact h.rows_once.sublist (List.filter_sublist.map Prod.fst)
    · intro i hi
      rcases List.mem_map.mp hi with ⟨⟨i', row⟩, hrow, rfl⟩
      rcases List.mem_filter.mp hrow with ⟨_, hsocket⟩
      rcases SaveStore.exists_of_any hsocket with ⟨task, htask, hsame⟩
      exact List.mem_map.mpr ⟨(task, i'), TrackerTcpServer.mem_chainsOn.mpr
        ⟨htask, of_decide_eq_true hsame⟩, rfl⟩
  have hrows : (s.rowsOn socket).map TrackerReport.rawHex =
      (rows.map Prod.fst).map textOf := by
    unfold TrackerTcpServer.rowsOn
    rw [List.map_map, List.map_map]
    refine List.map_congr_left fun saved hsaved => ?_
    rcases exists_task_of_row h (List.mem_of_mem_filter hsaved) with
      ⟨task, patch, htask, hsave⟩
    rcases Option.map_eq_some_iff.mp hsave with ⟨report, _, hpair⟩
    show saved.2.rawHex = textOf saved.1
    rw [← (Prod.mk.inj hpair).right]
    show task.parsed.rawHex = (s.saves[saved.1]?).elim "" _
    rw [htask]
    rfl
  have hchains : ((s.chainsOn socket).map Prod.snd).map textOf =
      (s.saves.filter (fun task => decide (task.socket = socket))).map
        (fun task => task.parsed.rawHex) := by
    refine TrackerTcpServer.map_chainsOn fun i task htask => ?_
    show (s.saves[i]?).elim "" _ = _
    rw [htask]
    rfl
  rw [hrows, ← hchains]
  rcases hnumbers with ⟨numbers, hperm, hsub⟩
  exact ⟨numbers.map textOf, hperm.map textOf, hsub.map textOf⟩

end Rows

/-- Every report row is that of a frame cut out of the stream of its socket: it
holds the text of the frame, can be computed again from that text alone, and no
stretch of a stream gives two rows. -/
theorem reports_grounded {maxBufferBytes : Nat}
    (run : (trackerTcpServer Socket maxBufferBytes).Run) :
    Provenance maxBufferBytes (fun socket => chunksOn socket run.history)
      ((trackerTcpServer Socket maxBufferBytes).stateAfter run.history) := by
  rcases exists_stream_run run.legal with ⟨trace, hlegal, hstate, hframes⟩
  have hrows := (accounted_store run.legal).rows
  have hreplied := replied hlegal
  rw [hstate] at hreplied
  refine ⟨fun socket => laidOut_framesOfChunks _ _, ?_, ?_⟩
  · intro i row hrow
    rcases exists_task_of_row hrows hrow with ⟨task, patch, htask, hsave⟩
    rcases hreplied.exists_frame htask with ⟨frame, hframe, hparse⟩
    rw [hframes] at hframe
    rcases replay_of_saved hparse hsave with ⟨hraw, hreplay⟩
    exact ⟨task, frame, htask, hframe, hparse, hraw, hreplay⟩
  · intro socket
    have hsub := hreplied.rawHex_sublist socket
    rw [hframes] at hsub
    exact (rowsOn_subperm hrows socket).trans hsub.subperm

end Tracker
end AvtTracker
