import AvtTracker.Foundation.FramingArrivals
import AvtTracker.Tracker.Ingest
import AvtTracker.Tracker.Provenance
import AvtTracker.Tracker.RoundTrip
import AvtTracker.Tracker.Segmentation
import AvtTracker.Tracker.StreamReplies

/-!
# What units send is what is saved

Units send reports, heartbeats and other messages as built frames.  As long as no
push ends inside a frame behind a terminator byte, the server saves the values of
every report that has arrived and answers every report and heartbeat once, however
the sockets interleave.
-/

namespace AvtTracker
namespace Tracker

open Foundation Tcp Persistence

/-!
## Frames
-/

/-- A report as a unit sends it, at once or from its archive. -/
structure SentReport where
  historical : Bool
  imei : String
  deviceId : Option (Fin 256)
  report : ReportWire
  time : Int
  serialNumber : Fin 65536
  imei_length : imei.toList.length = 15
  imei_digits : forall c, c ∈ imei.toList -> c.isDigit
  report_fits : 18 + report.encode.length < 65536
  time_fourDigit : FourDigitSecond time

namespace SentReport

variable (r : SentReport)

def kind : TrackerFrameKind :=
  if r.historical then TrackerFrameKind.rptHistorical else TrackerFrameKind.rpt

theorem kind_cases :
    r.kind = TrackerFrameKind.rpt ∨ r.kind = TrackerFrameKind.rptHistorical := by
  unfold kind
  cases r.historical with
  | true => exact Or.inr rfl
  | false => exact Or.inl rfl

def description : FrameDescription where
  kind := r.kind
  imei := r.imei
  deviceId := r.deviceId
  dataZone := r.report.encode
  time := r.time
  serialNumber := r.serialNumber
  kind_known := by
    rcases r.kind_cases with h | h
    · rw [h]
      decide
    · rw [h]
      decide
  imei_length := r.imei_length
  imei_digits := r.imei_digits
  dataZone_fits := r.report_fits
  time_fourDigit := r.time_fourDigit

def parsed : ParsedTrackerFrame where
  header := r.description.header
  report := some r.report.meaning
  heartbeat := none
  ascii := none
  warnings := []
  rawHex := toHex r.description.bytes
  dataZoneHex := toHex r.report.encode

def row : TrackerReport :=
  reportRow r.parsed r.report.meaning

theorem parseFrame_bytes :
    parseFrame r.description.bytes = Except.ok r.parsed := by
  have hkind : r.description.kind = TrackerFrameKind.rpt ∨
      r.description.kind = TrackerFrameKind.rptHistorical := r.kind_cases
  have hzone : r.description.dataZone = r.report.encode := rfl
  rw [r.description.parseFrame_bytes_eq, hzone]
  unfold parseDataZone
  rw [if_pos hkind, parseReportDataZone_encode]
  rfl

theorem saveReport_parsed (now : Int) :
    saveReport r.parsed now =
      some (reportPatch r.parsed.header r.report.meaning now, r.row) :=
  rfl

end SentReport

/-- A frame a unit sends: a report, or a heartbeat or another message. -/
inductive SentFrame where
  | report (r : SentReport)
  | message (d : FrameDescription)
      (no_report : ¬ (d.kind = TrackerFrameKind.rpt ∨
        d.kind = TrackerFrameKind.rptHistorical))

namespace SentFrame

def description : SentFrame -> FrameDescription
  | report r => r.description
  | message d _ => d

def report? : SentFrame -> Option SentReport
  | report r => some r
  | message _ _ => none

variable (f : SentFrame)

def bytes : Bytes :=
  f.description.bytes

def wire : WireFrame :=
  f.description.frame.wire

def serialText : String :=
  toHex (beBytes 2 f.description.serialNumber)

def isHeartbeat : Bool :=
  decide (f.description.kind = TrackerFrameKind.hbd)

/-- What a unit is to be told about a frame. -/
def answer : Option String :=
  if f.isHeartbeat then some ("+SHBD:" ++ f.serialText ++ "#")
  else if f.report?.isSome then some ("+SACK:" ++ f.serialText ++ "#")
  else none

theorem wire_bytes : f.wire.bytes = f.bytes :=
  f.description.frame.wire_bytes

theorem exists_parsed :
    exists parsed, parseFrame f.bytes = Except.ok parsed ∧
      parsed.header.kind = f.description.kind ∧
      parsed.header.serialNumberHex = f.serialText := by
  rcases f.description.parseFrame_bytes with ⟨parsed, hparsed, hheader, _⟩
  refine ⟨parsed, hparsed, ?_, ?_⟩
  · rw [hheader]
    rfl
  · rw [hheader]
    rfl

theorem isHeartbeatFrame_bytes : isHeartbeatFrame f.bytes = f.isHeartbeat := by
  rcases f.exists_parsed with ⟨parsed, hparsed, hkind, _⟩
  unfold isHeartbeatFrame isHeartbeat
  rw [hparsed, ← hkind]
  rfl

theorem isReportFrame_bytes : isReportFrame f.bytes = f.report?.isSome := by
  rcases f.exists_parsed with ⟨parsed, hparsed, hkind, _⟩
  have hframe : isReportFrame f.bytes = decide (f.description.kind =
      TrackerFrameKind.rpt ∨ f.description.kind =
        TrackerFrameKind.rptHistorical) := by
    unfold isReportFrame
    rw [hparsed, ← hkind]
    rfl
  rw [hframe]
  cases f with
  | report r => exact decide_eq_true r.kind_cases
  | message d no_report => exact decide_eq_false no_report

theorem replyText_bytes : replyText f.bytes = f.answer := by
  rcases f.exists_parsed with ⟨parsed, hparsed, _, hserial⟩
  unfold replyText answer
  rw [f.isHeartbeatFrame_bytes, f.isReportFrame_bytes,
    ← serialNumberHex_of_parseFrame hparsed, hserial]

theorem answers_bytes (frames : List SentFrame) :
    (frames.map bytes).filterMap replyText = frames.filterMap answer := by
  rw [List.filterMap_map]
  exact List.filterMap_congr fun f _ => f.replyText_bytes

theorem heartbeats_bytes (frames : List SentFrame) :
    ((frames.map bytes).filter isHeartbeatFrame).filterMap replyText =
      (frames.filter isHeartbeat).filterMap answer := by
  have hheartbeat : isHeartbeatFrame ∘ bytes = isHeartbeat :=
    funext isHeartbeatFrame_bytes
  rw [List.filter_map, hheartbeat, answers_bytes]

theorem reports_bytes (frames : List SentFrame) :
    ((frames.map bytes).filter isReportFrame).map parseFrame =
      (frames.filterMap report?).map (fun r => Except.ok r.parsed) := by
  induction frames with
  | nil => rfl
  | cons f frames ih =>
      have hreport := f.isReportFrame_bytes
      cases f with
      | report r =>
          have hkept : isReportFrame (report r).bytes = true := hreport
          have hparse : parseFrame (report r).bytes = Except.ok r.parsed :=
            r.parseFrame_bytes
          rw [List.map_cons, List.filter_cons_of_pos hkept, List.map_cons, ih,
            hparse]
          rfl
      | message d no_report =>
          have hskip : ¬ isReportFrame (message d no_report).bytes = true := by
            rw [hreport]
            exact Bool.false_ne_true
          rw [List.map_cons, List.filter_cons_of_neg hskip, ih]
          rfl

end SentFrame

/-!
## Streams
-/

/-- What a socket has received is the beginning of a stream of frames that fit
the buffer, and no push ended inside one of them behind a terminator byte past
its fixed-size fields. -/
structure Receives (maxBufferBytes : Nat) (chunks : List Bytes)
    (sent : List SentFrame) : Prop where
  stream : chunks.flatten <+: stream (sent.map SentFrame.wire)
  cuts : CutsClear (sent.map SentFrame.wire) chunks
  fits : forall f, f ∈ sent -> f.bytes.length ≤ maxBufferBytes

def arrived (sent : List SentFrame) (chunks : List Bytes) : List SentFrame :=
  arrivedBy (fun f => f.bytes.length) sent chunks.flatten.length

theorem wires_truthful (sent : List SentFrame) (f : WireFrame)
    (h : f ∈ sent.map SentFrame.wire) : f.Truthful := by
  rcases List.mem_map.mp h with ⟨g, _, rfl⟩
  exact g.description.frame_truthful

theorem bytes_wires (sent : List SentFrame) :
    (sent.map SentFrame.wire).map WireFrame.bytes =
      sent.map SentFrame.bytes := by
  rw [List.map_map]
  exact List.map_congr_left fun f _ => f.wire_bytes

theorem waiting_nil (frames : List WireFrame) :
    Waiting trackerFraming (frames.map WireFrame.bytes) [] := by
  refine ⟨?_, trackerFraming.resolve_nil⟩
  cases frames with
  | nil => exact Or.inl ⟨rfl, rfl⟩
  | cons f rest =>
      refine Or.inr ⟨f.bytes, rest.map WireFrame.bytes, rfl, List.nil_prefix, ?_⟩
      rw [WireFrame.bytes_length]
      exact Nat.succ_pos _

/-- The frames that have arrived are those the splitter has handed out. -/
theorem Receives.frames {maxBufferBytes : Nat} {chunks : List Bytes}
    {sent : List SentFrame} (h : Receives maxBufferBytes chunks sent) :
    framesOfChunks maxBufferBytes chunks =
      (arrived sent chunks).map SentFrame.bytes := by
  have htruthful := wires_truthful sent
  have hbytes := bytes_wires sent
  have hawaits := awaitsCuts_of_cutsClear htruthful h.cuts
  have hrecognizes := recognizes_of_truthful htruthful
  have hwaiting := waiting_nil (sent.map SentFrame.wire)
  have hstream := h.stream
  unfold Tracker.stream at hstream
  rw [hbytes] at hawaits hrecognizes hwaiting hstream
  have hfits : forall b, b ∈ sent.map SentFrame.bytes ->
      b.length ≤ maxBufferBytes := by
    intro b hb
    rcases List.mem_map.mp hb with ⟨f, hf, rfl⟩
    exact h.fits f hf
  have hframes := framesOf_awaited hrecognizes hwaiting hstream hfits hawaits
  unfold framesOfChunks arrived
  rw [TrackerFrameSplitter.pushChunks_eq, hframes, List.nil_append,
    arrivedBy_map]

/-- Frames without a terminator byte behind their fixed-size fields may be cut
anywhere. -/
theorem cutsClear_of_clearTails {frames : List WireFrame}
    (h : forall f, f ∈ frames -> f.ClearTail) (chunks : List Bytes) :
    CutsClear frames chunks := by
  intro done f rest pre post offset hframes _ _ hoffset j hsearch hj
  have hmem : f ∈ frames := by
    rw [hframes]
    exact List.mem_append_right done List.mem_cons_self
  exact h f hmem j (by lia) hsearch

/-!
## Runs of the server
-/

section Runs

variable {Socket : Type} [DecidableEq Socket]

theorem TrackerTcpServer.map_fst_chainsOn (s : TrackerTcpServer Socket)
    (socket : Socket) : (s.chainsOn socket).map Prod.fst =
      s.saves.filter (fun task => decide (task.socket = socket)) := by
  unfold chainsOn
  calc
    _ = (s.saves.zipIdx.map Prod.fst).filter (fun task =>
        decide (task.socket = socket)) := List.filter_map.symm
    _ = _ := by rw [List.zipIdx_map_fst]

theorem Receives.chains {maxBufferBytes : Nat}
    {history : List (TrackerEvent Socket)}
    (hlegal : (trackerTcpServer Socket maxBufferBytes).Legal history)
    {socket : Socket} {sent : List SentFrame}
    (h : Receives maxBufferBytes (chunksOn socket history) sent) :
    (((trackerTcpServer Socket maxBufferBytes).stateAfter
      history).chainsOn socket).map (fun numbered => numbered.1.parsed) =
        ((arrived sent (chunksOn socket history)).filterMap
          SentFrame.report?).map SentReport.parsed := by
  have horigins := (answersStream_of_legal hlegal socket).chains
  rw [h.frames, SentFrame.reports_bytes,
    ← TrackerTcpServer.map_fst_chainsOn, List.map_map] at horigins
  have hpairs := congrArg (List.filterMap Except.toOption) horigins
  rw [List.filterMap_map, List.filterMap_map] at hpairs
  refine Eq.trans ?_ (hpairs.trans ?_)
  · exact (congrFun List.filterMap_eq_map' _).symm
  · exact congrFun List.filterMap_eq_map' _

/-- The chains, rows and replies of a socket are those of these frames. -/
structure ServedAsSent (frames : List SentFrame) (socket : Socket)
    (s : TrackerTcpServer Socket) : Prop where
  chains : (s.chainsOn socket).map (fun numbered => numbered.1.parsed) =
    (frames.filterMap SentFrame.report?).map SentReport.parsed
  rows : forall (k i : Nat) (task : SaveTask Socket) (r : SentReport),
    (s.chainsOn socket)[k]? = some (task, i) ->
    (frames.filterMap SentFrame.report?)[k]? = some r ->
    forall row, (i, row) ∈ s.reports <->
      task.phase.jobPhase = SaveJobPhase.saved ∧ row = r.row
  all_saved :
    (forall task, task ∈ s.saves -> task.socket = socket ->
        task.phase.jobPhase = SaveJobPhase.saved) ->
      (s.rowsOn socket).Perm
        ((frames.filterMap SentFrame.report?).map SentReport.row)
  heartbeats :
    (s.writes.filter (fun w =>
        decide (w.socket = socket) && w.acknowledges.isNone)).map Write.text =
      (frames.filter SentFrame.isHeartbeat).filterMap SentFrame.answer
  answered :
    (forall task, task ∈ s.saves -> task.socket = socket ->
        task.phase.isFinished = true) ->
      ((s.writes.filter (fun w => decide (w.socket = socket))).map
        Write.text).Perm (frames.filterMap SentFrame.answer)

variable {s : TrackerTcpServer Socket}

omit [DecidableEq Socket] in
theorem row_of_chain (h : SaveStore.RowsSaved trackerStore s.store) {i : Nat}
    {task : SaveTask Socket} {r : SentReport}
    (htask : s.saves[i]? = some task) (hparsed : task.parsed = r.parsed)
    (row : TrackerReport) : (i, row) ∈ s.reports <->
      task.phase.jobPhase = SaveJobPhase.saved ∧ row = r.row := by
  have hjob : s.store.saves[i]? = some task.job := by
    have hmap : s.store.saves[i]? = (s.saves[i]?).map SaveTask.job :=
      List.getElem?_map
    rw [hmap, htask]
    rfl
  have hcontent : task.job.content = some (reportPatch r.parsed.header
      r.report.meaning task.startedAt, r.row) := by
    show saveReport task.parsed task.startedAt = _
    rw [hparsed]
    exact r.saveReport_parsed task.startedAt
  have hrows : (i, row) ∈ s.reports <-> exists patch, s.store.saves[i]? =
      some { content := some (patch, row), phase := SaveJobPhase.saved } :=
    h.rows i row
  rw [hrows, hjob]
  constructor
  · rintro ⟨patch, hsame⟩
    have hjobs := Option.some.inj hsame
    have hpair := hcontent.symm.trans (congrArg SaveJob.content hjobs)
    exact ⟨congrArg SaveJob.phase hjobs,
      (Prod.mk.inj (Option.some.inj hpair)).right.symm⟩
  · rintro ⟨hphase, rfl⟩
    refine ⟨reportPatch r.parsed.header r.report.meaning task.startedAt,
      congrArg some ?_⟩
    rw [← hcontent, ← hphase]
    rfl

section Chains

variable {socket : Socket} {reports : List SentReport}

theorem parsed_of_chain
    (hchains : (s.chainsOn socket).map (fun numbered => numbered.1.parsed) =
      reports.map SentReport.parsed) {k i : Nat} {task : SaveTask Socket}
    (hchain : (s.chainsOn socket)[k]? = some (task, i)) :
    exists r, reports[k]? = some r ∧ task.parsed = r.parsed := by
  have hparsed : ((s.chainsOn socket).map (fun numbered =>
      numbered.1.parsed))[k]? = some task.parsed := by
    rw [List.getElem?_map, hchain]
    rfl
  rw [hchains, List.getElem?_map] at hparsed
  rcases Option.map_eq_some_iff.mp hparsed with ⟨r, hr, hsame⟩
  exact ⟨r, hr, hsame.symm⟩

theorem row_of_chainsOn (h : SaveStore.RowsSaved trackerStore s.store)
    (hchains : (s.chainsOn socket).map (fun numbered => numbered.1.parsed) =
      reports.map SentReport.parsed) {k i : Nat} {task : SaveTask Socket}
    {r : SentReport} (hchain : (s.chainsOn socket)[k]? = some (task, i))
    (hr : reports[k]? = some r) (row : TrackerReport) :
    (i, row) ∈ s.reports <->
      task.phase.jobPhase = SaveJobPhase.saved ∧ row = r.row := by
  rcases parsed_of_chain hchains hchain with ⟨other, hother, hparsed⟩
  rw [hr, Option.some.injEq] at hother
  rw [← hother] at hparsed
  have hfound := TrackerTcpServer.mem_chainsOn.mp (List.mem_of_getElem? hchain)
  exact row_of_chain h hfound.left hparsed row

/-- If every chain of the socket has saved its row, the rows of the socket are
those of the reports. -/
theorem rowsOn_perm (h : SaveStore.RowsSaved trackerStore s.store)
    (hchains : (s.chainsOn socket).map (fun numbered => numbered.1.parsed) =
      reports.map SentReport.parsed)
    (hsaved : forall task, task ∈ s.saves -> task.socket = socket ->
      task.phase.jobPhase = SaveJobPhase.saved) :
    (s.rowsOn socket).Perm (reports.map SentReport.row) := by
  -- Both sides are the rows of the chains of the socket, by their numbers.
  let numbers := (s.chainsOn socket).map Prod.snd
  let rows := s.reports.filter (fun saved =>
    (s.saves[saved.1]?).any (fun task => decide (task.socket = socket)))
  have hlength : numbers.length = (reports.map SentReport.row).length := by
    have hcount := congrArg List.length hchains
    rw [List.length_map, List.length_map] at hcount
    rw [List.length_map, List.length_map, hcount]
  have hnumbers : numbers.Nodup := by
    have hnodup : (s.saves.zipIdx.map Prod.snd).Nodup := by
      rw [List.zipIdx_map_snd]
      exact List.nodup_range'
    exact hnodup.sublist (List.filter_sublist.map Prod.snd)
  have hleft : rows.Nodup :=
    (List.Nodup.of_map Prod.fst h.rows_once).sublist List.filter_sublist
  have hright : (numbers.zip (reports.map SentReport.row)).Nodup := by
    apply List.Nodup.of_map Prod.fst
    rw [List.map_fst_zip (Nat.le_of_eq hlength)]
    exact hnumbers
  have hsame : rows.Perm (numbers.zip (reports.map SentReport.row)) := by
    refine (List.perm_ext_iff_of_nodup hleft hright).mpr ?_
    rintro ⟨i, row⟩
    constructor
    · intro hmem
      rcases List.mem_filter.mp hmem with ⟨hrow, hany⟩
      rcases SaveStore.exists_of_any hany with ⟨task, htask, hsocket⟩
      have hchain := TrackerTcpServer.mem_chainsOn.mpr
        ⟨htask, of_decide_eq_true hsocket⟩
      rcases List.getElem?_of_mem hchain with ⟨k, hk⟩
      rcases parsed_of_chain hchains hk with ⟨r, hr, _⟩
      have hvalue := ((row_of_chainsOn h hchains hk hr row).mp hrow).right
      refine List.mem_of_getElem? (i := k)
        (List.getElem?_zip_eq_some.mpr ⟨?_, ?_⟩)
      · rw [List.getElem?_map, hk]
        rfl
      · rw [List.getElem?_map, hr, hvalue]
        rfl
    · intro hmem
      rcases List.getElem?_of_mem hmem with ⟨k, hk⟩
      rcases List.getElem?_zip_eq_some.mp hk with ⟨hnumber, hrow⟩
      rw [List.getElem?_map] at hnumber hrow
      rcases Option.map_eq_some_iff.mp hnumber with ⟨⟨task, _⟩, hchain, rfl⟩
      rcases Option.map_eq_some_iff.mp hrow with ⟨r, hr, rfl⟩
      rcases TrackerTcpServer.mem_chainsOn.mp (List.mem_of_getElem? hchain) with
        ⟨htask, hsocket⟩
      have hdone := hsaved task (List.mem_of_getElem? htask) hsocket
      refine List.mem_filter.mpr
        ⟨(row_of_chainsOn h hchains hchain hr _).mpr ⟨hdone, rfl⟩, ?_⟩
      rw [htask]
      exact decide_eq_true hsocket
  show (rows.map Prod.snd).Perm _
  have hrows := hsame.map Prod.snd
  rwa [List.map_snd_zip (Nat.le_of_eq hlength.symm)] at hrows

end Chains

/-- Chains and rows of all sockets are those of the reports in this order. -/
structure SavedAsSent (order : List (Socket × SentReport))
    (s : TrackerTcpServer Socket) : Prop where
  chains : s.saves.map (fun task => (task.socket, task.parsed)) =
    order.map (fun sent => (sent.1, sent.2.parsed))
  rows : forall (i : Nat) (row : TrackerReport), (i, row) ∈ s.reports <->
    exists sent task, order[i]? = some sent ∧ s.saves[i]? = some task ∧
      task.phase.jobPhase = SaveJobPhase.saved ∧ row = sent.2.row

omit [DecidableEq Socket] in
theorem exists_sent_of_task {order : List (Socket × SentReport)}
    (hchains : s.saves.map (fun task => (task.socket, task.parsed)) =
      order.map (fun sent => (sent.1, sent.2.parsed))) {i : Nat}
    {task : SaveTask Socket} (htask : s.saves[i]? = some task) :
    exists sent, order[i]? = some sent ∧ task.parsed = sent.2.parsed := by
  have hpair := congrArg (fun chains => chains[i]?) hchains
  simp only [List.getElem?_map, htask, Option.map_some] at hpair
  rcases Option.map_eq_some_iff.mp hpair.symm with ⟨sent, hsent, hsame⟩
  exact ⟨sent, hsent, (Prod.mk.inj hsame).right.symm⟩

omit [DecidableEq Socket] in
theorem savedAsSent_of_chains {order : List (Socket × SentReport)}
    (h : SaveStore.RowsSaved trackerStore s.store)
    (hchains : s.saves.map (fun task => (task.socket, task.parsed)) =
      order.map (fun sent => (sent.1, sent.2.parsed))) :
    SavedAsSent order s := by
  refine ⟨hchains, fun i row => ?_⟩
  constructor
  · intro hrow
    rcases (h.rows i row).mp hrow with ⟨patch, hjob⟩
    rcases Option.map_eq_some_iff.mp (List.getElem?_map.symm.trans hjob) with
      ⟨task, htask, _⟩
    rcases exists_sent_of_task hchains htask with ⟨sent, hsent, hparsed⟩
    exact ⟨sent, task, hsent, htask,
      (row_of_chain h htask hparsed row).mp hrow⟩
  · rintro ⟨sent, task, hsent, htask, hsaved⟩
    rcases exists_sent_of_task hchains htask with ⟨other, hother, hparsed⟩
    rw [hsent, Option.some.injEq] at hother
    rw [← hother] at hparsed
    exact (row_of_chain h htask hparsed row).mpr hsaved

/-- The chains of all sockets, in an order of the reports that keeps the order of
each socket. -/
theorem exists_savedAsSent {maxBufferBytes : Nat}
    {history : List (TrackerEvent Socket)}
    (hlegal : (trackerTcpServer Socket maxBufferBytes).Legal history)
    {sent : Socket -> List SentFrame}
    (h : forall socket, Receives maxBufferBytes (chunksOn socket history)
      (sent socket)) :
    exists order : List (Socket × SentReport),
      (forall socket, ofSession socket order = (arrived (sent socket)
        (chunksOn socket history)).filterMap SentFrame.report?) ∧
      SavedAsSent order
        ((trackerTcpServer Socket maxBufferBytes).stateAfter history) := by
  have hrows := (accounted_store hlegal).rows
  have hparts : forall socket, ofSession socket
      (((trackerTcpServer Socket maxBufferBytes).stateAfter
        history).saves.map (fun task => (task.socket, task.parsed))) =
      ((arrived (sent socket) (chunksOn socket history)).filterMap
        SentFrame.report?).map SentReport.parsed := by
    intro socket
    have hfst := congrArg (List.map SaveTask.parsed)
      (TrackerTcpServer.map_fst_chainsOn ((trackerTcpServer Socket
        maxBufferBytes).stateAfter history) socket)
    rw [List.map_map] at hfst
    rw [← (h socket).chains hlegal, ofSession_eq, List.filter_map,
      List.map_map]
    exact hfst.symm
  rcases exists_interleaving SentReport.parsed hparts with
    ⟨order, hsessions, horder⟩
  exact ⟨order, hsessions, savedAsSent_of_chains hrows horder.symm⟩

/-- A socket has received frames.  In every run of the server, at every moment
and whatever happens on the other sockets, the reports that have arrived whole are
those of the chains of the socket, in order; the row of a chain is there exactly
if its save succeeded, and it has the values of its report; heartbeats have been
answered in order, and once the chains have finished each report and heartbeat has
been answered once, by its serial number. -/
theorem sentFrames_served {maxBufferBytes : Nat}
    (run : (trackerTcpServer Socket maxBufferBytes).Run) (socket : Socket)
    (sent : List SentFrame)
    (h : Receives maxBufferBytes (chunksOn socket run.history) sent) :
    ServedAsSent (arrived sent (chunksOn socket run.history)) socket
      ((trackerTcpServer Socket maxBufferBytes).stateAfter run.history) := by
  have hrows := (accounted_store run.legal).rows
  have hanswers := answersStream_of_legal run.legal socket
  rw [h.frames] at hanswers
  have hchains := h.chains run.legal
  refine ⟨hchains, ?_, rowsOn_perm hrows hchains, ?_, ?_⟩
  · intro k i task r hchain hr row
    exact row_of_chainsOn hrows hchains hchain hr row
  · rw [← SentFrame.heartbeats_bytes]
    exact hanswers.heartbeats
  · rw [← SentFrame.answers_bytes]
    exact hanswers.answered

end Runs

/-!
## Reports of the battery

A report holds a value for every field, those that are not sent included.
-/

def EventDataField.blank (f : EventDataField) : f.wire.Wire := by
  cases f
  case analogInput => exact (⟨0, by decide⟩, ⟨0, by decide⟩)
  case mileage => exact (⟨0, by decide⟩, ⟨0, by decide⟩)
  case idData => exact ⟨[], by decide⟩
  case oneWire => exact ⟨[], by decide⟩
  case hourMeter => exact ⟨0, 0, 0, ⟨0, by decide⟩, 0, 0⟩
  case selfCalibration =>
    exact ((⟨0, by decide⟩, ⟨0, by decide⟩, ⟨0, by decide⟩),
      (⟨0, by decide⟩, ⟨0, by decide⟩, ⟨0, by decide⟩),
      ⟨0, by decide⟩, ⟨0, by decide⟩, ⟨0, by decide⟩)
  case crash =>
    exact (⟨0, by decide⟩, ⟨0, by decide⟩, ⟨0, by decide⟩, ⟨0, by decide⟩,
      ⟨0, by decide⟩)
  case certificate => exact (⟨0, by decide⟩, ⟨0, by decide⟩, ⟨0, by decide⟩)
  all_goals exact ⟨0, by decide⟩

def CanInfo1Field.blank (f : CanInfo1Field) : f.wire.Wire := by
  cases f
  case vin => exact ⟨[], by decide, by simp⟩
  case fuelConsumption => exact (⟨0, by decide⟩, ⟨0, by decide⟩)
  case fuelLevel => exact (⟨0, by decide⟩, ⟨0, by decide⟩)
  all_goals exact ⟨0, by decide⟩

def CanInfo2Field.blank (f : CanInfo2Field) : f.wire.Wire := by
  cases f
  case trailerVin => exact ⟨[], by decide, by simp⟩
  case registrationNumber => exact ⟨[], by decide, by simp⟩
  case dtcCodes => exact ⟨[], by decide⟩
  case tyres => exact ⟨[], by decide⟩
  case gaseousFuelLevel => exact (⟨0, by decide⟩, ⟨0, by decide⟩)
  case fuelLevelCombustion => exact (⟨0, by decide⟩, ⟨0, by decide⟩)
  all_goals exact ⟨0, by decide⟩

def ElectricInfo1Field.blank (f : ElectricInfo1Field) : f.wire.Wire := by
  cases f <;> exact ⟨0, by decide⟩

def CanInfo3Field.blank (f : CanInfo3Field) : f.wire.Wire := by
  cases f <;> exact ⟨0, by decide⟩

/-- A block of which nothing is sent. -/
def blankBlock {L : MaskLayout Warning}
    {W : (f : L.Field) -> WireFormat (L.Value f)}
    (values : (f : L.Field) -> (W f).Wire) : WireBlock L W where
  mask := 0
  mask_lt := by decide
  modelled := by
    intro bit hbit
    cases hbit
  values := values

def batteryValues : (f : ReportField) -> f.wire.Wire
  | ReportField.frame => (⟨0, by decide⟩, ⟨0, by decide⟩)
  | ReportField.networkType => ⟨0, by decide⟩
  | ReportField.battery => (⟨12600, by decide⟩, ⟨95, by decide⟩)
  | ReportField.gnss => ⟨0, ⟨[], by decide⟩⟩
  | ReportField.cell => (⟨0, by decide⟩, ⟨0, by decide⟩, ⟨0, by decide⟩,
      ⟨0, by decide⟩, ⟨0, by decide⟩)
  | ReportField.upgrade => (⟨0, by decide⟩, ⟨[0, 0], rfl⟩)
  | ReportField.eventData => blankBlock EventDataField.blank
  | ReportField.canInfo1 => blankBlock CanInfo1Field.blank
  | ReportField.canInfo2 => blankBlock CanInfo2Field.blank
  | ReportField.electricInfo1 => blankBlock ElectricInfo1Field.blank
  | ReportField.canInfo3 => blankBlock CanInfo3Field.blank
  | ReportField.canAdvancedInfo1 => ⟨⟨0, by decide⟩, fun _ => ⟨[], by decide⟩⟩

def batteryReport : SentReport where
  historical := false
  imei := "356938035643809"
  deviceId := none
  report :=
    { majorVersion := 11
      minorVersion := 1
      eventType := 2
      eventState := 0
      block :=
        { mask := 4
          mask_lt := by decide
          modelled := by decide
          values := batteryValues } }
  time := 1783398896000
  serialNumber := 7
  imei_length := by decide
  imei_digits := List.all_eq_true.mp (by decide)
  report_fits := by decide
  time_fourDigit := by decide

/-- An earlier report, from the archive. -/
def archivedReport : SentReport where
  historical := true
  imei := "356938035643809"
  deviceId := none
  report := batteryReport.report
  time := 1783398296000
  serialNumber := 9
  imei_length := by decide
  imei_digits := List.all_eq_true.mp (by decide)
  report_fits := by decide
  time_fourDigit := by decide

def batteryHeartbeat : FrameDescription where
  kind := TrackerFrameKind.hbd
  imei := "356938035643809"
  deviceId := none
  dataZone := [11, 1]
  time := 1783398906000
  serialNumber := 8
  kind_known := by decide
  imei_length := by decide
  imei_digits := List.all_eq_true.mp (by decide)
  dataZone_fits := by decide
  time_fourDigit := by decide

def batteryFrames : List SentFrame :=
  [SentFrame.report batteryReport,
    SentFrame.message batteryHeartbeat (by decide),
    SentFrame.report archivedReport]

/-- The frames arrive in three pieces, cut inside both reports.  The second report
is saved in front of the first. -/
def batteryHistory : List (TrackerEvent Nat) :=
  let bytes := stream (batteryFrames.map SentFrame.wire)
  [TrackerEvent.connect 0 none none, TrackerEvent.data 0 (bytes.take 20) 0,
    TrackerEvent.data 0 ((bytes.drop 20).take 60) 1,
    TrackerEvent.markSettled 0 true, TrackerEvent.upsertSettled 0 true,
    TrackerEvent.data 0 (bytes.drop 80) 2, TrackerEvent.upsertSettled 1 true,
    TrackerEvent.saveSettled 1 true, TrackerEvent.saveSettled 0 true,
    TrackerEvent.thenRuns 1 SaveOutcome.row false,
    TrackerEvent.catchRuns 1 SaveOutcome.row false,
    TrackerEvent.finallyRuns 1 SaveOutcome.row,
    TrackerEvent.thenRuns 0 SaveOutcome.row false,
    TrackerEvent.catchRuns 0 SaveOutcome.row false,
    TrackerEvent.finallyRuns 0 SaveOutcome.row]

theorem batteryHistory_legal :
    (trackerTcpServer Nat 65536).Legal batteryHistory := by
  decide +kernel

theorem receives_battery :
    Receives 65536 (chunksOn 0 batteryHistory) batteryFrames := by
  refine ⟨by decide +kernel, ?_, ?_⟩
  · apply cutsClear_of_clearTails
    decide +kernel
  · intro f hf
    simp only [batteryFrames, List.mem_cons, List.not_mem_nil, or_false] at hf
    rcases hf with rfl | rfl | rfl
    all_goals decide +kernel

/-- Everything has arrived, is saved and answered, the heartbeat at once. -/
theorem sentFrames_served_battery :
    let s := (trackerTcpServer Nat 65536).stateAfter batteryHistory
    ServedAsSent (arrived batteryFrames (chunksOn 0 batteryHistory)) 0 s ∧
      (arrived batteryFrames (chunksOn 0 batteryHistory)).length = 3 ∧
      s.reports.map Prod.fst = [1, 0] ∧
      s.writes.map Write.text = ["+SHBD:0008#", "+SACK:0009#", "+SACK:0007#"] := by
  refine ⟨?_, by decide +kernel, by decide +kernel, by decide +kernel⟩
  exact sentFrames_served ⟨batteryHistory, batteryHistory_legal⟩ 0 batteryFrames
    receives_battery

end Tracker
end AvtTracker
