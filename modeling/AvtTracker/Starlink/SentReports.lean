import AvtTracker.Starlink.Announcements
import AvtTracker.Starlink.EventReports

/-!
# What units send is what is saved

Units send the lines of their reports as UTF-8.  Whatever pieces the bytes arrive
in and however the sockets interleave, the server starts one chain for each line,
and the rows it saves are those of the reports.
-/

namespace AvtTracker
namespace Starlink

open Foundation

/-!
## Lines as bytes
-/

/-- A text that is one line and survives being written as UTF-8. -/
structure Sendable (text : Utf16) : Prop where
  units : text.all isDot = true
  noLoneSurrogate : wellFormed text = true

theorem Sendable.append {front back : Utf16} (hfront : Sendable front)
    (hback : Sendable back) : Sendable (front ++ back) where
  units := by
    rw [List.all_append, hfront.units, hback.units]
    rfl
  noLoneSurrogate := by
    rw [wellFormed_append hfront.noLoneSurrogate, hback.noLoneSurrogate]

theorem sendable_of_units {text : Utf16}
    (h : forall unit, unit ∈ text ->
      isSpaceUnit unit = false ∧ isSurrogate unit = false) : Sendable text where
  units := List.all_eq_true.mpr fun unit hunit =>
    isDot_of_not_space (h unit hunit).left
  noLoneSurrogate := wellFormed_of_forall fun unit hunit => (h unit hunit).right

theorem sendable_of_hex {text : Utf16}
    (h : text.all isHexDigitUnit = true) : Sendable text := by
  apply sendable_of_units
  intro unit hunit
  have hhex := List.all_eq_true.mp h unit hunit
  have hle := toNat_le_of_hex hhex
  exact ⟨isSpaceUnit_of_hex hhex,
    isSurrogate_eq_false_iff.mpr (Or.inl (by lia))⟩

theorem sendable_of_digits {text : Utf16}
    (h : text.all isDigitUnit = true) : Sendable text := by
  apply sendable_of_hex
  rw [List.all_eq_true] at h ⊢
  intro unit hunit
  rw [isHexDigitUnit, h unit hunit]
  rfl

theorem Sendable.not_mem {text : Utf16} (h : Sendable text) :
    lineTerminator ∉ utf8Bytes text ∧ carriageReturn ∉ utf8Bytes text := by
  constructor
  · intro hmem
    have hunit := mem_of_mem_utf8Bytes (by decide) hmem
    exact absurd (List.all_eq_true.mp h.units _ hunit) (by decide)
  · intro hmem
    have hunit := mem_of_mem_utf8Bytes (by decide) hmem
    exact absurd (List.all_eq_true.mp h.units _ hunit) (by decide)

namespace ReportLine

variable {formatTags : List String} (l : ReportLine formatTags)

theorem sendable : Sendable l.text := by
  have hhead : Sendable l.head.toList := by
    apply sendable_of_units
    intro unit hunit
    exact l.head_valid unit (Option.mem_toList.mp hunit)
  have hcomma : Sendable [comma] := ⟨by decide, by decide⟩
  have hid : Sendable (utf16 l.deviceId) :=
    sendable_of_hex l.deviceId_valid.all_hex
  have htype : Sendable (utf16 starlinkEventReportMessageType.text) :=
    sendable_of_digits (readBack l.options_valid.messageType).left.right
  have hindex : Sendable (utf16 (JsNumber.finite l.messageIndex).text) :=
    sendable_of_digits (readBack l.options_valid.messageIndex).left.right
  have hdata : Sendable (l.report.data formatTags) :=
    ⟨all_isDot_data l.report formatTags, wellFormed_data l.report formatTags⟩
  have hchecksum : Sendable ([star] ++ utf16 l.checksumHex) :=
    Sendable.append ⟨by decide, by decide⟩
      (sendable_of_hex l.checksum_valid.right)
  exact hhead.append (Sendable.append ⟨by decide, by decide⟩ (hid.append
    (hcomma.append (htype.append (hcomma.append (hindex.append
      (hcomma.append (hdata.append hchecksum))))))))

def bytes (crlf : Bool) : Bytes :=
  utf8Bytes l.text ++ (if crlf then [carriageReturn] else [])

theorem not_mem_bytes (crlf : Bool) : lineTerminator ∉ l.bytes crlf := by
  intro hmem
  cases List.mem_append.mp hmem with
  | inl htext => exact l.sendable.not_mem.left htext
  | inr hend =>
      cases crlf with
      | false => cases hend
      | true => exact absurd (List.mem_singleton.mp hend) (by decide)

theorem stripCarriageReturn_bytes (crlf : Bool) :
    stripCarriageReturn (l.bytes crlf) = utf8Bytes l.text := by
  unfold bytes stripCarriageReturn
  cases crlf with
  | true => simp
  | false =>
      rw [if_neg Bool.false_ne_true, List.append_nil, if_neg]
      intro hlast
      exact l.sendable.not_mem.right (List.mem_of_getLast? hlast)

theorem utf8Text_bytes : utf8Text (utf8Bytes l.text) = l.text :=
  utf8Text_utf8Bytes l.sendable.noLoneSurrogate

theorem text_ne_nil : l.text ≠ [] := by
  intro hnil
  have hparse := l.parseFrame_text
  rw [hnil] at hparse
  cases hparse

end ReportLine

/-!
## Streams of lines
-/

section Streams

variable {formatTags : List String}

/-- Lines sent one behind the other, each ended by a newline or by a carriage
return and a newline. -/
def sentStream (sent : List (ReportLine formatTags × Bool)) : Bytes :=
  sent.flatMap (fun line => line.1.bytes line.2 ++ [lineTerminator])

theorem sentStream_cons (line : ReportLine formatTags × Bool)
    (sent : List (ReportLine formatTags × Bool)) (tail : Bytes) :
    sentStream (line :: sent) ++ tail =
      line.1.bytes line.2 ++ lineTerminator :: (sentStream sent ++ tail) := by
  simp [sentStream]

/-- What a socket has received is lines of reports, and part of one more that is
still to be ended.  No line is too long for the buffer. -/
structure Receives (maxBufferBytes : Nat) (chunks : List Bytes)
    (sent : List (ReportLine formatTags × Bool)) (tail : Bytes) : Prop where
  stream : chunks.flatten = sentStream sent ++ tail
  unended : lineTerminator ∉ tail
  fits : forall line, line ∈ sent ->
    (line.1.bytes line.2).length ≤ maxBufferBytes
  tail_fits : tail.length ≤ maxBufferBytes

theorem referenceLines_sent (sent : List (ReportLine formatTags × Bool))
    {tail : Bytes} (h : lineTerminator ∉ tail) :
    referenceLines (sentStream sent ++ tail) =
      sent.map (fun line => line.1.text) := by
  induction sent with
  | nil =>
      show linesOfRuns (terminatedRuns lineTerminator tail) = []
      rw [(runs_of_not_mem h).left]
      rfl
  | cons line sent ih =>
      have hpos : (utf8Text (utf8Bytes line.1.text)).length > 0 := by
        rw [line.1.utf8Text_bytes]
        exact List.length_pos_iff.mpr line.1.text_ne_nil
      rw [sentStream_cons, referenceLines,
        (runs_append_cons (line.1.not_mem_bytes line.2) _).left,
        linesOfRuns_cons, line.1.stripCarriageReturn_bytes, if_pos hpos,
        line.1.utf8Text_bytes, List.map_cons, ← ih]
      rfl

theorem runs_fit {maxBufferBytes : Nat} {tail : Bytes}
    (sent : List (ReportLine formatTags × Bool))
    (hunended : lineTerminator ∉ tail)
    (hfits : forall line, line ∈ sent ->
      (line.1.bytes line.2).length ≤ maxBufferBytes)
    (htail : tail.length ≤ maxBufferBytes) (run : Bytes)
    (hrun : run ∈ (sentStream sent ++ tail).splitOn lineTerminator) :
    run.length ≤ maxBufferBytes := by
  induction sent with
  | nil =>
      have hsingle : run ∈ tail.splitOn lineTerminator := hrun
      rw [List.splitOn_eq_singleton hunended] at hsingle
      rw [List.mem_singleton.mp hsingle]
      exact htail
  | cons line sent ih =>
      rw [sentStream_cons, List.splitOn_append_cons_self,
        List.splitOn_eq_singleton (line.1.not_mem_bytes line.2)] at hrun
      cases List.mem_cons.mp hrun with
      | inl hfirst =>
          rw [hfirst]
          exact hfits line List.mem_cons_self
      | inr hrest =>
          exact ih (fun other hother =>
            hfits other (List.mem_cons_of_mem _ hother)) hrest

theorem Receives.lines {maxBufferBytes : Nat} {chunks : List Bytes}
    {sent : List (ReportLine formatTags × Bool)} {tail : Bytes}
    (h : Receives maxBufferBytes chunks sent tail) :
    linesOfChunks maxBufferBytes chunks =
      sent.map (fun line => line.1.text) := by
  have hruns : forall run, run ∈ chunks.flatten.splitOn lineTerminator ->
      run.length ≤ maxBufferBytes := by
    intro run hrun
    rw [h.stream] at hrun
    exact runs_fit sent h.unended h.fits h.tail_fits run hrun
  have hpushed := (lines_of_pushChunks maxBufferBytes chunks hruns).left
  rw [pushChunks_eq_outputs] at hpushed
  rw [← referenceLines_sent sent h.unended, ← h.stream]
  exact hpushed

end Streams

/-!
## Runs of the server
-/

def ReportLine.row {formatTags : List String} (l : ReportLine formatTags) :
    StarlinkReport :=
  reportRow l.parsed (l.report.payloadIn formatTags)

section Runs

variable {Socket : Type} {formatTags : List String}

/-- Chains, rows and announcements are those of the lines in this order. -/
structure SavedAsSent (order : List (Socket × ReportLine formatTags × Bool))
    (s : StarlinkTcpServer Socket) : Prop where
  chains : s.saves.map SaveTask.parsed =
    order.map (fun sent => sent.2.1.parsed)
  rows : forall (i : Nat) (row : StarlinkReport), (i, row) ∈ s.reports <->
    exists sent task, order[i]? = some sent ∧ s.saves[i]? = some task ∧
      task.phase.jobPhase = SaveJobPhase.saved ∧ row = sent.2.1.row
  announced : forall (i : Nat) (e : Emitted), e ∈ s.emitted ->
    e.chain? = some i -> exists sent, order[i]? = some sent ∧
      e = Emitted.reportReceived sent.2.1.deviceId i sent.2.1.row

theorem eventReport?_text (l : ReportLine formatTags) :
    eventReport? formatTags l.text = some l.parsed := by
  unfold eventReport?
  rw [l.parseFrame_text]
  rfl

variable {order : List (Socket × ReportLine formatTags × Bool)}
  {s : StarlinkTcpServer Socket}

theorem exists_sent_of_task
    (hchains : s.saves.map SaveTask.parsed =
      order.map (fun sent => sent.2.1.parsed)) {i : Nat} {task : SaveTask}
    (htask : s.saves[i]? = some task) :
    exists sent, order[i]? = some sent ∧ task.parsed = sent.2.1.parsed := by
  have hparsed : (s.saves.map SaveTask.parsed)[i]? = some task.parsed := by
    rw [List.getElem?_map, htask]
    rfl
  rw [hchains, List.getElem?_map] at hparsed
  rcases Option.map_eq_some_iff.mp hparsed with ⟨sent, hsent, hsame⟩
  exact ⟨sent, hsent, hsame.symm⟩

theorem savedRow_of_sent {task : SaveTask} {l : ReportLine formatTags}
    (h : task.parsed = l.parsed) :
    task.savedRow = if task.phase.jobPhase = SaveJobPhase.saved then
      some l.row else none := by
  unfold SaveTask.savedRow
  rw [h]
  rfl

theorem ReportsExact.savedAsSent
    (h : ReportsExact formatTags
      (order.map (fun sent => (sent.1, sent.2.1.text))) s) :
    SavedAsSent order s := by
  have hchains : s.saves.map SaveTask.parsed =
      order.map (fun sent => sent.2.1.parsed) := by
    rw [h.chains, List.filterMap_map, ← List.filterMap_eq_map']
    exact List.filterMap_congr fun sent _ => eventReport?_text sent.2.1
  refine ⟨hchains, ?_, ?_⟩
  · intro i row
    rw [h.rows]
    constructor
    · rintro ⟨task, htask, hrow⟩
      rcases exists_sent_of_task hchains htask with ⟨sent, hsent, hparsed⟩
      rw [savedRow_of_sent hparsed] at hrow
      rcases ite_eq_iff.mp hrow with ⟨hphase, hrow⟩ | ⟨_, hc⟩
      · exact ⟨sent, task, hsent, htask, hphase, (Option.some.inj hrow).symm⟩
      · cases hc
    · rintro ⟨sent, task, hsent, htask, hphase, hrow⟩
      rcases exists_sent_of_task hchains htask with ⟨other, hother, hparsed⟩
      rw [hsent, Option.some.injEq] at hother
      refine ⟨task, htask, ?_⟩
      rw [savedRow_of_sent hparsed, if_pos hphase, ← hother, hrow]
  · intro i e he hchain
    have hlength := h.nothing_else e he i hchain
    have htask := List.getElem?_eq_getElem hlength
    rcases exists_sent_of_task hchains htask with ⟨sent, hsent, hparsed⟩
    refine ⟨sent, hsent, ?_⟩
    have hkept : e ∈ s.emitted.filter (fun e => e.chain? == some i) :=
      List.mem_filter.mpr ⟨he, beq_iff_eq.mpr hchain⟩
    rw [h.announced i _ htask, savedRow_of_sent hparsed] at hkept
    split_ifs at hkept with hphase hsaved
    · exact List.mem_singleton.mp hkept
    · cases hkept
    · cases hkept

theorem exists_savedAsSent [DecidableEq Socket] {maxBufferBytes : Nat}
    {history : List (StarlinkEvent Socket Bytes)}
    (hlegal : (starlinkTcpServer Socket maxBufferBytes formatTags).Legal
      history)
    {sent : Socket -> List (ReportLine formatTags × Bool)}
    {tail : Socket -> Bytes}
    (h : forall socket, Receives maxBufferBytes (ofSession socket
      (history.filterMap StarlinkEvent.received)) (sent socket) (tail socket)) :
    exists order : List (Socket × ReportLine formatTags × Bool),
      (forall socket, ofSession socket order = sent socket) ∧
      SavedAsSent order ((starlinkTcpServer Socket maxBufferBytes
        formatTags).stateAfter history) := by
  have hexact := reportsExact hlegal
  have hparts : forall socket, ofSession socket
      (deliveredLines maxBufferBytes
        (history.filterMap StarlinkEvent.received)) =
          (sent socket).map (fun line => line.1.text) := by
    intro socket
    rw [ofSession_deliveredLines, (h socket).lines]
  rcases exists_interleaving _ hparts with ⟨order, hsessions, horder⟩
  rw [← horder] at hexact
  exact ⟨order, hsessions, hexact.savedAsSent⟩

/--
Every socket has sent lines of reports that fit the buffer.  Then, in every run of
the server and whatever pieces the bytes arrived in, the sockets' lines interleave,
each socket's in the order it sent them, and one chain after the other saves them:
the row of a chain is there exactly if its save succeeded, it has the values of its
report and no warnings, and it is what listeners are told of.
-/
theorem sentReports_saved [DecidableEq Socket] {maxBufferBytes : Nat}
    (run : (starlinkTcpServer Socket maxBufferBytes formatTags).Run)
    (sent : Socket -> List (ReportLine formatTags × Bool))
    (tail : Socket -> Bytes)
    (h : forall socket, Receives maxBufferBytes (ofSession socket
      (run.history.filterMap StarlinkEvent.received)) (sent socket)
        (tail socket)) :
    exists order : List (Socket × ReportLine formatTags × Bool),
      (forall socket, ofSession socket order = sent socket) ∧
      SavedAsSent order ((starlinkTcpServer Socket maxBufferBytes
        formatTags).stateAfter run.history) := by
  exact exists_savedAsSent run.legal h

end Runs

/-- The ignition is turned on after twelve kilometers and a half. -/
def ignitionLine : ReportLine defaultStarlinkFormatTags where
  head := some 0x21
  deviceId := "356938"
  messageIndex := 42
  report :=
    { eid := some
        { sign := NumeralSign.unsigned
          digits := utf16 "24"
          digits_valid := by decide }
      odo := some
        { sign := NumeralSign.unsigned
          whole := utf16 "12"
          fraction := utf16 "5"
          whole_valid := by decide
          fraction_valid := by decide } }
  checksumHex := "A3"
  head_valid := by
    rintro unit ⟨⟩
    decide
  deviceId_valid := Or.inl (by decide)
  messageIndex_lt := by decide
  checksum_valid := by decide
  data_ne_nil := by decide +kernel

/-- It is turned off again. -/
def ignitionOffLine : ReportLine defaultStarlinkFormatTags where
  head := some 0x21
  deviceId := "356938"
  messageIndex := 43
  report :=
    { eid := some
        { sign := NumeralSign.unsigned
          digits := utf16 "25"
          digits_valid := by decide } }
  checksumHex := "0F"
  head_valid := by
    rintro unit ⟨⟩
    decide
  deviceId_valid := Or.inl (by decide)
  messageIndex_lt := by decide
  checksum_valid := by decide
  data_ne_nil := by decide +kernel

/-- Another unit has the same to report. -/
def otherIgnitionLine : ReportLine defaultStarlinkFormatTags where
  head := none
  deviceId := "77A1B2"
  messageIndex := 7
  report := ignitionLine.report
  checksumHex := "5C"
  head_valid := by
    rintro unit ⟨⟩
  deviceId_valid := Or.inl (by decide)
  messageIndex_lt := by decide
  checksum_valid := by decide
  data_ne_nil := by decide +kernel

def ignitionLines :
    Nat -> List (ReportLine defaultStarlinkFormatTags × Bool)
  | 0 => [(ignitionLine, true), (ignitionOffLine, false)]
  | 1 => [(otherIgnitionLine, false)]
  | _ => []

def ignitionTail : Nat -> Bytes
  | 1 => (sentStream [(otherIgnitionLine, true)]).take 10
  | _ => []

/-- The line of the second socket comes to its end in front of those of the first,
whose chunks are cut within its lines. -/
def ignitionHistory : List (StarlinkEvent Nat Bytes) :=
  let stream := sentStream (ignitionLines 0)
  [StarlinkEvent.connect 0 none none, StarlinkEvent.connect 1 none none,
    StarlinkEvent.data 0 (stream.take 20) 0,
    StarlinkEvent.data 1 (sentStream (ignitionLines 1) ++ ignitionTail 1) 1,
    StarlinkEvent.upsertSettled 0 true,
    StarlinkEvent.data 0 ((stream.drop 20).take 60) 2,
    StarlinkEvent.upsertSettled 1 true, StarlinkEvent.saveSettled 1 true,
    StarlinkEvent.markSettled 1 true, StarlinkEvent.markSettled 0 true,
    StarlinkEvent.data 0 (stream.drop 80) 3,
    StarlinkEvent.thenRuns 1 SaveOutcome.row false,
    StarlinkEvent.saveSettled 0 true, StarlinkEvent.upsertSettled 2 true,
    StarlinkEvent.thenRuns 0 SaveOutcome.row false,
    StarlinkEvent.saveSettled 2 true,
    StarlinkEvent.catchRuns 0 SaveOutcome.row false,
    StarlinkEvent.thenRuns 2 SaveOutcome.row false,
    StarlinkEvent.catchRuns 1 SaveOutcome.row false,
    StarlinkEvent.catchRuns 2 SaveOutcome.row false]

theorem ignitionHistory_legal :
    (starlinkTcpServer Nat 8192 defaultStarlinkFormatTags).Legal
      ignitionHistory := by
  decide +kernel

theorem receives_ignition (socket : Nat) :
    Receives 8192 (ofSession socket
      (ignitionHistory.filterMap StarlinkEvent.received))
      (ignitionLines socket) (ignitionTail socket) := by
  match socket with
  | 0 =>
      refine ⟨by decide +kernel, by decide, ?_, by decide⟩
      intro line hline
      rcases List.mem_pair.mp hline with rfl | rfl
      all_goals decide +kernel
  | 1 =>
      refine ⟨by decide +kernel, by decide +kernel, ?_, by decide +kernel⟩
      intro line hline
      rw [List.mem_singleton.mp hline]
      decide +kernel
  | socket + 2 =>
      have hnothing : ofSession (socket + 2)
          (ignitionHistory.filterMap StarlinkEvent.received) = [] := by
        show ofSession (socket + 2) [(0, _), (1, _), (0, _), (0, _)] = []
        simp [ofSession_cons]
        rfl
      rw [hnothing]
      refine ⟨rfl, List.not_mem_nil, ?_, Nat.zero_le _⟩
      intro line hline
      cases hline

/-- Every report is saved and announced, those of the first socket in order. -/
theorem sentReports_saved_ignition :
    let s := (starlinkTcpServer Nat 8192
      defaultStarlinkFormatTags).stateAfter ignitionHistory
    (exists order : List
        (Nat × ReportLine defaultStarlinkFormatTags × Bool),
      (forall socket, ofSession socket order = ignitionLines socket) ∧
        SavedAsSent order s) ∧
      s.reports.map Prod.fst = [1, 0, 2] ∧
      s.emitted.filterMap Emitted.chain? = [1, 0, 2] := by
  refine ⟨?_, by decide +kernel, by decide +kernel⟩
  exact sentReports_saved ⟨ignitionHistory, ignitionHistory_legal⟩ ignitionLines
    ignitionTail receives_ignition

end Starlink
end AvtTracker
