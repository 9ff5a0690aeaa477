import AvtTracker.Tracker.FrameStreams

/-!
# What a socket is told

The replies written to a socket are those to the frames of its own stream.  When
the chains of its reports have run to their ends, each of its heartbeats and
reports has been answered once.
-/

namespace AvtTracker
namespace Tracker

open Foundation Tcp

def replyText (frame : Bytes) : Option String :=
  if isHeartbeatFrame frame then
    some ("+SHBD:" ++ toHex (serialBytes frame) ++ "#")
  else if isReportFrame frame then
    some ("+SACK:" ++ toHex (serialBytes frame) ++ "#")
  else none

variable {Socket : Type} [DecidableEq Socket]

/-- What the server has written to a socket, and is about to write, comes from
the frames of its stream. -/
structure AnswersStream (frames : List Bytes) (socket : Socket)
    (s : TrackerTcpServer Socket) : Prop where
  heartbeats :
    (s.writes.filter (fun w =>
        decide (w.socket = socket) && w.acknowledges.isNone)).map Write.text =
      (frames.filter isHeartbeatFrame).filterMap replyText
  chains :
    (s.saves.filter (fun task => decide (task.socket = socket))).map
        (fun task => Except.ok task.parsed) =
      (frames.filter isReportFrame).map parseFrame
  acknowledgements : forall i : Nat,
    s.writes.filter (fun w => w.acknowledges == some i) =
      (s.saves[i]?).elim [] (SaveTask.replies i)
  answered :
    (forall task, task ∈ s.saves -> task.socket = socket ->
        task.phase.isFinished = true) ->
      ((s.writes.filter (fun w => decide (w.socket = socket))).map
        Write.text).Perm (frames.filterMap replyText)

/-!
## Heartbeats and chains
-/

omit [DecidableEq Socket] in
theorem not_report_of_heartbeat {frame : Bytes}
    (h : isHeartbeatFrame frame = true) : isReportFrame frame = false := by
  unfold isHeartbeatFrame at h
  unfold isReportFrame
  cases hparse : parseFrame frame with
  | error message => rfl
  | ok parsed =>
      rw [hparse] at h
      have hkind : parsed.header.kind = TrackerFrameKind.hbd :=
        of_decide_eq_true h
      refine decide_eq_false ?_
      rintro (hc | hc)
      · rw [hkind] at hc
        cases hc
      · rw [hkind] at hc
        cases hc

theorem replies_perm (frames : List Bytes) :
    ((frames.filter isHeartbeatFrame).filterMap replyText ++
        (frames.filter isReportFrame).filterMap replyText).Perm
      (frames.filterMap replyText) := by
  induction frames with
  | nil => exact List.Perm.refl _
  | cons frame frames ih =>
      cases hheartbeat : isHeartbeatFrame frame with
      | true =>
          have hreport := not_report_of_heartbeat hheartbeat
          have hreply : replyText frame =
              some ("+SHBD:" ++ toHex (serialBytes frame) ++ "#") :=
            if_pos hheartbeat
          rw [List.filter_cons_of_pos hheartbeat,
            List.filter_cons_of_neg (by rw [hreport]; exact Bool.false_ne_true),
            List.filterMap_cons_some hreply, List.filterMap_cons_some hreply]
          exact ih.cons _
      | false =>
          have hskip : ¬ isHeartbeatFrame frame = true := by
            rw [hheartbeat]
            exact Bool.false_ne_true
          rw [List.filter_cons_of_neg hskip]
          cases hreport : isReportFrame frame with
          | true =>
              have hreply : replyText frame =
                  some ("+SACK:" ++ toHex (serialBytes frame) ++ "#") :=
                (if_neg hskip).trans (if_pos hreport)
              rw [List.filter_cons_of_pos hreport,
                List.filterMap_cons_some hreply, List.filterMap_cons_some hreply]
              exact List.perm_middle.trans (ih.cons _)
          | false =>
              have hreply : replyText frame = none :=
                (if_neg hskip).trans (if_neg (by
                  rw [hreport]
                  exact Bool.false_ne_true))
              rw [List.filter_cons_of_neg (by
                rw [hreport]
                exact Bool.false_ne_true), List.filterMap_cons_none hreply]
              exact ih

section Frames

variable {trace : List (TrackerEvent Socket)} {s : TrackerTcpServer Socket}

theorem Replied.heartbeats_on (h : Replied trace s) (socket : Socket) :
    (s.writes.filter (fun w =>
        decide (w.socket = socket) && w.acknowledges.isNone)).map Write.text =
      ((ofSession socket (receivedFrames trace)).filter
        isHeartbeatFrame).filterMap replyText := by
  have htexts : forall received, received ∈ receivedHeartbeats trace ->
      some (shbdReply received).text = replyText received.2 := by
    intro received hreceived
    exact (if_pos (List.mem_filter.mp hreceived).right).symm
  have hfilter : (fun w : Write Socket => decide (w.socket = socket)) ∘
      shbdReply = fun received => decide (received.1 = socket) := rfl
  rw [← List.filter_filter, h.heartbeats, List.filter_map, hfilter,
    List.map_map, ← ofSession_filter, ofSession_eq, List.filterMap_map,
    ← List.filterMap_eq_map]
  refine List.filterMap_congr fun received hreceived => ?_
  exact htexts received (List.mem_of_mem_filter hreceived)

theorem Replied.chains_on (h : Replied trace s) (socket : Socket) :
    (s.saves.filter (fun task => decide (task.socket = socket))).map
        (fun task => Except.ok task.parsed) =
      ((ofSession socket (receivedFrames trace)).filter isReportFrame).map
        parseFrame := by
  have horigins := congrArg (ofSession socket) h.chains
  rw [ofSession_map, ofSession_eq, List.filter_map, List.map_map] at horigins
  rw [← ofSession_filter]
  exact horigins

end Frames

/-!
## Acknowledgements
-/

section Acknowledgements

variable {s : TrackerTcpServer Socket} {socket : Socket}

omit [DecidableEq Socket] in
theorem exists_chain_of_acknowledges
    (h : forall i : Nat, s.writes.filter (fun w => w.acknowledges == some i) =
      (s.saves[i]?).elim [] (SaveTask.replies i))
    {w : Write Socket} (hw : w ∈ s.writes) {i : Nat}
    (hack : w.acknowledges = some i) :
    exists task, s.saves[i]? = some task ∧ w ∈ task.replies i := by
  have hmem : w ∈ s.writes.filter (fun w => w.acknowledges == some i) :=
    List.mem_filter.mpr ⟨hw, beq_iff_eq.mpr hack⟩
  rw [h i] at hmem
  cases htask : s.saves[i]? with
  | none =>
      rw [htask] at hmem
      cases hmem
  | some task =>
      rw [htask] at hmem
      exact ⟨task, rfl, hmem⟩

omit [DecidableEq Socket] in
theorem eq_of_mem_replies {i : Nat} {task : SaveTask Socket} {w : Write Socket}
    (h : w ∈ task.replies i) :
    w.socket = task.socket ∧ w.text = sackText task.parsed.header ∧
      w.acknowledges = some i := by
  unfold SaveTask.replies at h
  by_cases hfinished : task.phase.isFinished = true
  · rw [if_pos hfinished] at h
    rw [List.mem_singleton.mp h]
    exact ⟨rfl, rfl, rfl⟩
  · rw [if_neg hfinished] at h
    cases h

omit [DecidableEq Socket] in
theorem nodup_acknowledges
    (h : forall i : Nat, s.writes.filter (fun w => w.acknowledges == some i) =
      (s.saves[i]?).elim [] (SaveTask.replies i)) :
    (s.writes.filter (fun w => w.acknowledges.isSome)).map
      Write.acknowledges |>.Nodup := by
  rw [List.nodup_iff_count_le_one]
  intro target
  rw [List.count, List.countP_map]
  cases target with
  | none =>
      refine Nat.le_trans (Nat.le_of_eq (List.countP_eq_zero.mpr ?_)) (Nat.zero_le 1)
      intro w hw hnone
      have hsome := (List.mem_filter.mp hw).right
      rw [show w.acknowledges = none from eq_of_beq hnone] at hsome
      cases hsome
  | some i =>
      refine Nat.le_trans (List.Sublist.countP_le List.filter_sublist) ?_
      have hlength : s.writes.countP (fun w => w.acknowledges == some i) ≤ 1 := by
        rw [List.countP_eq_length_filter, h i]
        cases s.saves[i]? with
        | none => exact Nat.zero_le 1
        | some task =>
            show (task.replies i).length ≤ 1
            unfold SaveTask.replies
            cases task.phase.isFinished with
            | true => exact Nat.le_refl 1
            | false => exact Nat.zero_le 1
      exact hlength

/-- The acknowledgement the chain of a number writes. -/
def ackText (s : TrackerTcpServer Socket) (target : Option Nat) : String :=
  (target.bind (fun i => s.saves[i]?)).elim ""
    (fun task => sackText task.parsed.header)

theorem acknowledgements_perm
    (h : forall i : Nat, s.writes.filter (fun w => w.acknowledges == some i) =
      (s.saves[i]?).elim [] (SaveTask.replies i))
    (hfinished : forall task, task ∈ s.saves -> task.socket = socket ->
      task.phase.isFinished = true) :
    ((s.writes.filter (fun w =>
        decide (w.socket = socket) && w.acknowledges.isSome)).map
      Write.text).Perm
      ((s.saves.filter (fun task => decide (task.socket = socket))).map
        (fun task => sackText task.parsed.header)) := by
  -- Both sides are the texts of the chains of the socket, by their numbers.
  let acks := s.writes.filter (fun w =>
    decide (w.socket = socket) && w.acknowledges.isSome)
  have hnumbers : (acks.map Write.acknowledges).Perm
      (((s.chainsOn socket).map Prod.snd).map some) := by
    refine (List.perm_ext_iff_of_nodup ?_ ?_).mpr ?_
    · have hsub : acks.Sublist
          (s.writes.filter (fun w => w.acknowledges.isSome)) := by
        have hsplit : acks = (s.writes.filter (fun w =>
            w.acknowledges.isSome)).filter (fun w =>
              decide (w.socket = socket)) := List.filter_filter.symm
        rw [hsplit]
        exact List.filter_sublist
      exact (nodup_acknowledges h).sublist (hsub.map Write.acknowledges)
    · have hnodup : (s.saves.zipIdx.map Prod.snd).Nodup := by
        rw [List.zipIdx_map_snd]
        exact List.nodup_range'
      exact (hnodup.sublist (List.filter_sublist.map Prod.snd)).map
        (Option.some_injective _)
    · intro target
      constructor
      · intro htarget
        rcases List.mem_map.mp htarget with ⟨w, hw, rfl⟩
        rcases List.mem_filter.mp hw with ⟨hmem, hkept⟩
        rcases Bool.and_eq_true_iff.mp hkept with ⟨hsocket, hsome⟩
        rcases Option.isSome_iff_exists.mp hsome with ⟨i, hack⟩
        rcases exists_chain_of_acknowledges h hmem hack with
          ⟨task, htask, hreply⟩
        rw [hack]
        refine List.mem_map.mpr ⟨i, List.mem_map.mpr ⟨(task, i), ?_, rfl⟩, rfl⟩
        refine TrackerTcpServer.mem_chainsOn.mpr ⟨htask, ?_⟩
        rw [← (eq_of_mem_replies hreply).left]
        exact of_decide_eq_true hsocket
      · intro htarget
        rcases List.mem_map.mp htarget with ⟨i, hi, rfl⟩
        rcases List.mem_map.mp hi with ⟨⟨task, i⟩, hmem, rfl⟩
        rcases TrackerTcpServer.mem_chainsOn.mp hmem with ⟨htask, hsocket⟩
        have hdone := hfinished task (List.mem_of_getElem? htask) hsocket
        have hreplies := h i
        rw [htask] at hreplies
        change _ = task.replies i at hreplies
        unfold SaveTask.replies at hreplies
        rw [if_pos hdone] at hreplies
        have hw := List.mem_filter.mp (hreplies.symm ▸ List.mem_cons_self)
        refine List.mem_map.mpr ⟨_, List.mem_filter.mpr ⟨hw.left, ?_⟩, rfl⟩
        exact Bool.and_eq_true_iff.mpr ⟨decide_eq_true hsocket, rfl⟩
  have hleft : acks.map Write.text =
      (acks.map Write.acknowledges).map (ackText s) := by
    rw [List.map_map]
    refine List.map_congr_left fun w hw => ?_
    rcases List.mem_filter.mp hw with ⟨hmem, hkept⟩
    rcases Option.isSome_iff_exists.mp
      (Bool.and_eq_true_iff.mp hkept).right with ⟨i, hack⟩
    rcases exists_chain_of_acknowledges h hmem hack with ⟨task, htask, hreply⟩
    show w.text = ackText s w.acknowledges
    rw [hack, (eq_of_mem_replies hreply).right.left]
    unfold ackText
    rw [Option.bind_some, htask]
    rfl
  have hright : (((s.chainsOn socket).map Prod.snd).map some).map (ackText s) =
      (s.saves.filter (fun task => decide (task.socket = socket))).map
        (fun task => sackText task.parsed.header) := by
    rw [List.map_map]
    refine TrackerTcpServer.map_chainsOn fun i task htask => ?_
    show ackText s (some i) = _
    unfold ackText
    rw [Option.bind_some, htask]
    rfl
  show (acks.map Write.text).Perm _
  rw [hleft, ← hright]
  exact hnumbers.map (ackText s)

end Acknowledgements

/-!
## Sockets on their own
-/

section Streams

variable {trace : List (TrackerEvent Socket)} {s : TrackerTcpServer Socket}

/-- The acknowledgements of the chains of a socket are the answers its reports
ask for. -/
theorem Replied.sackTexts_on (h : Replied trace s) (socket : Socket) :
    (s.saves.filter (fun task => decide (task.socket = socket))).map
        (fun task => sackText task.parsed.header) =
      ((ofSession socket (receivedFrames trace)).filter
        isReportFrame).filterMap replyText := by
  let ask (parse : Except String ParsedTrackerFrame) : Option String :=
    parse.toOption.map (fun parsed => sackText parsed.header)
  have hchains := congrArg (List.filterMap ask) (h.chains_on socket)
  rw [List.filterMap_map, List.filterMap_map] at hchains
  have hleft : (s.saves.filter (fun task =>
      decide (task.socket = socket))).filterMap
        (ask ∘ fun task => Except.ok task.parsed) =
      (s.saves.filter (fun task => decide (task.socket = socket))).map
        (fun task => sackText task.parsed.header) :=
    congrFun List.filterMap_eq_map' _
  rw [← hleft, hchains]
  refine List.filterMap_congr fun frame hframe => ?_
  have hreport := (List.mem_filter.mp hframe).right
  have hheartbeat : ¬ isHeartbeatFrame frame = true := by
    intro hc
    rw [not_report_of_heartbeat hc] at hreport
    cases hreport
  rcases exists_parsed_of_kind (Or.inr hreport) with ⟨parsed, hparsed⟩
  show ask (parseFrame frame) = replyText frame
  unfold replyText
  rw [if_neg hheartbeat, if_pos hreport, hparsed,
    ← serialNumberHex_of_parseFrame hparsed]
  rfl

theorem Replied.answersStream (h : Replied trace s) (socket : Socket) :
    AnswersStream (ofSession socket (receivedFrames trace)) socket s := by
  refine ⟨h.heartbeats_on socket, h.chains_on socket, h.acknowledgements, ?_⟩
  intro hfinished
  have hacks := acknowledgements_perm h.acknowledgements hfinished
  rw [h.sackTexts_on socket] at hacks
  let here := s.writes.filter (fun w => decide (w.socket = socket))
  have hsplit := List.filter_append_perm
    (fun w : Write Socket => w.acknowledges.isNone) here
  have hnone : here.filter (fun w => w.acknowledges.isNone) =
      s.writes.filter (fun w =>
        decide (w.socket = socket) && w.acknowledges.isNone) := by
    rw [List.filter_filter]
    exact List.filter_congr fun w _ => Bool.and_comm _ _
  have hsome : here.filter (fun w => !w.acknowledges.isNone) =
      s.writes.filter (fun w =>
        decide (w.socket = socket) && w.acknowledges.isSome) := by
    rw [List.filter_filter]
    refine List.filter_congr fun w _ => ?_
    rw [Bool.and_comm, Option.not_isNone]
  rw [hnone, hsome] at hsplit
  have htexts := hsplit.map Write.text
  rw [List.map_append, h.heartbeats_on socket] at htexts
  exact htexts.symm.trans ((hacks.append_left _).trans (replies_perm _))

theorem answersStream_of_legal {maxBufferBytes : Nat}
    {history : List (TrackerEvent Socket)}
    (h : (trackerTcpServer Socket maxBufferBytes).Legal history)
    (socket : Socket) :
    AnswersStream (framesOfChunks maxBufferBytes (chunksOn socket history))
      socket ((trackerTcpServer Socket maxBufferBytes).stateAfter history) := by
  rcases exists_stream_run h with ⟨trace, hlegal, hstate, hframes⟩
  have hanswers := (replied hlegal).answersStream socket
  rw [hframes, hstate] at hanswers
  exact ⟨hanswers.heartbeats, hanswers.chains, hanswers.acknowledgements,
    hanswers.answered⟩

/-- Whatever the other sockets send and the database does, what a socket is told
comes from the bytes received on it: a heartbeat is answered at once, a report
starts a chain that acknowledges it once, and when these chains have run to their
ends each of its heartbeats and reports has been answered once. -/
theorem sockets_isolated {maxBufferBytes : Nat}
    (run : (trackerTcpServer Socket maxBufferBytes).Run) (socket : Socket) :
    AnswersStream
      (framesOfChunks maxBufferBytes (chunksOn socket run.history)) socket
      ((trackerTcpServer Socket maxBufferBytes).stateAfter run.history) :=
  answersStream_of_legal run.legal socket

end Streams

end Tracker
end AvtTracker
