import AvtTracker.Publishing.FanOut
import AvtTracker.Starlink.Settlement
import AvtTracker.Tracker.Settlement

/-!
# Saved reports and what is delivered of them

Every report either server has saved and announced has been dispatched once.
Once the chains and the records have run to their ends, the outbox holds each
saved report once, and the topic has got each once, whatever else goes on; and
what a request for unread events is answered with has been dispatched.
-/

namespace AvtTracker
namespace Publishing

open Foundation Tcp Tracker Starlink

variable {Socket Id : Type}

/-!
## Reports in the calls of {lit}`dispatch`
-/

def DomainEventData.trackerReport? : DomainEventData -> Option TrackerReport
  | trackerReport saved => some saved
  | _ => none

def DomainEventData.starlinkReport? : DomainEventData -> Option StarlinkReport
  | starlinkReport saved => some saved
  | _ => none

def trackerChain? : Tracker.Emitted -> Option Nat
  | Tracker.Emitted.reportReceived i => some i
  | _ => none

/-- The report a call passes on, and the chain that saved it. -/
def Dispatch.trackerSaved? (call : Dispatch Id) :
    Option (Nat × TrackerReport) :=
  (call.emission.tracker?.bind trackerChain?).bind (fun i =>
    call.event.data.trackerReport?.map (fun saved => (i, saved)))

def Dispatch.starlinkSaved? (call : Dispatch Id) :
    Option (Nat × StarlinkReport) :=
  (call.emission.starlink?.bind Starlink.Emitted.chain?).bind (fun i =>
    call.event.data.starlinkReport?.map (fun saved => (i, saved)))

/-- The saved rows whose chains have announced them. -/
def announcedReports (s : TrackerTcpServer Socket) :
    List (Nat × TrackerReport) :=
  s.reports.filter (fun row =>
    (s.saves[row.1]?).any (fun task => task.phase.announced))

def announcedStarlinkReports (s : StarlinkTcpServer Socket) :
    List (Nat × StarlinkReport) :=
  s.reports.filter (fun row =>
    (s.saves[row.1]?).any (fun task => task.phase.announced))

/-- What the calls pass on of the reports. -/
structure CarriesReports (history : List (AppEvent Socket Id))
    (app : Application Socket Id) (call : Dispatch Id) : Prop where
  tracker : call.trackerSaved?.map Prod.fst =
    call.emission.tracker?.bind trackerChain?
  trackerData : call.trackerSaved?.map Prod.snd =
    call.event.data.trackerReport?
  trackerRow : forall row, call.trackerSaved? = some row ->
    row ∈ app.tracker.reports
  starlink : call.starlinkSaved?.map Prod.fst =
    call.emission.starlink?.bind Starlink.Emitted.chain?
  starlinkData : call.starlinkSaved?.map Prod.snd =
    call.event.data.starlinkReport?
  starlinkRow : forall row, call.starlinkSaved? = some row ->
    row ∈ app.starlink.reports

theorem Describes.carriesReports {history : List (AppEvent Socket Id)}
    {app : Application Socket Id} {call : Dispatch Id}
    (h : Describes history app call.emission call.event) :
    CarriesReports history app call := by
  rcases call with ⟨emission, event, occurredAt, record⟩
  have hnone : forall {α : Type} {P : α -> Prop} (row : α),
      none = some row -> P row := fun row hrow => nomatch hrow
  cases h with
  | trackerReport i saved row =>
      refine ⟨rfl, rfl, ?_, rfl, rfl, hnone⟩
      intro found hfound
      rw [← Option.some.inj hfound]
      exact row
  | starlinkReport i saved row =>
      refine ⟨rfl, rfl, hnone, rfl, rfl, ?_⟩
      intro found hfound
      rw [← Option.some.inj hfound]
      exact row
  | _ => exact ⟨rfl, rfl, hnone, rfl, rfl, hnone⟩

/-!
## Every announced report has been dispatched once
-/

theorem perm_filter_of_count {α : Type} {rows picked : List (Nat × α)}
    {p : Nat -> Bool} (hrows : (rows.map Prod.fst).Nodup)
    (hsub : forall row, row ∈ picked -> row ∈ rows)
    (hcount : forall i,
      (picked.map Prod.fst).count i = if p i then 1 else 0) :
    picked.Perm (rows.filter (fun row => p row.1)) := by
  have hkeys : forall i, i ∈ picked.map Prod.fst <-> p i = true := by
    intro i
    rw [← List.count_pos_iff, hcount]
    by_cases hp : p i = true <;> simp [hp]
  have hpicked : (picked.map Prod.fst).Nodup := by
    refine List.nodup_iff_count_le_one.mpr fun i => ?_
    rw [hcount]
    by_cases hp : p i = true <;> simp [hp]
  refine (List.perm_ext_iff_of_nodup (hpicked.of_map _)
    ((hrows.of_map _).filter _)).mpr fun row => ?_
  rw [List.mem_filter]
  constructor
  · intro hrow
    exact ⟨hsub row hrow,
      (hkeys row.1).mp (List.mem_map.mpr ⟨row, hrow, rfl⟩)⟩
  · rintro ⟨hrow, hkey⟩
    rcases List.mem_map.mp ((hkeys row.1).mpr hkey) with ⟨other, hother, hsame⟩
    rw [← List.inj_on_of_nodup_map hrows (hsub other hother) hrow hsame]
    exact hother

section Dispatched

variable {config : AppConfig} {history : List (AppEvent Socket Id)}
variable {app : Application Socket Id}

theorem FannedOut.carriesReports (h : FannedOut config history app)
    {call : Dispatch Id} (hcall : call ∈ app.dispatched) :
    CarriesReports history app call :=
  (h.described call hcall).carriesReports

theorem FannedOut.trackerChains (h : FannedOut config history app) :
    (app.dispatched.filterMap Dispatch.trackerSaved?).map Prod.fst =
      app.tracker.emitted.filterMap trackerChain? := by
  rw [List.map_filterMap, ← h.tracker, List.filterMap_filterMap]
  exact List.filterMap_congr fun call hcall => (h.carriesReports hcall).tracker

theorem FannedOut.starlinkChains (h : FannedOut config history app) :
    (app.dispatched.filterMap Dispatch.starlinkSaved?).map Prod.fst =
      app.starlink.emitted.filterMap Starlink.Emitted.chain? := by
  rw [List.map_filterMap, ← h.starlink, List.filterMap_filterMap]
  exact List.filterMap_congr fun call hcall =>
    (h.carriesReports hcall).starlink

theorem FannedOut.trackerRows (h : FannedOut config history app)
    (row : Nat × TrackerReport)
    (hrow : row ∈ app.dispatched.filterMap Dispatch.trackerSaved?) :
    row ∈ app.tracker.reports := by
  rcases List.mem_filterMap.mp hrow with ⟨call, hcall, hsaved⟩
  exact (h.carriesReports hcall).trackerRow row hsaved

theorem FannedOut.starlinkRows (h : FannedOut config history app)
    (row : Nat × StarlinkReport)
    (hrow : row ∈ app.dispatched.filterMap Dispatch.starlinkSaved?) :
    row ∈ app.starlink.reports := by
  rcases List.mem_filterMap.mp hrow with ⟨call, hcall, hsaved⟩
  exact (h.carriesReports hcall).starlinkRow row hsaved

theorem FannedOut.trackerData (h : FannedOut config history app) :
    app.dispatched.filterMap (fun call => call.event.data.trackerReport?) =
      (app.dispatched.filterMap Dispatch.trackerSaved?).map Prod.snd := by
  rw [List.map_filterMap]
  exact List.filterMap_congr fun call hcall =>
    (h.carriesReports hcall).trackerData.symm

theorem FannedOut.starlinkData (h : FannedOut config history app) :
    app.dispatched.filterMap (fun call => call.event.data.starlinkReport?) =
      (app.dispatched.filterMap Dispatch.starlinkSaved?).map Prod.snd := by
  rw [List.map_filterMap]
  exact List.filterMap_congr fun call hcall =>
    (h.carriesReports hcall).starlinkData.symm

/-- Every promise of {lit}`record` has been kept. -/
def Application.AllRecorded (app : Application Socket Id) : Prop :=
  forall call, call ∈ app.dispatched -> exists id,
    call.record = RecordPhase.recorded id

theorem FannedOut.recorded_data {β : Type} (h : FannedOut config history app)
    (hall : app.AllRecorded) (view : DomainEventData -> Option β) :
    (app.outbox.table.filterMap (fun row => view row.data)).Perm
      (app.dispatched.filterMap (fun call => view call.event.data)) := by
  have hperm := h.recorded.filterMap (fun event => view event.data)
  rw [List.filterMap_map, List.filterMap_filterMap] at hperm
  refine hperm.trans (List.Perm.of_eq (List.filterMap_congr fun call hcall => ?_))
  rcases hall call hcall with ⟨id, hid⟩
  unfold Dispatch.recorded?
  rw [hid]
  rfl

theorem filterMap_publish {β : Type} {topicArn : Option String} {arn : String}
    (harn : topicArn = some arn) (hname : arn ≠ "") (event : DomainEvent)
    (occurredAt : Int) (view : TrackerEventEnvelope -> Option β) :
    (publish topicArn event occurredAt).filterMap
        (fun command => view command.message) =
      (view
        { eventType := event.eventType
          occurredAt := occurredAt
          imei := event.imei
          data := event.data }).toList := by
  unfold publish
  rw [harn]
  simp only [if_neg hname]
  cases hview : view
      { eventType := event.eventType
        occurredAt := occurredAt
        imei := event.imei
        data := event.data } with
  | none => exact List.filterMap_cons_none hview
  | some b => exact List.filterMap_cons_some hview

theorem FannedOut.published_messages {β : Type}
    (h : FannedOut config history app) {arn : String}
    (harn : config.snsTopicArn = some arn) (hname : arn ≠ "")
    (view : TrackerEventEnvelope -> Option β) :
    app.published.filterMap (fun command => view command.message) =
      app.dispatched.filterMap (fun call => view
        { eventType := call.event.eventType
          occurredAt := call.occurredAt
          imei := call.event.imei
          data := call.event.data }) := by
  rw [h.published, List.filterMap_flatMap, List.filterMap_eq_flatMap_toList]
  exact congrArg (fun f => List.flatMap f app.dispatched)
    (funext fun call => filterMap_publish harn hname call.event
      call.occurredAt view)

theorem FannedOut.published_data {β : Type} (h : FannedOut config history app)
    {arn : String} (harn : config.snsTopicArn = some arn) (hname : arn ≠ "")
    (view : DomainEventData -> Option β) :
    app.published.filterMap (fun command => view command.message.data) =
      app.dispatched.filterMap (fun call => view call.event.data) :=
  h.published_messages harn hname (fun message => view message.data)

end Dispatched

section Runs

variable [DecidableEq Socket] [DecidableEq Id] {config : AppConfig}
variable {history : List (AppEvent Socket Id)}

/-- A chain of the tracker's server has announced its report at most once, and
exactly if its row went through {lit}`then`. -/
theorem count_trackerChain (h : (application Socket Id config).Legal history)
    (i : Nat) :
    let s := ((application Socket Id config).stateAfter history).tracker
    (s.emitted.filterMap trackerChain?).count i =
      if (s.saves[i]?).any (fun task => task.phase.announced) then 1
      else 0 := by
  intro s
  rcases tracker_component h with ⟨hlegal, hstate⟩
  rcases exists_frame_run hlegal with ⟨frames, hframes, hunsplit, _⟩
  have hreplied := (replied hframes).announcements i
  rw [hunsplit, hstate] at hreplied
  have hcount : (s.emitted.filterMap trackerChain?).count i =
      s.emitted.count (Tracker.Emitted.reportReceived i) := by
    rw [List.count_filterMap, List.count_eq_countP]
    refine List.countP_congr fun x _ => ?_
    cases x with
    | deviceConnected imei => simp [trackerChain?]
    | deviceDisconnected imei => simp [trackerChain?]
    | reportReceived k => simp [trackerChain?]
  refine (hcount.trans hreplied).trans ?_
  show (s.saves[i]?).elim 0 SaveTask.announcements = _
  cases s.saves[i]? with
  | none => rfl
  | some task => rfl

theorem trackerReports_dispatched
    (h : (application Socket Id config).Legal history) :
    let app := (application Socket Id config).stateAfter history
    (app.dispatched.filterMap Dispatch.trackerSaved?).Perm
      (announcedReports app.tracker) := by
  intro app
  have hfanned := fannedOut h
  refine perm_filter_of_count (p := fun i => (app.tracker.saves[i]?).any
    (fun task => task.phase.announced)) (trackerRowsSaved h).rows_once
    hfanned.trackerRows fun i => ?_
  rw [hfanned.trackerChains]
  exact count_trackerChain h i

theorem starlinkReports_dispatched
    (h : (application Socket Id config).Legal history) :
    let app := (application Socket Id config).stateAfter history
    (app.dispatched.filterMap Dispatch.starlinkSaved?).Perm
      (announcedStarlinkReports app.starlink) := by
  intro app
  have hfanned := fannedOut h
  rcases starlink_component h with ⟨hlegal, hstate⟩
  have hexact := reportsExact hlegal
  rw [hstate] at hexact
  refine perm_filter_of_count (p := fun i => (app.starlink.saves[i]?).any
    (fun task => task.phase.announced)) hexact.rows_once
    hfanned.starlinkRows fun i => ?_
  rw [hfanned.starlinkChains]
  exact hexact.count_chain i

/-!
## When all chains have run to their ends
-/

theorem announced_of_finished {phase : Tracker.SavePhase}
    (hsaved : phase.jobPhase = SaveJobPhase.saved)
    (hfinished : phase.isFinished = true) : phase.announced = true := by
  cases phase with
  | finished outcome =>
      cases outcome with
      | row => rfl
      | null => cases hsaved
      | rejected => cases hsaved
  | _ => cases hfinished

theorem starlinkAnnounced_of_finished {phase : Starlink.SavePhase}
    (hsaved : phase.jobPhase = SaveJobPhase.saved)
    (hfinished : phase.isFinished = true) : phase.announced = true := by
  cases phase with
  | finished outcome =>
      cases outcome with
      | row => rfl
      | null => cases hsaved
      | rejected => cases hsaved
  | _ => cases hfinished

omit [DecidableEq Socket] in
theorem announcedReports_finished {s : TrackerTcpServer Socket}
    (h : SaveStore.RowsSaved trackerStore s.store)
    (hfinished : s.ChainsFinished) :
    announcedReports s = s.reports := by
  refine List.filter_eq_self.mpr fun row hrow => ?_
  rcases (h.rows row.1 row.2).mp hrow with ⟨patch, hjob⟩
  rcases Option.map_eq_some_iff.mp (List.getElem?_map.symm.trans hjob) with
    ⟨task, hfound, hsame⟩
  rw [hfound]
  exact announced_of_finished (congrArg SaveJob.phase hsame)
    (hfinished task (List.mem_of_getElem? hfound))

omit [DecidableEq Socket] in
theorem announcedStarlinkReports_finished {s : StarlinkTcpServer Socket}
    (h : SaveStore.RowsSaved starlinkStore s.store)
    (hfinished : s.ChainsFinished) :
    announcedStarlinkReports s = s.reports := by
  refine List.filter_eq_self.mpr fun row hrow => ?_
  rcases (h.rows row.1 row.2).mp hrow with ⟨patch, hjob⟩
  rcases Option.map_eq_some_iff.mp (List.getElem?_map.symm.trans hjob) with
    ⟨task, hfound, hsame⟩
  rw [hfound]
  exact starlinkAnnounced_of_finished (congrArg SaveJob.phase hsame)
    (hfinished task (List.mem_of_getElem? hfound))

/-- When its chains have finished, each row a server has saved has been dispatched
once. -/
theorem trackerRows_dispatched
    (h : (application Socket Id config).Legal history)
    (hfinished : ((application Socket Id config).stateAfter
      history).tracker.ChainsFinished) :
    (((application Socket Id config).stateAfter history).dispatched.filterMap
      (fun call => call.event.data.trackerReport?)).Perm
        (((application Socket Id config).stateAfter
          history).tracker.reports.map Prod.snd) := by
  rw [(fannedOut h).trackerData,
    ← announcedReports_finished (trackerRowsSaved h) hfinished]
  exact (trackerReports_dispatched h).map Prod.snd

theorem starlinkRows_dispatched
    (h : (application Socket Id config).Legal history)
    (hfinished : ((application Socket Id config).stateAfter
      history).starlink.ChainsFinished) :
    (((application Socket Id config).stateAfter history).dispatched.filterMap
      (fun call => call.event.data.starlinkReport?)).Perm
        (((application Socket Id config).stateAfter
          history).starlink.reports.map Prod.snd) := by
  rw [(fannedOut h).starlinkData,
    ← announcedStarlinkReports_finished (starlinkRowsSaved h) hfinished]
  exact (starlinkReports_dispatched h).map Prod.snd

/-- What has become of the reports both servers have saved. -/
structure ReportsDelivered (config : AppConfig)
    (app : Application Socket Id) : Prop where
  dispatched : (app.dispatched.filterMap Dispatch.trackerSaved?).Perm
    (announcedReports app.tracker)
  dispatchedStarlink : (app.dispatched.filterMap Dispatch.starlinkSaved?).Perm
    (announcedStarlinkReports app.starlink)
  recorded : app.tracker.ChainsFinished -> app.AllRecorded ->
    (app.outbox.table.filterMap (fun row => row.data.trackerReport?)).Perm
      (app.tracker.reports.map Prod.snd)
  recordedStarlink : app.starlink.ChainsFinished -> app.AllRecorded ->
    (app.outbox.table.filterMap (fun row => row.data.starlinkReport?)).Perm
      (app.starlink.reports.map Prod.snd)
  published : forall arn, config.snsTopicArn = some arn -> arn ≠ "" ->
    app.tracker.ChainsFinished -> (app.published.filterMap (fun command =>
      command.message.data.trackerReport?)).Perm
        (app.tracker.reports.map Prod.snd)
  publishedStarlink : forall arn, config.snsTopicArn = some arn -> arn ≠ "" ->
    app.starlink.ChainsFinished -> (app.published.filterMap (fun command =>
      command.message.data.starlinkReport?)).Perm
        (app.starlink.reports.map Prod.snd)

/-- At every moment each saved report that was announced has been dispatched
once, under the chain that saved it; and when the chains of a server have run to
their ends and the records have been kept, the outbox holds each report the
server has saved once and nothing else of it, as the topic does without waiting
for the records. -/
theorem savedReports_delivered (run : (application Socket Id config).Run) :
    ReportsDelivered config
      ((application Socket Id config).stateAfter run.history) := by
  have hfanned := fannedOut run.legal
  refine ⟨trackerReports_dispatched run.legal,
    starlinkReports_dispatched run.legal, ?_, ?_, ?_, ?_⟩
  · intro hfinished hall
    exact (hfanned.recorded_data hall _).trans
      (trackerRows_dispatched run.legal hfinished)
  · intro hfinished hall
    exact (hfanned.recorded_data hall _).trans
      (starlinkRows_dispatched run.legal hfinished)
  · intro arn harn hname hfinished
    rw [hfanned.published_data harn hname]
    exact trackerRows_dispatched run.legal hfinished
  · intro arn harn hname hfinished
    rw [hfanned.published_data harn hname]
    exact starlinkRows_dispatched run.legal hfinished

/-!
## What requests are answered with
-/

/-- Requests are answered with what has been dispatched and recorded, and
nothing that has been recorded is lost: a record is in the outbox, unread or
handed out. -/
structure PollsGrounded (history : List (AppEvent Socket Id))
    (app : Application Socket Id) : Prop where
  once : ((app.dispatched.filterMap Dispatch.recorded?).map
    UnreadEvent.id).Nodup
  answered : forall i response,
    app.outbox.phaseOf i = some (PollPhase.responded response) ->
      forall event, event ∈ response.events -> exists call,
        call ∈ app.dispatched ∧ call.recorded? = some event ∧
          Describes history app call.emission call.event
  kept : forall call event, call ∈ app.dispatched ->
    call.recorded? = some event -> exists row,
      row ∈ app.outbox.table ∧ row.event = event ∧
        (row.delivered = true -> exists i response,
          app.outbox.phaseOf i = some (PollPhase.responded response) ∧
            event ∈ response.events)

/-- However requests, records and the events of the servers interleave, a
request for unread events is answered with what happened, and every record is
still unread or in the answer of a request. -/
theorem polls_grounded (run : (application Socket Id config).Run) :
    PollsGrounded run.history
      ((application Socket Id config).stateAfter run.history) := by
  have hfanned := fannedOut run.legal
  rcases exists_outbox_run run.legal with ⟨trace, hlegal, hstate⟩
  have hacc := accounted hlegal
  rw [show outboxAfter trace = _ from hstate] at hacc
  refine ⟨?_, ?_, ?_⟩
  · have hids := (hfanned.recorded.map UnreadEvent.id).nodup_iff.mp
    rw [List.map_map] at hids
    exact hids hacc.ids_nodup
  · intro i response hphase event hevent
    rcases hacc.responded i response hphase event hevent with
      ⟨row, hrow, rfl, _⟩
    have hmem := hfanned.recorded.mem_iff.mp
      (List.mem_map_of_mem (f := OutboxRow.event) hrow)
    rcases List.mem_filterMap.mp hmem with ⟨call, hcall, hrecorded⟩
    exact ⟨call, hcall, hrecorded, hfanned.described call hcall⟩
  · intro call event hcall hrecorded
    have hmem := hfanned.recorded.mem_iff.mpr
      (List.mem_filterMap.mpr ⟨call, hcall, hrecorded⟩)
    rcases List.mem_map.mp hmem with ⟨row, hrow, hsame⟩
    refine ⟨row, hrow, hsame, fun hdelivered => ?_⟩
    rcases hacc.delivered row hrow hdelivered with
      ⟨i, rows, _, _, _, hphase, hin⟩
    rw [hsame] at hin
    exact ⟨i, unreadEvents rows, hphase, hin⟩

end Runs

end Publishing
end AvtTracker
