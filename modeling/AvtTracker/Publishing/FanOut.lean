import AvtTracker.Foundation.Settling
import AvtTracker.Publishing.Emissions
import AvtTracker.Starlink.Announcements
import AvtTracker.Tracker.Polling
import AvtTracker.Tracker.ReportTables

/-!
# Fanning events out

However the events of the two servers, the settling of their records and the
polls interleave: every emission is dispatched once, in its order, with what it
says; it is in the outbox at most once, as it was dispatched; and every dispatch
is sent to the topic once, if there is one.
-/

namespace AvtTracker
namespace Publishing

open Foundation Tcp Tracker Starlink

variable {Socket Id : Type}

/-!
## The parts of a run
-/

def AppEvent.tracker? : AppEvent Socket Id -> Option (TrackerEvent Socket)
  | tracker e _ => some e
  | _ => none

def AppEvent.starlink? :
    AppEvent Socket Id -> Option (StarlinkEvent Socket Bytes)
  | starlink e _ => some e
  | _ => none

/-- What the tracker's server has gone through in a run of the application. -/
def trackerHistory (history : List (AppEvent Socket Id)) :
    List (TrackerEvent Socket) :=
  history.filterMap AppEvent.tracker?

def starlinkHistory (history : List (AppEvent Socket Id)) :
    List (StarlinkEvent Socket Bytes) :=
  history.filterMap AppEvent.starlink?

def Emission.tracker? : Emission -> Option Tracker.Emitted
  | tracker emitted => some emitted
  | starlink _ => none

def Emission.starlink? : Emission -> Option Starlink.Emitted
  | tracker _ => none
  | starlink emitted => some emitted

def Dispatch.recorded? (call : Dispatch Id) :
    Option (UnreadEvent Id DomainEventData) :=
  match call.record with
  | RecordPhase.recorded id => some (call.recordedAs id)
  | _ => none

section Components

variable [DecidableEq Socket] [DecidableEq Id] {config : AppConfig}
variable {history : List (AppEvent Socket Id)}

omit [DecidableEq Socket] in
theorem settleRecord_servers (app : Application Socket Id) (k : Nat)
    (saved : Option Id) :
    (app.settleRecord k saved).tracker = app.tracker ∧
      (app.settleRecord k saved).starlink = app.starlink := by
  unfold Application.settleRecord
  cases app.dispatched[k]? with
  | none => exact ⟨rfl, rfl⟩
  | some call => cases saved <;> exact ⟨rfl, rfl⟩

theorem tracker_component
    (h : (application Socket Id config).Legal history) :
    (trackerTcpServer Socket config.trackerMaxBufferBytes).Legal
        (trackerHistory history) ∧
      (trackerTcpServer Socket config.trackerMaxBufferBytes).stateAfter
          (trackerHistory history) =
        ((application Socket Id config).stateAfter history).tracker := by
  refine EventSystem.legal_component Application.tracker AppEvent.tracker? rfl
    ?_ ?_ h
  · intro app e _ hnone
    cases e with
    | tracker e now => cases hnone
    | starlink e now => rfl
    | recordSettled k saved => exact (settleRecord_servers app k saved).left
    | polling e => rfl
  · intro app e e' henabled hsome
    cases e with
    | tracker e now =>
        cases hsome
        exact ⟨henabled.right, rfl⟩
    | starlink e now => cases hsome
    | recordSettled k saved => cases hsome
    | polling e => cases hsome

theorem starlink_component
    (h : (application Socket Id config).Legal history) :
    (starlinkTcpServer Socket config.starlinkMaxBufferBytes
        config.reportFormatTags).Legal (starlinkHistory history) ∧
      (starlinkTcpServer Socket config.starlinkMaxBufferBytes
          config.reportFormatTags).stateAfter (starlinkHistory history) =
        ((application Socket Id config).stateAfter history).starlink := by
  refine EventSystem.legal_component Application.starlink AppEvent.starlink?
    rfl ?_ ?_ h
  · intro app e _ hnone
    cases e with
    | tracker e now => rfl
    | starlink e now => cases hnone
    | recordSettled k saved => exact (settleRecord_servers app k saved).right
    | polling e => rfl
  · intro app e e' henabled hsome
    cases e with
    | tracker e now => cases hsome
    | starlink e now =>
        cases hsome
        exact ⟨henabled.right, rfl⟩
    | recordSettled k saved => cases hsome
    | polling e => cases hsome

/-- The outbox behind the publisher is one that events are recorded in and
requests poll. -/
theorem exists_outbox_run (h : (application Socket Id config).Legal history) :
    exists trace, (eventOutbox Id DomainEventData).Legal trace ∧
      (eventOutbox Id DomainEventData).stateAfter trace =
        ((application Socket Id config).stateAfter history).outbox := by
  refine EventSystem.exists_projected_run Application.outbox rfl ?_ h
  intro app e henabled
  cases e with
  | tracker e now => exact ⟨[], trivial, rfl⟩
  | starlink e now => exact ⟨[], trivial, rfl⟩
  | recordSettled k saved =>
      rcases henabled.right with ⟨call, hcall, _, hfresh⟩
      show exists events, _ ∧ _ = (app.settleRecord k saved).outbox
      unfold Application.settleRecord
      rw [hcall]
      cases saved with
      | none => exact ⟨[], trivial, rfl⟩
      | some id =>
          exact ⟨[OutboxEvent.recorded id call.event.eventType call.event.imei
            call.event.data call.occurredAt], ⟨hfresh id rfl, trivial⟩, rfl⟩
  | polling e => exact ⟨[e], ⟨henabled.right.right, trivial⟩, rfl⟩

end Components

/-!
## What an event says
-/

/-- The event a dispatch passes on is what its emission is about: a device and
the peer its socket connected from, or a report as it was saved. -/
inductive Describes (history : List (AppEvent Socket Id))
    (app : Application Socket Id) : Emission -> DomainEvent -> Prop where
  | trackerConnected (imei : String) (socket : Socket)
      (remoteAddress : Option String) (remotePort : Option Nat)
      (connectedAt : Int)
      (came : TrackerEvent.connect socket remoteAddress remotePort ∈
        trackerHistory history) :
      Describes history app
        (Emission.tracker (Tracker.Emitted.deviceConnected imei))
        (handleDeviceConnected imei remoteAddress remotePort connectedAt)
  | trackerDisconnected (imei : String) (socket : Socket)
      (remoteAddress : Option String) (remotePort : Option Nat)
      (disconnectedAt : Int)
      (came : TrackerEvent.connect socket remoteAddress remotePort ∈
        trackerHistory history) :
      Describes history app
        (Emission.tracker (Tracker.Emitted.deviceDisconnected imei))
        (handleDeviceDisconnected imei remoteAddress remotePort disconnectedAt)
  | trackerReport (i : Nat) (saved : TrackerReport)
      (row : (i, saved) ∈ app.tracker.reports) :
      Describes history app
        (Emission.tracker (Tracker.Emitted.reportReceived i))
        (handleReportReceived saved.imei saved)
  | starlinkConnected (deviceId : String) (socket : Socket)
      (remoteAddress : Option String) (remotePort : Option Nat)
      (connectedAt : Int)
      (came : StarlinkEvent.connect socket remoteAddress remotePort ∈
        starlinkHistory history) :
      Describes history app
        (Emission.starlink (Starlink.Emitted.deviceConnected deviceId
          remoteAddress remotePort connectedAt))
        (handleStarlinkDeviceConnected deviceId remoteAddress remotePort
          connectedAt)
  | starlinkDisconnected (deviceId : String) (socket : Socket)
      (remoteAddress : Option String) (remotePort : Option Nat)
      (disconnectedAt : Int)
      (came : StarlinkEvent.connect socket remoteAddress remotePort ∈
        starlinkHistory history) :
      Describes history app
        (Emission.starlink (Starlink.Emitted.deviceDisconnected deviceId
          remoteAddress remotePort disconnectedAt))
        (handleStarlinkDeviceDisconnected deviceId remoteAddress remotePort
          disconnectedAt)
  | starlinkReport (i : Nat) (saved : StarlinkReport)
      (row : (i, saved) ∈ app.starlink.reports) :
      Describes history app
        (Emission.starlink
          (Starlink.Emitted.reportReceived saved.deviceId i saved))
        (handleStarlinkReportReceived saved.deviceId saved)

/-- What has become of the emissions of both servers. -/
structure FannedOut (config : AppConfig) (history : List (AppEvent Socket Id))
    (app : Application Socket Id) : Prop where
  tracker : app.dispatched.filterMap (fun call => call.emission.tracker?) =
    app.tracker.emitted
  starlink : app.dispatched.filterMap (fun call => call.emission.starlink?) =
    app.starlink.emitted
  described : forall call, call ∈ app.dispatched ->
    Describes history app call.emission call.event
  published : app.published = app.dispatched.flatMap (fun call =>
    publish config.snsTopicArn call.event call.occurredAt)
  recorded : (app.outbox.table.map OutboxRow.event).Perm
    (app.dispatched.filterMap Dispatch.recorded?)

/-!
## Steps
-/

section Steps

variable {config : AppConfig} {history : List (AppEvent Socket Id)}
variable {app app' : Application Socket Id} {e : AppEvent Socket Id}

theorem Describes.later {history' : List (AppEvent Socket Id)}
    {emission : Emission} {event : DomainEvent}
    (h : Describes history app emission event) (hhistory : history <+: history')
    (htracker : app.tracker.reports <+: app'.tracker.reports)
    (hstarlink : app.starlink.reports <+: app'.starlink.reports) :
    Describes history' app' emission event := by
  have hcame : trackerHistory history ⊆ trackerHistory history' :=
    (hhistory.filterMap AppEvent.tracker?).subset
  have hcame' : starlinkHistory history ⊆ starlinkHistory history' :=
    (hhistory.filterMap AppEvent.starlink?).subset
  cases h with
  | trackerConnected imei socket address port connectedAt came =>
      exact Describes.trackerConnected imei socket _ _ _ (hcame came)
  | trackerDisconnected imei socket address port disconnectedAt came =>
      exact Describes.trackerDisconnected imei socket _ _ _ (hcame came)
  | trackerReport i saved row =>
      exact Describes.trackerReport i saved (htracker.subset row)
  | starlinkConnected deviceId socket address port connectedAt came =>
      exact Describes.starlinkConnected deviceId socket _ _ _ (hcame' came)
  | starlinkDisconnected deviceId socket address port disconnectedAt came =>
      exact Describes.starlinkDisconnected deviceId socket _ _ _ (hcame' came)
  | starlinkReport i saved row =>
      exact Describes.starlinkReport i saved (hstarlink.subset row)

theorem recorded_dispatchAll (events : List (Emission × DomainEvent))
    (now : Int) :
    (events.map (fun event =>
      ({ emission := event.1, event := event.2, occurredAt := now } :
        Dispatch Id))).filterMap Dispatch.recorded? = [] := by
  rw [List.filterMap_map]
  exact List.filterMap_eq_nil_iff.mpr fun event _ => rfl

theorem FannedOut.dispatch (h : FannedOut config history app)
    (next : Application Socket Id) {events : List (Emission × DomainEvent)}
    {now : Int}
    (hreports : app.tracker.reports <+: next.tracker.reports)
    (hreports' : app.starlink.reports <+: next.starlink.reports)
    (hdispatched : next.dispatched = app.dispatched)
    (hpublished : next.published = app.published)
    (houtbox : next.outbox = app.outbox)
    (htracker : next.tracker.emitted = app.tracker.emitted ++
      events.filterMap (fun event => event.1.tracker?))
    (hstarlink : next.starlink.emitted = app.starlink.emitted ++
      events.filterMap (fun event => event.1.starlink?))
    (hdescribed : forall event, event ∈ events ->
      Describes (history ++ [e]) next event.1 event.2) :
    FannedOut config (history ++ [e])
      (next.dispatchAll config.snsTopicArn events now) := by
  have hdone : (next.dispatchAll config.snsTopicArn events now).dispatched =
      app.dispatched ++ events.map (fun event =>
        { emission := event.1, event := event.2, occurredAt := now }) := by
    rw [← hdispatched]
    rfl
  constructor
  · rw [hdone, List.filterMap_append, List.filterMap_map, h.tracker]
    exact htracker.symm
  · rw [hdone, List.filterMap_append, List.filterMap_map, h.starlink]
    exact hstarlink.symm
  · intro call hcall
    rw [hdone] at hcall
    rcases List.mem_append.mp hcall with hold | hnew
    · exact (h.described call hold).later (List.prefix_append _ _) hreports
        hreports'
    · rcases List.mem_map.mp hnew with ⟨event, hevent, rfl⟩
      exact (hdescribed event hevent).later List.prefix_rfl List.prefix_rfl
        List.prefix_rfl
  · rw [hdone, List.flatMap_append, ← h.published, List.flatMap_map,
      ← hpublished]
    rfl
  · rw [hdone, List.filterMap_append, recorded_dispatchAll, List.append_nil]
    show (next.outbox.table.map OutboxRow.event).Perm _
    rw [houtbox]
    exact h.recorded

theorem map_setRecord {β : Type} (k : Nat) (phase : RecordPhase Id)
    {view : Dispatch Id -> β}
    (hview : forall call : Dispatch Id,
      view { call with record := phase } = view call) :
    (app.setRecord k phase).dispatched.map view = app.dispatched.map view :=
  map_modify_same fun call _ => hview call

theorem FannedOut.setRecord (h : FannedOut config history app) {k : Nat}
    {phase : RecordPhase Id} (htracker : app'.tracker = app.tracker)
    (hstarlink : app'.starlink = app.starlink)
    (hpublished : app'.published = app.published)
    (hdispatched : app'.dispatched = (app.setRecord k phase).dispatched)
    (hrecorded : (app'.outbox.table.map OutboxRow.event).Perm
      (app'.dispatched.filterMap Dispatch.recorded?)) :
    FannedOut config (history ++ [e]) app' := by
  let callOf : Dispatch Id -> Emission × DomainEvent × Int :=
    fun call => (call.emission, call.event, call.occurredAt)
  have hcalls : app'.dispatched.map callOf = app.dispatched.map callOf := by
    rw [hdispatched]
    exact map_setRecord k phase fun _ => rfl
  have hviews : forall {β : Type} (view : Emission × DomainEvent × Int -> β),
      app'.dispatched.map (fun call => view (callOf call)) =
        app.dispatched.map (fun call => view (callOf call)) := by
    intro β view
    have hmapped := congrArg (List.map view) hcalls
    rw [List.map_map, List.map_map] at hmapped
    exact hmapped
  refine ⟨?_, ?_, ?_, ?_, hrecorded⟩
  · have hemissions := congrArg (List.filterMap Emission.tracker?)
      (hviews Prod.fst)
    rw [List.filterMap_map, List.filterMap_map] at hemissions
    rw [htracker, ← h.tracker]
    exact hemissions
  · have hemissions := congrArg (List.filterMap Emission.starlink?)
      (hviews Prod.fst)
    rw [List.filterMap_map, List.filterMap_map] at hemissions
    rw [hstarlink, ← h.starlink]
    exact hemissions
  · intro call hcall
    have hmem : callOf call ∈ app'.dispatched.map callOf :=
      List.mem_map_of_mem hcall
    rw [hcalls] at hmem
    rcases List.mem_map.mp hmem with ⟨before, hbefore, hsame⟩
    have hemission : before.emission = call.emission := congrArg Prod.fst hsame
    have hevent : before.event = call.event :=
      congrArg (fun shown => shown.2.1) hsame
    rw [← hemission, ← hevent]
    refine (h.described before hbefore).later (List.prefix_append _ _) ?_ ?_
    · rw [htracker]
    · rw [hstarlink]
  · have hcommands := congrArg List.flatten (hviews (fun shown =>
      publish config.snsTopicArn shown.2.1 shown.2.2))
    rw [hpublished, h.published, List.flatMap_def, List.flatMap_def]
    exact hcommands.symm

theorem FannedOut.settle [DecidableEq Id] (h : FannedOut config history app)
    {k : Nat} {call : Dispatch Id} (hcall : app.dispatched[k]? = some call)
    (hpending : call.record = RecordPhase.pending) (saved : Option Id) :
    FannedOut config (history ++ [e]) (app.settleRecord k saved) := by
  have hnone : call.recorded? = none := by
    unfold Dispatch.recorded?
    rw [hpending]
  unfold Application.settleRecord
  rw [hcall]
  cases saved with
  | none =>
      refine h.setRecord rfl rfl rfl rfl ?_
      have hsame : (app.setRecord k RecordPhase.rejected).dispatched.map
          Dispatch.recorded? = app.dispatched.map Dispatch.recorded? := by
        refine map_modify_same fun other hother => ?_
        rw [hcall] at hother
        rw [← Option.some.inj hother, hnone]
        rfl
      have hresults := congrArg (List.filterMap id) hsame
      rw [List.filterMap_map, List.filterMap_map] at hresults
      exact h.recorded.trans (List.Perm.of_eq hresults.symm)
  | some id =>
      refine h.setRecord rfl rfl rfl rfl ?_
      show ((record app.outbox.table id call.event.eventType call.event.imei
        call.event.data call.occurredAt).map OutboxRow.event).Perm
          ((app.dispatched.modify k _).filterMap _)
      refine List.Perm.trans ?_ (filterMap_modify_perm hcall hnone rfl).symm
      unfold Tracker.record
      rw [List.map_append]
      exact (List.perm_append_singleton _ _).trans (h.recorded.cons _)

theorem events_polled [DecidableEq Id] {o : Outbox Id DomainEventData}
    {step : OutboxEvent Id DomainEventData} (henabled : step.Enabled o)
    (hpolls : AppEvent.Polls step) :
    ((eventOutbox Id DomainEventData).step o step).table.map OutboxRow.event =
      o.table.map OutboxRow.event := by
  cases step with
  | recorded id eventType imei data occurredAt => exact hpolls.elim
  | requested limit => rfl
  | found i rows => exact congrArg _ (o.settleFound_table rows)
  | findFailed i => rfl
  | marked i now =>
      rcases henabled with ⟨rows, hphase⟩
      show (o.settleMarked i now).table.map OutboxRow.event = _
      rw [Outbox.settleMarked_table now hphase, List.map_map]
      exact List.map_congr_left fun row _ => updated_event
  | markFailed i => rfl

theorem FannedOut.poll [DecidableEq Id] (h : FannedOut config history app)
    {step : OutboxEvent Id DomainEventData} (henabled : step.Enabled app.outbox)
    (hpolls : AppEvent.Polls step) :
    FannedOut config (history ++ [e])
      { app with
        outbox := (eventOutbox Id DomainEventData).step app.outbox step } := by
  refine ⟨h.tracker, h.starlink, ?_, h.published, ?_⟩
  · intro call hcall
    exact (h.described call hcall).later (List.prefix_append _ _)
      List.prefix_rfl List.prefix_rfl
  · rw [events_polled henabled hpolls]
    exact h.recorded

end Steps

/-!
## Runs
-/

section Runs

variable [DecidableEq Socket] [DecidableEq Id] {config : AppConfig}
variable {history : List (AppEvent Socket Id)}

omit [DecidableEq Socket] in
/-- A row that is announced has been saved, and is what its chain resolved
to. -/
theorem exists_savedRow {s : TrackerTcpServer Socket}
    (h : SaveStore.RowsSaved trackerStore s.store) {i : Nat}
    (hphase : s.phaseOf i =
      some (Tracker.SavePhase.settled Tracker.SaveOutcome.row)) :
    exists saved, (i, saved) ∈ s.reports ∧ trackerRow s i = some saved := by
  rcases Option.map_eq_some_iff.mp hphase with ⟨task, htask, hsettled⟩
  have hjob : s.store.saves[i]? = some task.job := by
    show (s.saves.map Tracker.SaveTask.job)[i]? = _
    rw [List.getElem?_map, htask]
    rfl
  have hsaved : task.job.phase = SaveJobPhase.saved := by
    show task.phase.jobPhase = _
    rw [hsettled]
    rfl
  cases hreport : task.parsed.report with
  | none =>
      have hnothing := (h.waiting i task.job hjob).mp (by
        show Tracker.saveReport task.parsed task.startedAt = none
        unfold Tracker.saveReport
        rw [hreport]
        rfl)
      rw [hsaved] at hnothing
      cases hnothing
  | some report =>
      refine ⟨Tracker.reportRow task.parsed report, ?_, ?_⟩
      · refine (h.rows i _).mpr ⟨Tracker.reportPatch task.parsed.header report
          task.startedAt, ?_⟩
        rw [hjob, ← hsaved]
        unfold Tracker.SaveTask.job Tracker.saveReport
        rw [hreport]
        rfl
      · unfold trackerRow
        rw [htask]
        show task.parsed.report.map _ = _
        rw [hreport]
        rfl

theorem exists_trackerOrder (h : (application Socket Id config).Legal history) :
    exists order, SaveStore.Accounted trackerStore
      ((application Socket Id config).stateAfter history).tracker.store
        order := by
  rcases tracker_component h with ⟨hlegal, hstate⟩
  rw [← hstate]
  exact ⟨_, Tracker.accounted_store hlegal⟩

theorem exists_starlinkOrder
    (h : (application Socket Id config).Legal history) :
    exists order, SaveStore.Accounted starlinkStore
      ((application Socket Id config).stateAfter history).starlink.store
        order := by
  rcases starlink_component h with ⟨hlegal, hstate⟩
  rw [← hstate]
  exact ⟨_, Starlink.accounted_store hlegal⟩

theorem trackerRowsSaved (h : (application Socket Id config).Legal history) :
    SaveStore.RowsSaved trackerStore
      ((application Socket Id config).stateAfter history).tracker.store :=
  (exists_trackerOrder h).elim fun _ hacc => hacc.rows

theorem starlinkRowsSaved (h : (application Socket Id config).Legal history) :
    SaveStore.RowsSaved starlinkStore
      ((application Socket Id config).stateAfter history).starlink.store :=
  (exists_starlinkOrder h).elim fun _ hacc => hacc.rows

/-- The publisher has a handler for whatever the tracker's server emits, and
what it passes on is true. -/
theorem exists_trackerHandler
    (h : (application Socket Id config).Legal history)
    {e : TrackerEvent Socket} {x : Tracker.Emitted} (hx : TrackerEmits e x)
    (now : Int) :
    let app := (application Socket Id config).stateAfter history
    let s := (trackerTcpServer Socket config.trackerMaxBufferBytes).step
      app.tracker e
    e.Enabled app.tracker -> exists event,
      trackerHandler s (trackerPeer app.tracker e) now x = some event ∧
        Describes history { app with tracker := s } (Emission.tracker x)
          event := by
  intro app s henabled
  rcases tracker_component h with ⟨hlegal, hstate⟩
  have hpeers := trackerPeers hlegal
  rw [hstate] at hpeers
  have hpeer : forall {socket : Socket}, trackerSocket e = some socket ->
      app.tracker.tcp.isOpen socket = true ->
        TrackerEvent.connect socket (trackerPeer app.tracker e).1
          (trackerPeer app.tracker e).2 ∈ trackerHistory history := by
    intro socket hsocket hopen
    rcases TcpServer.exists_lookup_of_isOpen hopen with ⟨connection, hlookup⟩
    unfold trackerPeer
    rw [hsocket, Option.bind_some, hlookup]
    exact hpeers socket connection hlookup
  cases hx with
  | connected socket chunk at' imei =>
      exact ⟨_, rfl, Describes.trackerConnected imei socket _ _ _
        (hpeer rfl henabled)⟩
  | disconnected socket imei =>
      exact ⟨_, rfl, Describes.trackerDisconnected imei socket _ _ _
        (hpeer rfl henabled)⟩
  | report i listenerThrows =>
      rcases exists_savedRow (trackerRowsSaved h) henabled with
        ⟨saved, hrow, hresolved⟩
      refine ⟨handleReportReceived saved.imei saved, ?_,
        Describes.trackerReport i saved hrow⟩
      have hkept : trackerRow s i = trackerRow app.tracker i := by
        rcases Option.map_eq_some_iff.mp henabled with ⟨task, htask, _⟩
        unfold trackerRow
        rw [show s.saves[i]? = _ from
          TrackerTcpServer.getElem?_setPhase_self htask, htask]
        rfl
      show (trackerRow s i).map _ = _
      rw [hkept, hresolved]
      rfl

theorem fannedOut_tracker (h : (application Socket Id config).Legal history)
    {e : TrackerEvent Socket} {now : Int} :
    let app := (application Socket Id config).stateAfter history
    e.Enabled app.tracker -> FannedOut config history app ->
      FannedOut config (history ++ [AppEvent.tracker e now])
        (app.stepTracker config e now) := by
  intro app henabled ih
  let s := (trackerTcpServer Socket config.trackerMaxBufferBytes).step
    app.tracker e
  have hgrows : TrackerGrows app.tracker s e := trackerGrows _ _ e
  rcases hgrows.emitted with ⟨added, hadded, hemits⟩
  let handler : Tracker.Emitted -> Option (Emission × DomainEvent) :=
    fun emission => (trackerHandler s (trackerPeer app.tracker e) now
      emission).map (fun event => (Emission.tracker emission, event))
  have hstep : app.stepTracker config e now =
      { app with tracker := s }.dispatchAll config.snsTopicArn
        (added.filterMap handler) now := by
    have hdrop : s.emitted.drop app.tracker.emitted.length = added := by
      rw [hadded, List.drop_left]
    show { app with tracker := s }.dispatchAll config.snsTopicArn
      ((s.emitted.drop app.tracker.emitted.length).filterMap handler) now = _
    rw [hdrop]
  have hhandled : forall x, x ∈ added -> exists event,
      handler x = some (Emission.tracker x, event) ∧
        Describes history { app with tracker := s } (Emission.tracker x)
          event := by
    intro x hx
    rcases exists_trackerHandler h (hemits x hx) now henabled with
      ⟨event, hevent, hdescribes⟩
    exact ⟨event, congrArg (Option.map _) hevent, hdescribes⟩
  rw [hstep]
  refine ih.dispatch { app with tracker := s } hgrows.reports List.prefix_rfl
    rfl rfl rfl ?_ ?_ ?_
  · have hsome : (added.filterMap handler).filterMap
        (fun event => event.1.tracker?) = added.filterMap some := by
      rw [List.filterMap_filterMap]
      refine List.filterMap_congr fun x hx => ?_
      rcases hhandled x hx with ⟨event, hevent, _⟩
      rw [hevent]
      rfl
    rw [hsome, List.filterMap_some]
    exact hadded
  · have hnone : (added.filterMap handler).filterMap
        (fun event => event.1.starlink?) = [] := by
      rw [List.filterMap_filterMap]
      refine List.filterMap_eq_nil_iff.mpr fun x hx => ?_
      rcases hhandled x hx with ⟨event, hevent, _⟩
      rw [hevent]
      rfl
    rw [hnone, List.append_nil]
  · intro event hevent
    rcases List.mem_filterMap.mp hevent with ⟨x, hx, hsome⟩
    rcases hhandled x hx with ⟨said, hsaid, hdescribes⟩
    rw [hsaid] at hsome
    rw [← Option.some.inj hsome]
    exact hdescribes.later (List.prefix_append _ _) List.prefix_rfl
      List.prefix_rfl

theorem starlink_described (h : (application Socket Id config).Legal history)
    {x : Starlink.Emitted} :
    let app := (application Socket Id config).stateAfter history
    x ∈ app.starlink.emitted ->
      Describes history app (Emission.starlink x) (starlinkHandler x) := by
  intro app hx
  rcases starlink_component h with ⟨hlegal, hstate⟩
  have hpeers := starlinkPeers hlegal
  rw [hstate] at hpeers
  have hpeer := hpeers.emitted x hx
  cases x with
  | deviceConnected deviceId address port connectedAt =>
      rcases hpeer with ⟨socket, hcame⟩
      exact Describes.starlinkConnected deviceId socket _ _ _ hcame
  | deviceDisconnected deviceId address port disconnectedAt =>
      rcases hpeer with ⟨socket, hcame⟩
      exact Describes.starlinkDisconnected deviceId socket _ _ _ hcame
  | reportReceived deviceId i saved =>
      have hexact := reportsExact hlegal
      rw [hstate] at hexact
      rcases hexact.mem_reports hx with ⟨hrow, hdevice⟩
      rw [← hdevice]
      exact Describes.starlinkReport i saved hrow

/-- Whatever happens to the StarLink server, it keeps its rows and
emissions. -/
theorem starlinkGrows (h : (application Socket Id config).Legal history)
    {e : StarlinkEvent Socket Bytes} :
    let app := (application Socket Id config).stateAfter history
    e.Enabled app.starlink -> StarlinkGrows app.starlink
      ((starlinkTcpServer Socket config.starlinkMaxBufferBytes
        config.reportFormatTags).step app.starlink e) := by
  intro app henabled
  rcases starlink_component h with ⟨hlegal, hstate⟩
  have hpeers := starlinkPeers hlegal
  rw [hstate] at hpeers
  have hall : PeersFrom (fun _ _ _ => True) app.starlink :=
    hpeers.mono fun _ _ _ _ => trivial
  exact (hall.step henabled (fun _ _ _ _ => trivial) _ _).right

theorem fannedOut_starlink (h : (application Socket Id config).Legal history)
    {e : StarlinkEvent Socket Bytes} {now : Int} :
    let app := (application Socket Id config).stateAfter history
    (AppEvent.starlink e now).Enabled app -> FannedOut config history app ->
      FannedOut config (history ++ [AppEvent.starlink e now])
        (app.stepStarlink config e now) := by
  intro app henabled ih
  let s := (starlinkTcpServer Socket config.starlinkMaxBufferBytes
    config.reportFormatTags).step app.starlink e
  have hafter : (application Socket Id config).Legal
      (history ++ [AppEvent.starlink e now]) :=
    EventSystem.legal_snoc.mpr ⟨h, henabled⟩
  have hgrows : StarlinkGrows app.starlink s :=
    starlinkGrows h henabled.right
  rcases hgrows.emitted with ⟨added, hadded⟩
  let handler : Starlink.Emitted -> Emission × DomainEvent :=
    fun emission => (Emission.starlink emission, starlinkHandler emission)
  have hstep : app.stepStarlink config e now =
      { app with starlink := s }.dispatchAll config.snsTopicArn
        (added.map handler) now := by
    have hdrop : s.emitted.drop app.starlink.emitted.length = added := by
      rw [← hadded, List.drop_left]
    show { app with starlink := s }.dispatchAll config.snsTopicArn
      ((s.emitted.drop app.starlink.emitted.length).map handler) now = _
    rw [hdrop]
  have hdescribed : forall x, x ∈ s.emitted ->
      Describes (history ++ [AppEvent.starlink e now])
        (app.stepStarlink config e now) (Emission.starlink x)
          (starlinkHandler x) := by
    intro x hx
    have hdescribes := starlink_described hafter (x := x)
    rw [EventSystem.stateAfter_snoc] at hdescribes
    exact hdescribes hx
  rw [hstep] at hdescribed ⊢
  refine ih.dispatch { app with starlink := s } List.prefix_rfl hgrows.reports
    rfl rfl rfl ?_ ?_ ?_
  · have hnone : (added.map handler).filterMap
        (fun event => event.1.tracker?) = [] := by
      rw [List.filterMap_map]
      exact List.filterMap_eq_nil_iff.mpr fun x _ => rfl
    rw [hnone, List.append_nil]
  · rw [List.filterMap_map]
    show s.emitted = app.starlink.emitted ++ added.filterMap some
    rw [List.filterMap_some, hadded]
  · intro event hevent
    rcases List.mem_map.mp hevent with ⟨x, hx, rfl⟩
    have hmem : x ∈ s.emitted := by
      rw [← hadded]
      exact List.mem_append_right _ hx
    exact (hdescribed x hmem).later List.prefix_rfl List.prefix_rfl
      List.prefix_rfl

omit [DecidableEq Socket] [DecidableEq Id] in
theorem fannedOut_initial :
    FannedOut config [] ({} : Application Socket Id) where
  tracker := rfl
  starlink := rfl
  described _ hcall := nomatch hcall
  published := rfl
  recorded := List.Perm.nil

theorem fannedOut (h : (application Socket Id config).Legal history) :
    FannedOut config history
      ((application Socket Id config).stateAfter history) := by
  refine EventSystem.invariant ?_ ?_ h
  · exact fannedOut_initial
  · intro history e hlegal henabled ih
    rw [EventSystem.stateAfter_snoc]
    cases e with
    | tracker e now => exact fannedOut_tracker hlegal henabled.right ih
    | starlink e now => exact fannedOut_starlink hlegal henabled ih
    | recordSettled k saved =>
        rcases henabled.right with ⟨call, hcall, hpending, _⟩
        exact ih.settle hcall hpending saved
    | polling step => exact ih.poll henabled.right.right henabled.right.left

/-- In every run of the application, every emission of either server is
dispatched once, in its order, and says what it is about; the outbox holds what
has been recorded of the dispatches, and the topic, if there is one, has got
each of them once, in their order. -/
theorem emissions_fanned_out (run : (application Socket Id config).Run) :
    FannedOut config run.history
      ((application Socket Id config).stateAfter run.history) :=
  fannedOut run.legal

end Runs

end Publishing
end AvtTracker
