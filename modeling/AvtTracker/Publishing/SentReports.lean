import AvtTracker.Foundation.NumberedRows
import AvtTracker.Publishing.Delivery
import AvtTracker.Starlink.SentReports
import AvtTracker.Tracker.SentFrames

/-!
# From what units send to what consumers get

Trackers send built frames and StarLink units the lines of their reports.  Whatever
pieces the bytes arrive in, the outbox and the commands sent to the topic come to
hold each report that was saved once, with the values its unit sent.
-/

namespace AvtTracker
namespace Publishing

open Foundation Tcp Tracker Starlink

section Reports

variable {Socket Id : Type}

def trackerSavedRows (order : List (Socket × SentReport))
    (s : TrackerTcpServer Socket) : List TrackerReport :=
  savedRows (fun task : Tracker.SaveTask Socket =>
    task.phase.jobPhase = SaveJobPhase.saved) (fun sent => sent.2.row) order
      s.saves

def starlinkSavedRows {formatTags : List String}
    (order : List (Socket × ReportLine formatTags × Bool))
    (s : StarlinkTcpServer Socket) : List StarlinkReport :=
  savedRows (fun task : Starlink.SaveTask =>
    task.phase.jobPhase = SaveJobPhase.saved) (fun sent => sent.2.1.row) order
      s.saves

/-- Chains, outbox and the commands sent to the topic are those of the reports in
these orders. -/
structure DeliveredAsSent (config : AppConfig)
    (order : List (Socket × SentReport))
    (lines : List (Socket × ReportLine config.reportFormatTags × Bool))
    (app : Application Socket Id) : Prop where
  chains : Tracker.SavedAsSent order app.tracker
  starlinkChains : Starlink.SavedAsSent lines app.starlink
  all_saved : (forall task, task ∈ app.tracker.saves ->
      task.phase.jobPhase = SaveJobPhase.saved) ->
    trackerSavedRows order app.tracker = order.map (fun sent => sent.2.row)
  starlink_all_saved : (forall task, task ∈ app.starlink.saves ->
      task.phase.jobPhase = SaveJobPhase.saved) ->
    starlinkSavedRows lines app.starlink =
      lines.map (fun sent => sent.2.1.row)
  recorded : app.tracker.ChainsFinished -> app.AllRecorded ->
    (app.outbox.table.filterMap (fun row => row.data.trackerReport?)).Perm
      (trackerSavedRows order app.tracker)
  recordedStarlink : app.starlink.ChainsFinished -> app.AllRecorded ->
    (app.outbox.table.filterMap (fun row => row.data.starlinkReport?)).Perm
      (starlinkSavedRows lines app.starlink)
  published : forall arn, config.snsTopicArn = some arn -> arn ≠ "" ->
    app.tracker.ChainsFinished -> (app.published.filterMap (fun command =>
      command.message.data.trackerReport?)).Perm
        (trackerSavedRows order app.tracker)
  publishedStarlink : forall arn, config.snsTopicArn = some arn -> arn ≠ "" ->
    app.starlink.ChainsFinished -> (app.published.filterMap (fun command =>
      command.message.data.starlinkReport?)).Perm
        (starlinkSavedRows lines app.starlink)

/-- The outbox and the commands hold all these reports, each once, and no other. -/
structure Application.DeliversAll {formatTags : List String}
    (app : Application Socket Id) (order : List (Socket × SentReport))
    (lines : List (Socket × ReportLine formatTags × Bool)) : Prop where
  recorded : (app.outbox.table.filterMap (fun row =>
    row.data.trackerReport?)).Perm (order.map (fun sent => sent.2.row))
  recordedStarlink : (app.outbox.table.filterMap (fun row =>
    row.data.starlinkReport?)).Perm (lines.map (fun sent => sent.2.1.row))
  published : (app.published.filterMap (fun command =>
    command.message.data.trackerReport?)).Perm
      (order.map (fun sent => sent.2.row))
  publishedStarlink : (app.published.filterMap (fun command =>
    command.message.data.starlinkReport?)).Perm
      (lines.map (fun sent => sent.2.1.row))

/-- It is so once every chain has saved its report and run to its end. -/
theorem DeliveredAsSent.deliversAll {config : AppConfig}
    {order : List (Socket × SentReport)}
    {lines : List (Socket × ReportLine config.reportFormatTags × Bool)}
    {app : Application Socket Id} (h : DeliveredAsSent config order lines app)
    {arn : String} (harn : config.snsTopicArn = some arn) (hname : arn ≠ "")
    (hfinished : app.tracker.ChainsFinished)
    (hfinished' : app.starlink.ChainsFinished)
    (hsaved : forall task, task ∈ app.tracker.saves ->
      task.phase.jobPhase = SaveJobPhase.saved)
    (hsaved' : forall task, task ∈ app.starlink.saves ->
      task.phase.jobPhase = SaveJobPhase.saved)
    (hrecorded : app.AllRecorded) : app.DeliversAll order lines := by
  have hrows := h.all_saved hsaved
  have hrows' := h.starlink_all_saved hsaved'
  constructor
  · rw [← hrows]
    exact h.recorded hfinished hrecorded
  · rw [← hrows']
    exact h.recordedStarlink hfinished' hrecorded
  · rw [← hrows]
    exact h.published arn harn hname hfinished
  · rw [← hrows']
    exact h.publishedStarlink arn harn hname hfinished'

theorem trackerReports_perm {order : List (Socket × SentReport)}
    {s : TrackerTcpServer Socket}
    (hrows : SaveStore.RowsSaved trackerStore s.store)
    (h : Tracker.SavedAsSent order s) :
    (s.reports.map Prod.snd).Perm (trackerSavedRows order s) :=
  savedRows_perm hrows.rows_once h.rows

theorem starlinkReports_perm {formatTags : List String}
    {lines : List (Socket × ReportLine formatTags × Bool)}
    {s : StarlinkTcpServer Socket}
    (hrows : SaveStore.RowsSaved starlinkStore s.store)
    (h : Starlink.SavedAsSent lines s) :
    (s.reports.map Prod.snd).Perm (starlinkSavedRows lines s) :=
  savedRows_perm hrows.rows_once h.rows

theorem trackerSavedRows_of_all {order : List (Socket × SentReport)}
    {s : TrackerTcpServer Socket} (h : Tracker.SavedAsSent order s)
    (hsaved : forall task, task ∈ s.saves ->
      task.phase.jobPhase = SaveJobPhase.saved) :
    trackerSavedRows order s = order.map (fun sent => sent.2.row) := by
  have hlength := congrArg List.length h.chains
  rw [List.length_map, List.length_map] at hlength
  exact savedRows_of_all hlength.symm hsaved

theorem starlinkSavedRows_of_all {formatTags : List String}
    {lines : List (Socket × ReportLine formatTags × Bool)}
    {s : StarlinkTcpServer Socket} (h : Starlink.SavedAsSent lines s)
    (hsaved : forall task, task ∈ s.saves ->
      task.phase.jobPhase = SaveJobPhase.saved) :
    starlinkSavedRows lines s = lines.map (fun sent => sent.2.1.row) := by
  have hlength := congrArg List.length h.chains
  rw [List.length_map, List.length_map] at hlength
  exact savedRows_of_all hlength.symm hsaved

end Reports

section Runs

variable {Socket Id : Type} [DecidableEq Socket] [DecidableEq Id]
variable {config : AppConfig}

/-- Every socket of the tracker's server has received frames, and every socket of
the StarLink server lines, all of which fit the buffers.  There are orders of the
reports of both, which keep the order of each socket, such that the chains are
those of the reports; and once the chains of a server have run to their ends, the
outbox, when the records are kept, and the commands sent to the topic hold each of
its reports whose save succeeded once, with the values its unit sent, and no
other. -/
theorem sentReports_delivered (run : (application Socket Id config).Run)
    (frames : Socket -> List SentFrame)
    (hframes : forall socket, Tracker.Receives config.trackerMaxBufferBytes
      (chunksOn socket (trackerHistory run.history)) (frames socket))
    (reports : Socket -> List (ReportLine config.reportFormatTags × Bool))
    (tail : Socket -> Bytes)
    (hreports : forall socket, Starlink.Receives config.starlinkMaxBufferBytes
      (ofSession socket ((starlinkHistory run.history).filterMap
        StarlinkEvent.received)) (reports socket) (tail socket)) :
    exists (order : List (Socket × SentReport))
      (lines : List (Socket × ReportLine config.reportFormatTags × Bool)),
      (forall socket, ofSession socket order = (arrived (frames socket)
        (chunksOn socket (trackerHistory run.history))).filterMap
          SentFrame.report?) ∧
      (forall socket, ofSession socket lines = reports socket) ∧
      DeliveredAsSent config order lines
        ((application Socket Id config).stateAfter run.history) := by
  have hfanned := fannedOut run.legal
  rcases tracker_component run.legal with ⟨hlegal, hstate⟩
  rcases Tracker.exists_savedAsSent hlegal hframes with
    ⟨order, horder, hsaved⟩
  rcases starlink_component run.legal with ⟨hlegal', hstate'⟩
  rcases Starlink.exists_savedAsSent hlegal' hreports with
    ⟨lines, hlines, hsaved'⟩
  rw [hstate] at hsaved
  rw [hstate'] at hsaved'
  have hperm := trackerReports_perm (trackerRowsSaved run.legal) hsaved
  have hperm' := starlinkReports_perm (starlinkRowsSaved run.legal) hsaved'
  refine ⟨order, lines, horder, hlines, hsaved, hsaved',
    trackerSavedRows_of_all hsaved, starlinkSavedRows_of_all hsaved',
    ?_, ?_, ?_, ?_⟩
  · intro hfinished hall
    exact (hfanned.recorded_data hall _).trans
      ((trackerRows_dispatched run.legal hfinished).trans hperm)
  · intro hfinished hall
    exact (hfanned.recorded_data hall _).trans
      ((starlinkRows_dispatched run.legal hfinished).trans hperm')
  · intro arn harn hname hfinished
    rw [hfanned.published_data harn hname]
    exact (trackerRows_dispatched run.legal hfinished).trans hperm
  · intro arn harn hname hfinished
    rw [hfanned.published_data harn hname]
    exact (starlinkRows_dispatched run.legal hfinished).trans hperm'

/-!
## Runs without requests
-/

/-- The event can happen, and is no request's. -/
def AppEvent.Possible (app : Application Socket Id) :
    AppEvent Socket Id -> Prop
  | tracker e _ => e.Enabled app.tracker
  | starlink e _ => e.Enabled app.starlink
  | recordSettled k saved =>
      (app.dispatched.map Dispatch.record)[k]? = some RecordPhase.pending ∧
        forall id, id ∈ saved -> id ∉ app.outbox.table.map OutboxRow.id
  | polling _ => False

variable (config)

def withoutRequests : EventSystem (Application Socket Id) (AppEvent Socket Id) :=
  { application Socket Id config with Enabled := fun app e => e.Possible app }

instance (app : Application Socket Id) : forall e : AppEvent Socket Id,
    Decidable ((withoutRequests config).Enabled app e)
  | AppEvent.tracker e _ => inferInstanceAs (Decidable (e.Enabled app.tracker))
  | AppEvent.starlink e _ => inferInstanceAs (Decidable (e.Enabled app.starlink))
  | AppEvent.recordSettled _ _ => inferInstanceAs (Decidable (_ ∧ _))
  | AppEvent.polling _ => inferInstanceAs (Decidable False)

variable {config}

theorem legalFrom_of_possible {app : Application Socket Id}
    {events : List (AppEvent Socket Id)}
    (hlegal : (withoutRequests config).LegalFrom app events)
    (hreturn : forall e, e ∈ events -> e.ListenersReturn) :
    (application Socket Id config).LegalFrom app events := by
  induction events generalizing app with
  | nil => trivial
  | cons e events ih =>
      have hpossible : e.Possible app := hlegal.left
      refine ⟨⟨hreturn e List.mem_cons_self, ?_⟩, ih hlegal.right ?_⟩
      · cases e with
        | tracker e now => exact hpossible
        | starlink e now => exact hpossible
        | recordSettled k saved =>
            rcases hpossible with ⟨hrecord, hfresh⟩
            rw [List.getElem?_map] at hrecord
            rcases Option.map_eq_some_iff.mp hrecord with ⟨call, hcall, hpending⟩
            exact ⟨call, hcall, hpending, fun id hsaved => hfresh id hsaved⟩
        | polling e => exact hpossible.elim
      · intro other hother
        exact hreturn other (List.mem_cons_of_mem e hother)

end Runs

def batteryConfig : AppConfig where
  trackerMaxBufferBytes := 65536
  starlinkMaxBufferBytes := 8192
  reportFormatTags := defaultStarlinkFormatTags
  snsTopicArn := some "reports"

def recordEvents (calls : List (Nat × Nat)) : List (AppEvent Nat Nat) :=
  calls.map (fun call => AppEvent.recordSettled call.1 (some call.2))

/-- The frames of the battery and the lines of the ignition arrive together, and
every emission is recorded, not in order. -/
def batteryEvents : List (AppEvent Nat Nat) :=
  (batteryHistory.take 4).map (fun e => AppEvent.tracker e 0) ++
    (ignitionHistory.take 6).map (fun e => AppEvent.starlink e 1) ++
    recordEvents [(1, 0), (0, 1)] ++
    (batteryHistory.drop 4).map (fun e => AppEvent.tracker e 2) ++
    (ignitionHistory.drop 6).map (fun e => AppEvent.starlink e 3) ++
    recordEvents [(3, 2), (2, 3), (5, 4), (4, 5), (7, 6), (6, 7)]

/-- The first socket has sent its frames, and no other any. -/
def batterySent (socket : Nat) : List SentFrame :=
  if socket = 0 then batteryFrames else []

theorem batteryEvents_return (e : AppEvent Nat Nat) (he : e ∈ batteryEvents) :
    e.ListenersReturn := by
  have htracker : forall now e, e ∈ batteryHistory ->
      (AppEvent.tracker e now : AppEvent Nat Nat).ListenersReturn := by
    simp [batteryHistory, AppEvent.ListenersReturn]
  have hstarlink : forall now e, e ∈ ignitionHistory ->
      (AppEvent.starlink e now : AppEvent Nat Nat).ListenersReturn := by
    simp [ignitionHistory, AppEvent.ListenersReturn]
  simp only [batteryEvents, recordEvents, List.mem_append, List.mem_map] at he
  rcases he with ((((⟨e, he, rfl⟩ | ⟨e, he, rfl⟩) | ⟨_, _, rfl⟩) | ⟨e, he, rfl⟩) |
    ⟨e, he, rfl⟩) | ⟨_, _, rfl⟩
  · exact htracker 0 e (List.mem_of_mem_take he)
  · exact hstarlink 1 e (List.mem_of_mem_take he)
  · trivial
  · exact htracker 2 e (List.mem_of_mem_drop he)
  · exact hstarlink 3 e (List.mem_of_mem_drop he)
  · trivial

theorem batteryEvents_legal :
    (application Nat Nat batteryConfig).Legal batteryEvents := by
  have hlegal : (withoutRequests batteryConfig).Legal batteryEvents := by
    decide +kernel
  exact legalFrom_of_possible hlegal batteryEvents_return

theorem receives_batterySent (socket : Nat) :
    Tracker.Receives 65536 (chunksOn socket batteryHistory)
      (batterySent socket) := by
  unfold batterySent
  by_cases hsocket : socket = 0
  · rw [if_pos hsocket, hsocket]
    exact receives_battery
  · have hnothing : chunksOn socket batteryHistory = [] := by
      show ofSession socket [(0, _), (0, _), (0, _)] = []
      simp [ofSession_cons, Ne.symm hsocket]
      rfl
    rw [if_neg hsocket, hnothing]
    refine ⟨List.nil_prefix, ?_, ?_⟩
    · apply cutsClear_of_clearTails
      intro f hf
      cases hf
    · intro f hf
      cases hf

/-- The application behind these events. -/
def batteryApp : Application Nat Nat :=
  (application Nat Nat batteryConfig).stateAfter batteryEvents

theorem batteryApp_settled :
    (forall task, task ∈ batteryApp.tracker.saves ->
      task.phase.isFinished = true ∧
        task.phase.jobPhase = SaveJobPhase.saved) ∧
    (forall task, task ∈ batteryApp.starlink.saves ->
      task.phase.isFinished = true ∧
        task.phase.jobPhase = SaveJobPhase.saved) ∧
    batteryApp.dispatched.map Dispatch.record =
      [1, 0, 3, 2, 5, 4, 7, 6].map RecordPhase.recorded := by
  decide +kernel

/-- Every report has arrived and is saved, recorded and sent to the topic. -/
theorem sentReports_delivered_battery :
    exists (order : List (Nat × SentReport))
      (lines : List (Nat × ReportLine defaultStarlinkFormatTags × Bool)),
      (forall socket, ofSession socket order = (arrived (batterySent socket)
        (chunksOn socket batteryHistory)).filterMap SentFrame.report?) ∧
      (forall socket, ofSession socket lines = ignitionLines socket) ∧
      DeliveredAsSent batteryConfig order lines batteryApp ∧
      batteryApp.DeliversAll order lines := by
  rcases batteryApp_settled with ⟨hframes, hlines, hrecords⟩
  have hrecorded : batteryApp.AllRecorded := by
    intro call hcall
    have hrecord := List.mem_map_of_mem (f := Dispatch.record) hcall
    rw [hrecords] at hrecord
    rcases List.mem_map.mp hrecord with ⟨id, _, hid⟩
    exact ⟨id, hid.symm⟩
  have hdelivered : exists (order : List (Nat × SentReport))
      (lines : List (Nat × ReportLine defaultStarlinkFormatTags × Bool)),
      (forall socket, ofSession socket order = (arrived (batterySent socket)
        (chunksOn socket batteryHistory)).filterMap SentFrame.report?) ∧
      (forall socket, ofSession socket lines = ignitionLines socket) ∧
      DeliveredAsSent batteryConfig order lines batteryApp :=
    sentReports_delivered ⟨batteryEvents, batteryEvents_legal⟩ batterySent
      receives_batterySent ignitionLines ignitionTail receives_ignition
  rcases hdelivered with ⟨order, lines, horder, hsent, h⟩
  refine ⟨order, lines, horder, hsent, h, ?_⟩
  apply h.deliversAll rfl (by decide) ?_ ?_ ?_ ?_ hrecorded
  · exact fun task htask => (hframes task htask).left
  · exact fun task htask => (hlines task htask).left
  · exact fun task htask => (hframes task htask).right
  · exact fun task htask => (hlines task htask).right

end Publishing
end AvtTracker
