import AvtTracker.Publishing.Delivery

/-!
# The application comes to rest

When sockets fall silent and no further requests come, the chains of both
servers, the records of the events they emit and the requests under way run to
their ends, in whatever order their parts come and whatever the database answers.
-/

namespace AvtTracker
namespace Publishing

open Foundation Tcp Tracker Starlink

variable {Socket Id : Type}

/-!
## Work
-/

def Dispatch.work (call : Dispatch Id) : Nat :=
  match call.record with
  | RecordPhase.pending => 1
  | _ => 0

/-- How many steps a request has still to take, at most. -/
def phaseWork : PollPhase Id DomainEventData -> Nat
  | PollPhase.querying => 2
  | PollPhase.marking _ => 1
  | _ => 0

def pollWork (poll : Poll Id DomainEventData) : Nat :=
  phaseWork poll.phase

/-- Neither a socket nor a client of the outbox has a part in it. -/
def AppEvent.Internal : AppEvent Socket Id -> Prop
  | tracker e _ => e.Internal
  | starlink e _ => e.Internal
  | recordSettled _ _ => True
  | polling (OutboxEvent.requested _) => False
  | polling _ => True

namespace Application

/-- A part of a chain counts twice, for its emission may have to be recorded. -/
def work (app : Application Socket Id) : Nat :=
  2 * (app.tracker.work + app.starlink.work) +
    (app.dispatched.map Dispatch.work).sum +
      (app.outbox.polls.map pollWork).sum

/-- Nothing is under way any more. -/
structure AtRest (app : Application Socket Id) : Prop where
  tracker : app.tracker.AtRest
  starlink : app.starlink.AtRest
  records : forall call, call ∈ app.dispatched ->
    call.record ≠ RecordPhase.pending
  polls : forall poll, poll ∈ app.outbox.polls -> poll.phase.Final

def Unsettled (app : Application Socket Id) : Prop :=
  app.tracker.Unsettled ∧ app.starlink.Unsettled

theorem work_eq_zero_iff {app : Application Socket Id} :
    app.work = 0 <-> app.AtRest := by
  have hcall : forall call : Dispatch Id,
      call.work = 0 <-> call.record ≠ RecordPhase.pending := by
    intro call
    unfold Dispatch.work
    cases call.record <;> simp
  have hpoll : forall poll : Poll Id DomainEventData,
      pollWork poll = 0 <-> poll.phase.Final := by
    intro poll
    unfold pollWork
    cases poll.phase <;> simp [phaseWork, PollPhase.Final]
  have hsplit : app.work = 0 <->
      (app.tracker.work = 0 ∧ app.starlink.work = 0) ∧
        (app.dispatched.map Dispatch.work).sum = 0 ∧
          (app.outbox.polls.map pollWork).sum = 0 := by
    unfold work
    lia
  rw [hsplit, TrackerTcpServer.work_eq_zero_iff,
    StarlinkTcpServer.work_eq_zero_iff, List.sum_eq_zero_iff_forall_eq_nat,
    List.sum_eq_zero_iff_forall_eq_nat, List.forall_mem_map,
    List.forall_mem_map]
  constructor
  · rintro ⟨⟨htracker, hstarlink⟩, hcalls, hpolls⟩
    exact ⟨htracker, hstarlink, fun call h => (hcall call).mp (hcalls call h),
      fun poll h => (hpoll poll).mp (hpolls poll h)⟩
  · intro h
    exact ⟨⟨h.tracker, h.starlink⟩,
      fun call hmem => (hcall call).mpr (h.records call hmem),
      fun poll hmem => (hpoll poll).mpr (h.polls poll hmem)⟩

end Application

/-!
## What a part can emit
-/

section Steps

variable [DecidableEq Socket]

theorem trackerEmitted_internal (maxBufferBytes : Nat)
    (s : TrackerTcpServer Socket) {e : TrackerEvent Socket}
    (hinternal : e.Internal) :
    ((trackerTcpServer Socket maxBufferBytes).step s e).emitted.length ≤
      s.emitted.length + 1 := by
  have hsilent : (forall x, ¬ TrackerEmits e x) ->
      ((trackerTcpServer Socket maxBufferBytes).step s e).emitted.length ≤
        s.emitted.length + 1 := by
    intro hnone
    rcases (trackerGrows s maxBufferBytes e).emitted with
      ⟨added, hadded, hkind⟩
    have hnil : added = [] := List.eq_nil_iff_forall_not_mem.mpr
      fun x hx => hnone x (hkind x hx)
    rw [hadded, hnil, List.append_nil]
    exact Nat.le_succ _
  cases e with
  | connect _ _ _ => exact hinternal.elim
  | data _ _ _ => exact hinternal.elim
  | close _ => exact hinternal.elim
  | thenRuns i outcome listenerThrows =>
      cases outcome with
      | row => exact Nat.le_of_eq List.length_append
      | null => exact Nat.le_succ _
      | rejected => exact Nat.le_succ _
  | markSettled j accepted => exact hsilent fun x hx => nomatch hx
  | upsertSettled i accepted => exact hsilent fun x hx => nomatch hx
  | saveSettled i accepted => exact hsilent fun x hx => nomatch hx
  | catchRuns i outcome failed => exact hsilent fun x hx => nomatch hx
  | finallyRuns i outcome => exact hsilent fun x hx => nomatch hx

theorem starlinkEmitted_internal (maxBufferBytes : Nat) (tags : List String)
    (s : StarlinkTcpServer Socket) {e : StarlinkEvent Socket Bytes}
    (hinternal : e.Internal) :
    ((starlinkTcpServer Socket maxBufferBytes tags).step s
        e).emitted.length ≤ s.emitted.length + 1 := by
  have hstep : (starlinkTcpServer Socket maxBufferBytes tags).step s e =
      s.handle e := by
    cases e with
    | connect _ _ _ => exact hinternal.elim
    | data _ _ _ => exact hinternal.elim
    | _ => rfl
  rcases starlinkEmits_internal s hinternal with ⟨added, hadded, hlength, _⟩
  rw [hstep, hadded, List.length_append]
  exact Nat.add_le_add_left hlength _

/-!
## Steps
-/

variable {app : Application Socket Id}

omit [DecidableEq Socket] in
theorem work_dispatchAll (topicArn : Option String)
    (events : List (Emission × DomainEvent)) (now : Int) :
    (app.dispatchAll topicArn events now).work = app.work + events.length := by
  have hnew : ((events.map (fun event =>
      ({ emission := event.1, event := event.2, occurredAt := now } :
        Dispatch Id))).map Dispatch.work).sum = events.length := by
    rw [List.map_map]
    show (events.map (fun _ => 1)).sum = events.length
    rw [List.map_const', List.sum_replicate_nat, Nat.mul_one]
  unfold Application.work Application.dispatchAll
  simp only [List.map_append, List.sum_append]
  rw [hnew]
  lia

omit [DecidableEq Socket] in
theorem work_settleRecord [DecidableEq Id] {k : Nat} {call : Dispatch Id}
    (hcall : app.dispatched[k]? = some call)
    (hpending : call.record = RecordPhase.pending) (saved : Option Id) :
    (app.settleRecord k saved).work < app.work := by
  have hset : forall phase : RecordPhase Id, phase ≠ RecordPhase.pending ->
      ((app.setRecord k phase).dispatched.map Dispatch.work).sum <
        (app.dispatched.map Dispatch.work).sum := by
    intro phase hphase
    refine sum_modify_lt Dispatch.work hcall ?_
    have hafter : Dispatch.work { call with record := phase } = 0 := by
      unfold Dispatch.work
      cases phase with
      | pending => exact absurd rfl hphase
      | recorded id => rfl
      | rejected => rfl
    have hbefore : call.work = 1 := by
      unfold Dispatch.work
      rw [hpending]
    rw [hafter, hbefore]
    exact Nat.zero_lt_one
  unfold Application.settleRecord
  simp only [hcall]
  have hless : forall phase : RecordPhase Id, phase ≠ RecordPhase.pending ->
      (app.setRecord k phase).work < app.work := fun phase hphase =>
    Nat.add_lt_add_right (Nat.add_lt_add_left (hset phase hphase) _) _
  cases saved with
  | none => exact hless RecordPhase.rejected nofun
  | some id => exact hless (RecordPhase.recorded id) nofun

omit [DecidableEq Socket] in
theorem phaseWork_setPhase {o : Outbox Id DomainEventData} {i : Nat}
    {old phase : PollPhase Id DomainEventData} (h : o.phaseOf i = some old)
    (hless : phaseWork phase < phaseWork old) :
    ((o.setPhase i phase).polls.map pollWork).sum <
      (o.polls.map pollWork).sum := by
  rcases Option.map_eq_some_iff.mp h with ⟨poll, hpoll, rfl⟩
  exact sum_modify_lt pollWork hpoll hless

omit [DecidableEq Socket] in
theorem pollsWork_step [DecidableEq Id] {o : Outbox Id DomainEventData}
    {e : OutboxEvent Id DomainEventData} (henabled : e.Enabled o)
    (hpolls : AppEvent.Polls e)
    (hinternal : (AppEvent.polling e : AppEvent Socket Id).Internal) :
    (((eventOutbox Id DomainEventData).step o e).polls.map pollWork).sum <
      (o.polls.map pollWork).sum := by
  cases e with
  | recorded id eventType imei data occurredAt => exact hpolls.elim
  | requested limit => exact hinternal.elim
  | found i rows =>
      rcases henabled with ⟨poll, hpoll, hphase, _⟩
      have hquerying : o.phaseOf i = some PollPhase.querying := by
        unfold Outbox.phaseOf
        rw [hpoll, Option.map_some, hphase]
      show ((o.settleFound i rows).polls.map pollWork).sum < _
      unfold Outbox.settleFound
      by_cases hrows : rows.length > 0
      · rw [if_pos hrows]
        exact phaseWork_setPhase hquerying (Nat.lt_succ_self 1)
      · rw [if_neg hrows]
        exact phaseWork_setPhase hquerying (Nat.succ_pos 1)
  | findFailed i => exact phaseWork_setPhase henabled (Nat.succ_pos 1)
  | marked i now =>
      rcases henabled with ⟨rows, hmarking⟩
      show ((o.settleMarked i now).polls.map pollWork).sum < _
      rw [Outbox.settleMarked_eq now hmarking]
      exact phaseWork_setPhase (o := o) hmarking Nat.zero_lt_one
  | markFailed i =>
      rcases henabled with ⟨rows, hmarking⟩
      exact phaseWork_setPhase hmarking Nat.zero_lt_one

variable (config : AppConfig)

/-- A part of a chain of the tracker's server costs two and adds at most one
record. -/
theorem work_stepTracker {e : TrackerEvent Socket} (now : Int)
    (hinternal : e.Internal)
    (hless : ((trackerTcpServer Socket config.trackerMaxBufferBytes).step
      app.tracker e).work < app.tracker.work) :
    (app.stepTracker config e now).work < app.work := by
  have hemitted := trackerEmitted_internal config.trackerMaxBufferBytes
    app.tracker hinternal
  unfold Application.stepTracker
  generalize (trackerTcpServer Socket config.trackerMaxBufferBytes).step
    app.tracker e = s at hless hemitted
  dsimp only
  rw [work_dispatchAll]
  have hevents := List.length_filterMap_le (fun emission =>
    (trackerHandler s (trackerPeer app.tracker e) now emission).map
      (fun event => (Emission.tracker emission, event)))
    (s.emitted.drop app.tracker.emitted.length)
  rw [List.length_drop] at hevents
  unfold Application.work
  dsimp only
  lia

theorem work_stepStarlink {e : StarlinkEvent Socket Bytes} (now : Int)
    (hinternal : e.Internal)
    (hless : ((starlinkTcpServer Socket config.starlinkMaxBufferBytes
      config.reportFormatTags).step app.starlink e).work <
        app.starlink.work) :
    (app.stepStarlink config e now).work < app.work := by
  have hemitted := starlinkEmitted_internal config.starlinkMaxBufferBytes
    config.reportFormatTags app.starlink hinternal
  unfold Application.stepStarlink
  generalize (starlinkTcpServer Socket config.starlinkMaxBufferBytes
    config.reportFormatTags).step app.starlink e = s at hless hemitted
  dsimp only
  rw [work_dispatchAll, List.length_map, List.length_drop]
  unfold Application.work
  dsimp only
  lia

end Steps

/-!
## Coming to rest
-/

section Runs

variable [DecidableEq Socket] [DecidableEq Id] (config : AppConfig)
variable {app : Application Socket Id}

/-- Internal events work off what is under way. -/
theorem internal_step {e : AppEvent Socket Id} (hs : app.Unsettled)
    (henabled : e.Enabled app) (hinternal : e.Internal) :
    let app' := (application Socket Id config).step app e
    app'.Unsettled ∧ app'.work < app.work := by
  cases e with
  | tracker e now =>
      rcases Tracker.internal_step config.trackerMaxBufferBytes hs.left
        henabled.right hinternal with ⟨hunsettled, hless⟩
      exact ⟨⟨hunsettled, hs.right⟩,
        work_stepTracker config now hinternal hless⟩
  | starlink e now =>
      rcases Starlink.internal_step config.starlinkMaxBufferBytes
        config.reportFormatTags hs.right henabled.right hinternal with
        ⟨hunsettled, hless⟩
      exact ⟨⟨hs.left, hunsettled⟩,
        work_stepStarlink config now hinternal hless⟩
  | recordSettled k saved =>
      rcases henabled.right with ⟨call, hcall, hpending, _⟩
      refine ⟨?_, work_settleRecord hcall hpending saved⟩
      rcases settleRecord_servers app k saved with ⟨htracker, hstarlink⟩
      show (app.settleRecord k saved).tracker.Unsettled ∧
        (app.settleRecord k saved).starlink.Unsettled
      rw [htracker, hstarlink]
      exact hs
  | polling e =>
      exact ⟨hs, Nat.add_lt_add_left
        (pollsWork_step henabled.right.right henabled.right.left hinternal) _⟩

/-- Where something is under way, a part of it can get on. -/
theorem exists_internal (hwork : app.work ≠ 0) :
    exists e : AppEvent Socket Id, e.Internal ∧ e.Enabled app := by
  by_cases htracker : app.tracker.work = 0
  · by_cases hstarlink : app.starlink.work = 0
    · by_cases hcalls : (app.dispatched.map Dispatch.work).sum = 0
      · have hpolls : (app.outbox.polls.map pollWork).sum ≠ 0 := by
          intro hzero
          apply hwork
          unfold Application.work
          rw [htracker, hstarlink, hcalls, hzero]
        rcases exists_job_of_work pollWork hpolls with ⟨i, poll, hpoll, hleft⟩
        have hphaseOf : app.outbox.phaseOf i = some poll.phase :=
          Option.map_eq_some_iff.mpr ⟨poll, hpoll, rfl⟩
        unfold pollWork at hleft
        generalize poll.phase = phase at hphaseOf hleft
        cases phase with
        | querying =>
            rcases Outbox.exists_found_enabled hphaseOf with ⟨rows, hfound⟩
            exact ⟨AppEvent.polling (OutboxEvent.found i rows), trivial, trivial,
              trivial, hfound⟩
        | marking rows =>
            exact ⟨AppEvent.polling (OutboxEvent.marked i 0), trivial, trivial,
              trivial, rows, hphaseOf⟩
        | responded response => exact absurd rfl hleft
        | failed => exact absurd rfl hleft
      · rcases exists_job_of_work Dispatch.work hcalls with
          ⟨k, call, hcall, hleft⟩
        refine ⟨AppEvent.recordSettled k none, trivial, trivial, call, hcall, ?_,
          fun _ hid => nomatch hid⟩
        by_contra hsettled
        apply hleft
        unfold Dispatch.work
        cases hrecord : call.record with
        | pending => exact absurd hrecord hsettled
        | recorded id => rfl
        | rejected => rfl
    · rcases Starlink.exists_internal hstarlink with
        ⟨e, hinternal, henabled, hreturns⟩
      refine ⟨AppEvent.starlink e 0, hinternal, ?_, henabled⟩
      cases e with
      | thenRuns i outcome throws => exact hreturns i outcome throws rfl
      | _ => trivial
  · rcases Tracker.exists_internal htracker with
      ⟨e, hinternal, henabled, hreturns⟩
    refine ⟨AppEvent.tracker e 0, hinternal, ?_, henabled⟩
    cases e with
    | thenRuns i outcome throws => exact hreturns i outcome throws rfl
    | _ => trivial

def settling : Settling (application Socket Id config) where
  Inv := Application.Unsettled
  Internal := AppEvent.Internal
  work := Application.work
  kept _ _ hs henabled hinternal :=
    (internal_step config hs henabled hinternal).left
  decreases _ _ hs henabled hinternal :=
    (internal_step config hs henabled hinternal).right
  progress _ _ hwork := exists_internal hwork

variable {config} {history : List (AppEvent Socket Id)}

theorem unsettled_of_legal
    (h : (application Socket Id config).Legal history) :
    ((application Socket Id config).stateAfter history).Unsettled := by
  rcases tracker_component h with ⟨hlegal, hstate⟩
  rcases starlink_component h with ⟨hlegal', hstate'⟩
  constructor
  · rw [← hstate]
    exact Tracker.unsettled_of_legal hlegal
  · rw [← hstate']
    exact Starlink.unsettled_of_legal hlegal'

/-- At rest every row of either server has been dispatched once. -/
structure Application.ReportsDispatched (app : Application Socket Id) :
    Prop where
  tracker : (app.dispatched.filterMap Dispatch.trackerSaved?).Perm
    app.tracker.reports
  starlink : (app.dispatched.filterMap Dispatch.starlinkSaved?).Perm
    app.starlink.reports

theorem reportsDispatched_atRest
    (h : (application Socket Id config).Legal history)
    (hrest : ((application Socket Id config).stateAfter history).AtRest) :
    ((application Socket Id config).stateAfter history).ReportsDispatched where
  tracker := (trackerReports_dispatched h).trans (List.Perm.of_eq
    (announcedReports_finished (trackerRowsSaved h) hrest.tracker.left))
  starlink := (starlinkReports_dispatched h).trans (List.Perm.of_eq
    (announcedStarlinkReports_finished (starlinkRowsSaved h) hrest.starlink.left))

/-- From every reachable state the application can come to rest without another
byte or request; left alone it always does so, after at most as many events as
it has parts to run, those of chains and the marks counted twice, and then every
chain, record and request has come to an end and every row either server has
saved has been dispatched once. -/
theorem application_settles (run : (application Socket Id config).Run) :
    let M := application Socket Id config
    let app := M.stateAfter run.history
    (exists events, (forall e, e ∈ events -> e.Internal) ∧
        M.LegalFrom app events ∧ (M.stateFrom app events).AtRest) ∧
      forall events, (forall e, e ∈ events -> e.Internal) ->
        M.LegalFrom app events -> events.length ≤ app.work ∧
          ((forall e : AppEvent Socket Id, e.Internal ->
              ¬ e.Enabled (M.stateFrom app events)) ->
            (M.stateFrom app events).AtRest ∧
              (M.stateFrom app events).ReportsDispatched) := by
  intro M app
  rcases (settling config).settles (unsettled_of_legal run.legal) with
    ⟨⟨settled, honly, hlegal, hzero⟩, hbound⟩
  refine ⟨⟨settled, honly, hlegal, Application.work_eq_zero_iff.mp hzero⟩, ?_⟩
  intro events honly hlegal
  rcases hbound events honly hlegal with ⟨hlength, hstuck⟩
  refine ⟨hlength, fun hquiet => ?_⟩
  have hrest : (M.stateFrom app events).AtRest :=
    Application.work_eq_zero_iff.mp (hstuck hquiet)
  have hstate : M.stateFrom app events =
      M.stateAfter (run.history ++ events) :=
    (EventSystem.stateFrom_append _ _ _).symm
  refine ⟨hrest, ?_⟩
  rw [hstate] at hrest ⊢
  exact reportsDispatched_atRest
    (EventSystem.legalFrom_append.mpr ⟨run.legal, hlegal⟩) hrest

end Runs

end Publishing
end AvtTracker
