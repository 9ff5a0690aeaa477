import AvtTracker.Monitoring.Controllers
import AvtTracker.Publishing.OnlineView

/-!
# What a client of the endpoints sees

A request comes at one moment of a run of the application, and its statements are
answered at later ones, with anything in between.  It misses nothing that had
been saved or announced when it came.
-/

namespace AvtTracker
namespace Monitoring

open Foundation Tcp Tracker Starlink Publishing

/-!
## The moments of a request
-/

/-- A request comes, and its two reads happen, in the course of a run. -/
structure RequestMoments {Event : Type} (history : List Event) where
  arrived : List Event
  first : List Event
  second : List Event
  first_later : arrived <+: first
  second_later : first <+: second
  happened : second <+: history

namespace RequestMoments

variable {State Event : Type} {M : EventSystem State Event}
variable {history : List Event} (request : RequestMoments history)

theorem legal_second (h : M.Legal history) : M.Legal request.second :=
  EventSystem.legal_of_prefix request.happened h

theorem legal_first (h : M.Legal history) : M.Legal request.first :=
  EventSystem.legal_of_prefix request.second_later (request.legal_second h)

end RequestMoments

/-!
## Listed reports
-/

section Lists

variable {Report Device : Type} {receivedAt : Nat -> Int}

/-- These rows are the latest ones of a table, in view of the rows it had when the
request came: none of them is missing unless the list is full of later ones. -/
structure LatestSince (receivedAt : Nat -> Int) (limit : Nat)
    (wanted : Nat × Report -> Bool) (saved table rows : List (Nat × Report)) :
    Prop where
  found : forall row, row ∈ rows -> row ∈ table ∧ wanted row = true
  once : (rows.map Prod.fst).Nodup
  ordered : rows.Pairwise (fun a b => receivedAt b.1 ≤ receivedAt a.1)
  length_le : rows.length ≤ limit
  complete : forall row, row ∈ saved -> wanted row = true ->
    row ∈ rows ∨ rows.length = limit ∧
      forall other, other ∈ rows -> receivedAt row.1 ≤ receivedAt other.1

theorem latestSince_of_finds {limit : Nat} {wanted : Nat × Report -> Bool}
    {saved table rows : List (Nat × Report)} (hgrown : saved <+: table)
    (honce : (table.map Prod.fst).Nodup)
    (hfinds : FindsLatest receivedAt limit (table.filter wanted) rows) :
    LatestSince receivedAt limit wanted saved table rows where
  found row hrow := List.mem_filter.mp (hfinds.mem hrow)
  once := hfinds.nodup_map (honce.sublist (List.filter_sublist.map Prod.fst))
  ordered := hfinds.pairwise.imp fun h => Int.neg_le_neg_iff.mp h
  length_le := hfinds.length_le
  complete row hrow hwanted := by
    have hmem : row ∈ table.filter wanted :=
      List.mem_filter.mpr ⟨hgrown.subset hrow, hwanted⟩
    rcases hfinds.complete hmem with hpicked | ⟨hfull, hlater⟩
    · exact Or.inl hpicked
    · exact Or.inr ⟨hfull, fun other hother =>
        Int.neg_le_neg_iff.mp (hlater other hother)⟩

/-- What a request for the reports of a device is answered with, in view of the
rows saved when it came. -/
structure ListAnswered (receivedAt : Nat -> Int) (deviceIdOf : Report -> String)
    (deviceId : String) (options : FindReportsOptions)
    (saved table : List (Nat × Report))
    (answer : HttpAnswer (ReportList Report)) : Prop where
  notFound : forall message, answer = HttpAnswer.notFound message ->
    forall row, row ∈ saved -> deviceIdOf row.2 ≠ deviceId
  ok : forall body, answer = HttpAnswer.ok body ->
    body.deviceId = deviceId ∧ exists rows,
      LatestSince receivedAt (takeLimit options.limit)
        (wantedRow receivedAt deviceIdOf deviceId options) saved table rows ∧
      body.count = rows.length ∧ body.reports = rows.map Prod.snd

theorem listAnswered {deviceIdOf : Report -> String} {deviceId : String}
    {options : FindReportsOptions} {saved table found : List (Nat × Report)}
    {device : Option Device} (hgrown : saved <+: table)
    (honce : (table.map Prod.fst).Nodup)
    (hdevice : forall row, row ∈ saved -> deviceIdOf row.2 = deviceId ->
      device.isSome = true)
    (hfinds : FindsReports receivedAt deviceIdOf deviceId options table found)
    (message : String) :
    ListAnswered receivedAt deviceIdOf deviceId options saved table
      (listReports message device deviceId found) := by
  cases hknown : device with
  | none =>
      constructor
      · intro _ _ row hrow hsame
        have hsome := hdevice row hrow hsame
        rw [hknown] at hsome
        cases hsome
      · intro body hbody
        cases hbody
  | some row =>
      constructor
      · intro _ hanswer
        cases hanswer
      · intro body hbody
        injection hbody with hbody
        rw [← hbody]
        exact ⟨rfl, found, latestSince_of_finds hgrown honce hfinds, rfl, rfl⟩

/-- What a request for the recent events is answered with. -/
structure RecentAnswered {Event : Type} (receivedAt : Nat -> Int)
    (shown : Report -> Event) (limit : Option Int)
    (saved table : List (Nat × Report)) (answer : RecentEvents Event) :
    Prop where
  latest : exists rows,
    LatestSince receivedAt (effectiveLimit limit) (fun _ => true) saved table
        rows ∧
      answer.count = rows.length ∧
      answer.events = rows.map (fun row => shown row.2)
  count_le : answer.count ≤ 500

theorem effectiveLimit_le (limit : Option Int) : effectiveLimit limit ≤ 500 := by
  cases limit with
  | none => exact (by decide : 50 ≤ 500)
  | some limit =>
      show (if limit > 0 then min limit.toNat 500 else 50) ≤ 500
      by_cases h : limit > 0
      · rw [if_pos h]
        exact Nat.min_le_right _ _
      · rw [if_neg h]
        decide

theorem recentAnswered {Event : Type} {shown : Report -> Event}
    {limit : Option Int} {saved table found : List (Nat × Report)}
    (hgrown : saved <+: table) (honce : (table.map Prod.fst).Nodup)
    (hfinds : FindsLatest receivedAt (effectiveLimit limit) table found) :
    RecentAnswered receivedAt shown limit saved table
      (monitorRecentEvents shown found) where
  latest := by
    refine ⟨found, latestSince_of_finds hgrown honce ?_, rfl, rfl⟩
    rw [List.filter_true]
    exact hfinds
  count_le := Nat.le_trans hfinds.length_le (effectiveLimit_le limit)

end Lists

section Rows

variable {Socket Id : Type} [DecidableEq Socket] [DecidableEq Id]
variable {config : AppConfig} {history : List (AppEvent Socket Id)}

theorem trackerReports_grown {seen : List (AppEvent Socket Id)}
    (hseen : seen <+: history)
    (h : (application Socket Id config).Legal history) :
    ((application Socket Id config).stateAfter seen).tracker.reports <+:
      ((application Socket Id config).stateAfter history).tracker.reports := by
  refine EventSystem.log_prefix (fun app => app.tracker.reports) ?_ hseen h
  intro history e _ _
  generalize (application Socket Id config).stateAfter history = app
  cases e with
  | tracker e now =>
      exact (trackerGrows app.tracker config.trackerMaxBufferBytes e).reports
  | starlink e now => exact List.prefix_rfl
  | recordSettled k saved =>
      show app.tracker.reports <+: (app.settleRecord k saved).tracker.reports
      rw [(settleRecord_servers app k saved).left]
  | polling e => exact List.prefix_rfl

theorem starlinkReports_grown {seen : List (AppEvent Socket Id)}
    (hseen : seen <+: history)
    (h : (application Socket Id config).Legal history) :
    ((application Socket Id config).stateAfter seen).starlink.reports <+:
      ((application Socket Id config).stateAfter
        history).starlink.reports := by
  refine EventSystem.log_prefix (fun app => app.starlink.reports) ?_ hseen h
  intro history e hlegal henabled
  cases e with
  | tracker e now => exact List.prefix_rfl
  | starlink e now => exact (starlinkGrows hlegal henabled.right).reports
  | recordSettled k saved =>
      generalize (application Socket Id config).stateAfter history = app
      show app.starlink.reports <+: (app.settleRecord k saved).starlink.reports
      rw [(settleRecord_servers app k saved).right]
  | polling e => exact List.prefix_rfl

theorem trackerDevice_known {seen : List (AppEvent Socket Id)}
    (hseen : seen <+: history)
    (h : (application Socket Id config).Legal history)
    {row : Nat × TrackerReport}
    (hrow : row ∈
      ((application Socket Id config).stateAfter seen).tracker.reports) :
    (((application Socket Id config).stateAfter
      history).tracker.devices.lookup row.2.imei).isSome = true := by
  rcases exists_trackerOrder h with ⟨order, hacc⟩
  exact AList.lookup_isSome.mpr
    (hacc.ownerOf_mem ((trackerReports_grown hseen h).subset hrow))

theorem starlinkDevice_known {seen : List (AppEvent Socket Id)}
    (hseen : seen <+: history)
    (h : (application Socket Id config).Legal history)
    {row : Nat × StarlinkReport}
    (hrow : row ∈
      ((application Socket Id config).stateAfter seen).starlink.reports) :
    (((application Socket Id config).stateAfter
      history).starlink.devices.lookup row.2.deviceId).isSome = true := by
  rcases exists_starlinkOrder h with ⟨order, hacc⟩
  exact AList.lookup_isSome.mpr
    (hacc.ownerOf_mem ((starlinkReports_grown hseen h).subset hrow))

/-- What lists of reports and of recent events say, in view of the rows that were
saved when the request came: the device is looked up at the first read, and the
rows at the second. -/
structure ReportsListed (receivedAt : Nat -> Int)
    (arrived first second : Application Socket Id) : Prop where
  tracker : forall deviceId options found,
    FindsReports receivedAt TrackerReport.imei deviceId options
        second.tracker.reports found ->
      ListAnswered receivedAt TrackerReport.imei deviceId options
        arrived.tracker.reports second.tracker.reports
        (TrackerController.listReports (first.tracker.devices.lookup deviceId)
          deviceId found)
  starlink : forall deviceId options found,
    FindsReports receivedAt StarlinkReport.deviceId deviceId options
        second.starlink.reports found ->
      ListAnswered receivedAt StarlinkReport.deviceId deviceId options
        arrived.starlink.reports second.starlink.reports
        (StarlinkController.listReports
          (first.starlink.devices.lookup deviceId) deviceId found)
  trackerRecent : forall limit found,
    FindsLatest receivedAt (effectiveLimit limit) second.tracker.reports
        found ->
      RecentAnswered receivedAt TrackerController.recentEvent limit
        arrived.tracker.reports second.tracker.reports
        (TrackerController.monitorRecentEvents found)
  starlinkRecent : forall limit found,
    FindsLatest receivedAt (effectiveLimit limit) second.starlink.reports
        found ->
      RecentAnswered receivedAt StarlinkController.recentEvent limit
        arrived.starlink.reports second.starlink.reports
        (StarlinkController.monitorRecentEvents found)

/-- However the run goes on while a request is under way, a list of the reports
of a device misses no report that had been saved when the request came unless it
is full of later ones, and no device that has a saved report is unknown. -/
theorem reports_listed (receivedAt : Nat -> Int)
    (run : (application Socket Id config).Run)
    (request : RequestMoments run.history) :
    let M := application Socket Id config
    ReportsListed receivedAt (M.stateAfter request.arrived)
      (M.stateAfter request.first) (M.stateAfter request.second) := by
  have hfirst := request.legal_first run.legal
  have hsecond := request.legal_second run.legal
  have hlater := request.first_later.trans request.second_later
  have htracker := trackerReports_grown hlater hsecond
  have hstarlink := starlinkReports_grown hlater hsecond
  have honce := (trackerRowsSaved hsecond).rows_once
  have honce' := (starlinkRowsSaved hsecond).rows_once
  refine ⟨?_, ?_, ?_, ?_⟩
  · intro deviceId options found hfinds
    refine listAnswered htracker honce ?_ hfinds _
    rintro row hrow rfl
    exact trackerDevice_known request.first_later hfirst hrow
  · intro deviceId options found hfinds
    refine listAnswered hstarlink honce' ?_ hfinds _
    rintro row hrow rfl
    exact starlinkDevice_known request.first_later hfirst hrow
  · exact fun _ _ hfinds => recentAnswered htracker honce hfinds
  · exact fun _ _ hfinds => recentAnswered hstarlink honce' hfinds

end Rows

/-!
## Listed devices
-/

section Overviews

variable {Socket Device Entry : Type}

/-- Devices as a list shows them: each once, as online as they are, and none
missing that had a report when the request came. -/
structure DevicesShown (idOf : Entry -> String) (onlineOf : Entry -> Bool)
    (online : String -> Bool) (reported : List String)
    (entries : List Entry) : Prop where
  once : (entries.map idOf).Nodup
  online : forall entry, entry ∈ entries ->
    onlineOf entry = online (idOf entry)
  listed : forall deviceId, deviceId ∈ reported ->
    exists entry, entry ∈ entries ∧ idOf entry = deviceId

/-- In an overview exactly the devices shown online have the times of their
connections. -/
structure OverviewAnswered (online : String -> Bool) (reported : List String)
    (answer : Overview) : Prop where
  shown : DevicesShown (fun entry : OverviewEntry => entry.deviceId)
    OverviewEntry.online online reported answer.devices
  total : answer.totalDevices = answer.devices.length
  times : forall entry, entry ∈ answer.devices ->
    entry.connectedAt.isSome = entry.online ∧
      entry.lastActivityAt.isSome = entry.online
  connectedNow : (answer.devices.filter OverviewEntry.online).length ≤
    answer.connectedNow

theorem devicesShown {devices : AList (fun _ : String => Device)}
    {found : List Device} {nameOf : Device -> String} {entryOf : Device -> Entry}
    {idOf : Entry -> String} {onlineOf : Entry -> Bool}
    {online : String -> Bool} {reported : List String}
    (hfound : found.Perm (devices.entries.map Sigma.snd))
    (hnamed : forall deviceId device, devices.lookup deviceId = some device ->
      nameOf device = deviceId)
    (hid : forall device, idOf (entryOf device) = nameOf device)
    (honline : forall device,
      onlineOf (entryOf device) = online (nameOf device))
    (hreported : forall deviceId, deviceId ∈ reported ->
      (devices.lookup deviceId).isSome = true) :
    DevicesShown idOf onlineOf online reported (found.map entryOf) := by
  have hkeys : ((found.map entryOf).map idOf).Perm devices.keys := by
    rw [List.map_map]
    refine (hfound.map _).trans (List.Perm.of_eq ?_)
    rw [List.map_map]
    refine List.map_congr_left fun entry hentry => ?_
    exact (hid entry.2).trans
      (hnamed entry.1 entry.2 (AList.mem_lookup_iff.mpr hentry))
  refine ⟨hkeys.nodup_iff.mpr devices.keys_nodup, ?_, ?_⟩
  · intro entry hentry
    rcases List.mem_map.mp hentry with ⟨device, _, rfl⟩
    rw [hid]
    exact honline device
  · intro deviceId hmem
    have hkey : deviceId ∈ devices.keys :=
      AList.lookup_isSome.mp (hreported deviceId hmem)
    rw [← hkeys.mem_iff] at hkey
    exact List.mem_map.mp hkey

theorem online_length_le {registry : ConnectionRegistry Socket}
    {entries : List OverviewEntry}
    (honce : (entries.map (fun entry => entry.deviceId)).Nodup)
    (honline : forall entry, entry ∈ entries -> entry.online = true ->
      registry.isConnected entry.deviceId = true) :
    (entries.filter OverviewEntry.online).length ≤
      registry.connectedCount := by
  have hnodup : ((entries.filter OverviewEntry.online).map
      (fun entry => entry.deviceId)).Nodup :=
    honce.sublist (List.filter_sublist.map _)
  have hsub : (entries.filter OverviewEntry.online).map
      (fun entry => entry.deviceId) ⊆ registry.sockets.keys := by
    intro deviceId hmem
    rcases List.mem_map.mp hmem with ⟨entry, hentry, rfl⟩
    rcases List.mem_filter.mp hentry with ⟨hentry, hon⟩
    exact AList.lookup_isSome.mp
      (ConnectionRegistry.isConnected_iff.mp (honline entry hentry hon))
  have hlength := (List.subperm_of_subset hnodup hsub).length_le
  rw [List.length_map] at hlength
  refine Nat.le_trans hlength (Nat.le_of_eq ?_)
  exact List.length_map _

theorem overviewAnswered {columns : Device -> DeviceColumns}
    {found : List Device} {registry : ConnectionRegistry Socket}
    {online : String -> Bool} {reported : List String}
    (hkeys : forall deviceId, (registry.getConnectionInfo deviceId).isSome =
      registry.isConnected deviceId)
    (honline : forall deviceId,
      online deviceId = registry.isConnected deviceId)
    (hshown : DevicesShown (fun entry : OverviewEntry => entry.deviceId)
      OverviewEntry.online online reported
      (monitorOverview columns found registry).devices) :
    OverviewAnswered online reported
      (monitorOverview columns found registry) where
  shown := hshown
  total := (List.length_map _).symm
  times entry hentry := by
    rcases List.mem_map.mp hentry with ⟨device, _, rfl⟩
    exact ⟨Option.isSome_map.trans (hkeys _),
      Option.isSome_map.trans (hkeys _)⟩
  connectedNow := online_length_le hshown.once fun entry hentry hon =>
    (honline entry.deviceId).symm.trans
      ((hshown.online entry hentry).symm.trans hon)

end Overviews

section Registries

variable {Socket Id : Type} [DecidableEq Socket] [DecidableEq Id]
variable {config : AppConfig} {history : List (AppEvent Socket Id)}

omit [DecidableEq Id] in
theorem getConnectionInfo_isSome {Message : Type} {P : Protocol Message}
    {trace : List (ServerEvent Socket Message)}
    (h : (P.server Socket).Legal trace) (deviceId : String) :
    ((P.after trace).registry.getConnectionInfo deviceId).isSome =
      (P.after trace).registry.isConnected deviceId :=
  ((P.registryExact h).keys deviceId).trans
    (Bool.eq_iff_iff.mpr ConnectionRegistry.isConnected_iff.symm)

theorem registries_exact (h : (application Socket Id config).Legal history) :
    let app := (application Socket Id config).stateAfter history
    (forall deviceId,
      (app.tracker.tcp.registry.getConnectionInfo deviceId).isSome =
        app.tracker.tcp.registry.isConnected deviceId) ∧
    forall deviceId,
      (app.starlink.tcp.registry.getConnectionInfo deviceId).isSome =
        app.starlink.tcp.registry.isConnected deviceId := by
  intro app
  constructor
  · rcases tracker_component h with ⟨hlegal, hstate⟩
    rcases Tracker.exists_connection_run hlegal with ⟨trace, htrace, htcp⟩
    rw [hstate] at htcp
    rw [← htcp]
    exact getConnectionInfo_isSome htrace
  · rcases starlink_component h with ⟨hlegal, hstate⟩
    rcases exists_line_run hlegal with ⟨lines, hlines, hunsplit, _⟩
    rcases Starlink.exists_connection_run hlines with ⟨trace, htrace, htcp⟩
    rw [hunsplit, hstate] at htcp
    rw [show app.starlink.tcp = starlinkProtocol.after trace from htcp.symm]
    exact getConnectionInfo_isSome htrace

theorem trackerDevice_named
    (h : (application Socket Id config).Legal history) {imei : String}
    {device : TrackerDevice}
    (hdevice : ((application Socket Id config).stateAfter
      history).tracker.devices.lookup imei = some device) :
    device.imei = imei := by
  rcases exists_trackerOrder h with ⟨order, hacc⟩
  have howners := hacc.serial.owners
  rw [show ((application Socket Id config).stateAfter
    history).tracker.devices = _ from howners] at hdevice
  exact Upserts.key_upsertAll (fun _ => rfl) (fun _ _ => rfl) _ hdevice

theorem starlinkDevice_named
    (h : (application Socket Id config).Legal history) {deviceId : String}
    {device : StarlinkDevice}
    (hdevice : ((application Socket Id config).stateAfter
      history).starlink.devices.lookup deviceId = some device) :
    device.deviceId = deviceId := by
  rcases exists_starlinkOrder h with ⟨order, hacc⟩
  have howners := hacc.serial.owners
  rw [show ((application Socket Id config).stateAfter
    history).starlink.devices = _ from howners] at hdevice
  exact Upserts.key_upsertAll (fun _ => rfl) (fun _ _ => rfl) _ hdevice

/-- What the overviews and device lists of both servers say: the rows of the
devices are read first, and the registry when they have arrived. -/
structure DevicesListed (arrived first second : Application Socket Id) :
    Prop where
  tracker : forall found,
    FindsAllDevices TrackerDevice.lastSeenAt first.tracker.devices found ->
      let online := lastChange (second.dispatched.filterMap (fun call =>
        trackerChange call.event.eventType call.event.imei))
      let reported := arrived.tracker.reports.map (fun row => row.2.imei)
      let registry := second.tracker.tcp.registry
      OverviewAnswered online reported
          (TrackerController.monitorOverview found registry) ∧
        DevicesShown TrackerController.DeviceEntry.imei
          TrackerController.DeviceEntry.online online reported
          (TrackerController.listDevices found registry)
  starlink : forall found,
    FindsAllDevices StarlinkDevice.lastSeenAt first.starlink.devices found ->
      let online := lastChange (second.dispatched.filterMap (fun call =>
        starlinkChange call.event.eventType call.event.imei))
      let reported := arrived.starlink.reports.map (fun row =>
        row.2.deviceId)
      let registry := second.starlink.tcp.registry
      OverviewAnswered online reported
          (StarlinkController.monitorOverview found registry) ∧
        DevicesShown StarlinkController.DeviceEntry.deviceId
          StarlinkController.DeviceEntry.online online reported
          (StarlinkController.listDevices found registry)

/-- However the run goes on while a request is under way, overviews and lists of
devices show every device that had a report when the request came, each once, and
as online exactly if the last connection event dispatched about it says so; in an
overview exactly these have the times of their connections. -/
theorem devices_listed (run : (application Socket Id config).Run)
    (request : RequestMoments run.history) :
    let M := application Socket Id config
    DevicesListed (M.stateAfter request.arrived) (M.stateAfter request.first)
      (M.stateAfter request.second) := by
  intro M
  let first := M.stateAfter request.first
  have hfirst := request.legal_first run.legal
  have hsecond := request.legal_second run.legal
  rcases registries_exact hsecond with ⟨hkeys, hkeys'⟩
  have hknows := knowsOnline hsecond
  have htracker := hknows.tracker
  have hstarlink := hknows.starlink
  rw [List.filterMap_map] at htracker hstarlink
  constructor
  · intro found hfound online reported registry
    have hnamed : forall imei device,
        first.tracker.devices.lookup imei = some device ->
          device.imei = imei := fun _ _ => trackerDevice_named hfirst
    have honline : forall device : TrackerDevice,
        registry.isConnected device.imei = online device.imei :=
      fun device => (htracker device.imei).symm
    have hreported : forall imei, imei ∈ reported ->
        (first.tracker.devices.lookup imei).isSome = true := by
      intro imei hmem
      rcases List.mem_map.mp hmem with ⟨row, hrow, rfl⟩
      exact trackerDevice_known request.first_later hfirst hrow
    exact ⟨overviewAnswered hkeys htracker (devicesShown hfound.left hnamed
        (fun _ => rfl) honline hreported),
      devicesShown hfound.left hnamed (fun _ => rfl) honline hreported⟩
  · intro found hfound online reported registry
    have hnamed : forall deviceId device,
        first.starlink.devices.lookup deviceId = some device ->
          device.deviceId = deviceId := fun _ _ => starlinkDevice_named hfirst
    have honline : forall device : StarlinkDevice,
        registry.isConnected device.deviceId = online device.deviceId :=
      fun device => (hstarlink device.deviceId).symm
    have hreported : forall deviceId, deviceId ∈ reported ->
        (first.starlink.devices.lookup deviceId).isSome = true := by
      intro deviceId hmem
      rcases List.mem_map.mp hmem with ⟨row, hrow, rfl⟩
      exact starlinkDevice_known request.first_later hfirst hrow
    exact ⟨overviewAnswered hkeys' hstarlink (devicesShown hfound.left hnamed
        (fun _ => rfl) honline hreported),
      devicesShown hfound.left hnamed (fun _ => rfl) honline hreported⟩

end Registries

end Monitoring
end AvtTracker
