import AvtTracker.Publishing.Delivery

/-!
# The devices that are online, in the eyes of a consumer

A consumer of the events learns of connections and disconnections only.  If it
takes the last event about a device for its state, it knows the registries of
both servers: no registration or removal goes unannounced, and none is announced
that does not happen, across reconnections, switches of devices on one socket and
closes of stale sockets.
-/

namespace AvtTracker
namespace Publishing

open Foundation Tcp Tracker Starlink

/-!
## Following changes
-/

def lastChange (changes : List (String × Bool)) (device : String) : Bool :=
  changes.foldl (fun online change =>
    if change.1 = device then change.2 else online) false

/-- The change an event announces, if it is one about a connection. -/
def connectionChange (connectedType disconnectedType eventType imei : String) :
    Option (String × Bool) :=
  if eventType = connectedType then some (imei, true)
  else if eventType = disconnectedType then some (imei, false)
  else none

def trackerChange (eventType imei : String) : Option (String × Bool) :=
  connectionChange "tracker.device.connected" "tracker.device.disconnected"
    eventType imei

def starlinkChange (eventType imei : String) : Option (String × Bool) :=
  connectionChange "starlink.device.connected" "starlink.device.disconnected"
    eventType imei

theorem lastChange_snoc (changes : List (String × Bool))
    (change : String × Bool) (device : String) :
    lastChange (changes ++ [change]) device =
      if change.1 = device then change.2 else lastChange changes device :=
  List.foldl_concat _ _ _ _

/-- Changes that say which devices are registered with a server. -/
def Follows {Socket : Type} (changes : List (String × Bool))
    (t : TcpServer Socket) : Prop :=
  forall device, lastChange changes device = t.registry.isConnected device

section Sockets

variable {Socket Message : Type} [DecidableEq Socket]
variable {t : TcpServer Socket} {socket : Socket}
variable {changes : List (String × Bool)}

/-- The change of a message, which counts only where it is news of its
socket. -/
def connectChanges (t : TcpServer Socket) (socket : Socket)
    (deviceId : String) : List (String × Bool) :=
  if t.deviceId socket = some deviceId then [] else [(deviceId, true)]

def closeChanges (t : TcpServer Socket) (socket : Socket) :
    List (String × Bool) :=
  match t.deviceId socket with
  | none => []
  | some deviceId => if deviceId = "" then [] else [(deviceId, false)]

omit [DecidableEq Socket] in
theorem follows_iff :
    Follows changes t <-> forall device, lastChange changes device =
      (t.registry.getSocket device).isSome := by
  refine forall_congr' fun device => ?_
  rw [show t.registry.isConnected device =
    (t.registry.getSocket device).isSome from
      Bool.eq_iff_iff.mpr ConnectionRegistry.isConnected_iff]

/-- A message that names a device brings it online unless its socket had already
named it. -/
theorem Follows.decoded (h : Follows changes t) (P : Protocol Message)
    (hopen : t.isOpen socket = true) (message : Message) (now : Int) :
    Follows (changes ++ connectChanges t socket (P.deviceIdOf message))
      ((P.server Socket).step t
        (ServerEvent.decoded socket message now)) := by
  rw [follows_iff] at h ⊢
  intro device
  have hsocket : ((P.server Socket).step t
      (ServerEvent.decoded socket message now)).registry.getSocket device =
        (t.registerDevice socket (P.deviceIdOf message)
          now).registry.getSocket device := by
    simp only [Protocol.server]
    cases P.isHeartbeat message with
    | true => exact TcpServer.getSocket_touch now
    | false => rfl
  rw [hsocket, TcpServer.getSocket_registerDevice hopen]
  unfold connectChanges
  by_cases hknown : t.deviceId socket = some (P.deviceIdOf message)
  · rw [if_pos hknown, if_neg (fun hc => hc.right hknown), List.append_nil]
    exact h device
  · rw [if_neg hknown, lastChange_snoc]
    by_cases hdevice : device = P.deviceIdOf message
    · rw [if_pos hdevice.symm, if_pos ⟨hdevice, hknown⟩]
      rfl
    · rw [if_neg (fun hc => hdevice hc.symm),
        if_neg (fun hc => hdevice hc.left)]
      exact h device

/-- The close of a socket takes the device it last named offline, on whichever
socket that is registered. -/
theorem Follows.close (h : Follows changes t) :
    Follows (changes ++ closeChanges t socket) (t.handleClose socket) := by
  rw [follows_iff] at h ⊢
  intro device
  rw [TcpServer.getSocket_handleClose]
  unfold closeChanges
  cases hremembers : t.deviceId socket with
  | none =>
      rw [if_neg (fun hc => nomatch hc.left), List.append_nil]
      exact h device
  | some deviceId =>
      by_cases hempty : deviceId = ""
      · simp only [if_pos hempty]
        rw [List.append_nil, if_neg]
        · exact h device
        · rintro ⟨hsame, hdevice⟩
          exact hdevice ((Option.some.inj hsame).symm.trans hempty)
      · simp only [if_neg hempty]
        rw [lastChange_snoc]
        by_cases hdevice : deviceId = device
        · rw [if_pos hdevice, if_pos ⟨congrArg some hdevice, hdevice ▸ hempty⟩]
          rfl
        · rw [if_neg hdevice,
            if_neg (fun hc => hdevice (Option.some.inj hc.left))]
          exact h device

end Sockets

/-!
## The emissions of the servers
-/

def trackerEmittedChange : Tracker.Emitted -> Option (String × Bool)
  | Tracker.Emitted.deviceConnected imei => some (imei, true)
  | Tracker.Emitted.deviceDisconnected imei => some (imei, false)
  | Tracker.Emitted.reportReceived _ => none

def starlinkEmittedChange : Starlink.Emitted -> Option (String × Bool)
  | Starlink.Emitted.deviceConnected deviceId _ _ _ => some (deviceId, true)
  | Starlink.Emitted.deviceDisconnected deviceId _ _ _ =>
      some (deviceId, false)
  | Starlink.Emitted.reportReceived _ _ _ => none

section Servers

variable {Socket : Type} [DecidableEq Socket]

theorem trackerConnect_changes (s : TrackerTcpServer Socket) (socket : Socket)
    (imei : String) :
    (s.connectEmissions socket imei).filterMap trackerEmittedChange =
      connectChanges s.tcp socket imei := by
  unfold TrackerTcpServer.connectEmissions connectChanges
  by_cases h : s.tcp.deviceId socket = some imei
  · rw [if_pos h, if_pos h]
    rfl
  · rw [if_neg h, if_neg h]
    rfl

theorem trackerClose_changes (s : TrackerTcpServer Socket) (socket : Socket) :
    (s.closeEmissions socket).filterMap trackerEmittedChange =
      closeChanges s.tcp socket := by
  unfold TrackerTcpServer.closeEmissions closeChanges
  cases s.tcp.deviceId socket with
  | none => rfl
  | some imei =>
      by_cases hempty : imei = ""
      · simp only [if_pos hempty]
        rfl
      · simp only [if_neg hempty]
        rfl

def TrackerFollows (s : TrackerTcpServer Socket) : Prop :=
  Follows (s.emitted.filterMap trackerEmittedChange) s.tcp

omit [DecidableEq Socket] in
theorem TrackerFollows.quiet {s s' : TrackerTcpServer Socket}
    (h : TrackerFollows s) (htcp : s'.tcp = s.tcp)
    {e : TrackerEvent Socket} (hgrows : TrackerGrows s s' e)
    (hreports : forall x, TrackerEmits e x ->
      trackerEmittedChange x = none) : TrackerFollows s' := by
  rcases hgrows.emitted with ⟨added, hadded, hkind⟩
  have hnone : added.filterMap trackerEmittedChange = [] :=
    List.filterMap_eq_nil_iff.mpr fun x hx => hreports x (hkind x hx)
  unfold TrackerFollows
  rw [hadded, List.filterMap_append, hnone, List.append_nil, htcp]
  exact h

theorem TrackerFollows.handleFrame {s : TrackerTcpServer Socket}
    {socket : Socket} (h : TrackerFollows s)
    (hopen : s.tcp.isOpen socket = true) (frame : Bytes) (now : Int) :
    TrackerFollows (s.handleFrame socket frame now) := by
  cases hparse : parseFrame frame with
  | error message =>
      rw [s.handleFrame_error socket now hparse]
      exact h
  | ok parsed =>
      rw [s.handleFrame_ok socket now hparse]
      unfold TrackerFollows
      rw [List.filterMap_append, trackerConnect_changes]
      exact Follows.decoded h trackerProtocol hopen parsed.header now

theorem trackerFollows {history : List (TrackerEvent Socket)}
    (h : (frameHandling Socket).Legal history) :
    TrackerFollows ((frameHandling Socket).stateAfter history) := by
  refine EventSystem.invariant ?_ ?_ h
  · intro device
    rfl
  · intro history e _ henabled ih
    rw [EventSystem.stateAfter_snoc]
    generalize (frameHandling Socket).stateAfter history = s at ih henabled
    have hgrows := trackerGrows s 0 e
    cases e with
    | connect socket remoteAddress remotePort => exact ih
    | data socket frame now => exact ih.handleFrame henabled frame now
    | close socket =>
        show TrackerFollows (s.handleClose socket)
        rw [s.handleClose_eq socket]
        unfold TrackerFollows
        rw [List.filterMap_append, trackerClose_changes]
        exact Follows.close ih
    | markSettled j accepted =>
        exact ih.quiet (s.settleMark_tcp j accepted) hgrows
          fun x hx => nomatch hx
    | upsertSettled i accepted =>
        exact ih.quiet (s.settleUpsert_tcp i accepted) hgrows
          fun x hx => nomatch hx
    | saveSettled i accepted =>
        exact ih.quiet (s.settleSave_tcp i accepted) hgrows
          fun x hx => nomatch hx
    | thenRuns i outcome listenerThrows =>
        refine ih.quiet (s.runThen_tcp i outcome listenerThrows) hgrows ?_
        intro x hx
        cases hx with
        | report => rfl
    | catchRuns i outcome failed =>
        exact ih.quiet rfl hgrows fun x hx => nomatch hx
    | finallyRuns i outcome =>
        exact ih.quiet (s.runFinally_tcp i outcome) hgrows
          fun x hx => nomatch hx

theorem starlinkConnect_changes (s : StarlinkTcpServer Socket)
    (socket : Socket) (deviceId : String) (now : Int) :
    (s.connectEmissions socket deviceId now).filterMap
        starlinkEmittedChange = connectChanges s.tcp socket deviceId := by
  unfold StarlinkTcpServer.connectEmissions connectChanges
  by_cases h : s.tcp.deviceId socket = some deviceId
  · rw [if_pos h, if_pos h]
    rfl
  · rw [if_neg h, if_neg h]
    rfl

theorem starlinkClose_changes (s : StarlinkTcpServer Socket)
    (socket : Socket) (now : Int) :
    (s.closeEmissions socket now).filterMap starlinkEmittedChange =
      closeChanges s.tcp socket := by
  unfold StarlinkTcpServer.closeEmissions closeChanges
  cases s.tcp.deviceId socket with
  | none => rfl
  | some deviceId =>
      by_cases hempty : deviceId = ""
      · simp only [if_pos hempty]
        rfl
      · simp only [if_neg hempty]
        rfl

def StarlinkFollows (s : StarlinkTcpServer Socket) : Prop :=
  Follows (s.emitted.filterMap starlinkEmittedChange) s.tcp

theorem StarlinkFollows.quiet {Input : Type} {s : StarlinkTcpServer Socket}
    (h : StarlinkFollows s) {e : StarlinkEvent Socket Input}
    (hinternal : e.Internal) : StarlinkFollows (s.handle e) := by
  rcases starlinkEmits_internal s hinternal with ⟨added, hadded, _, hreport⟩
  have hnone : added.filterMap starlinkEmittedChange = [] := by
    refine List.filterMap_eq_nil_iff.mpr fun x hx => ?_
    rcases hreport x hx with ⟨deviceId, i, saved, rfl⟩
    rfl
  have htcp : (s.handle e).tcp = s.tcp := by
    rw [s.tcp_handle e]
    cases e with
    | connect _ _ _ => exact hinternal.elim
    | close _ _ => exact hinternal.elim
    | _ => rfl
  unfold StarlinkFollows
  rw [hadded, List.filterMap_append, hnone, List.append_nil, htcp]
  exact h

theorem StarlinkFollows.handleLine {s : StarlinkTcpServer Socket}
    {socket : Socket} (h : StarlinkFollows s)
    (hopen : s.tcp.isOpen socket = true) (tags : List String) (line : Utf16)
    (now : Int) : StarlinkFollows (s.handleLine tags socket line now) := by
  cases hparse : Starlink.parseFrame line tags with
  | error message =>
      rw [s.handleLine_error socket now hparse]
      exact h
  | ok parsed =>
      rw [s.handleLine_ok socket now hparse]
      unfold StarlinkFollows
      rw [List.filterMap_append, starlinkConnect_changes]
      exact Follows.decoded h starlinkProtocol hopen parsed.header now

theorem starlinkFollows {tags : List String}
    {history : List (StarlinkEvent Socket Utf16)}
    (h : (lineHandling Socket tags).Legal history) :
    StarlinkFollows ((lineHandling Socket tags).stateAfter history) := by
  refine EventSystem.invariant ?_ ?_ h
  · intro device
    rfl
  · intro history e _ henabled ih
    rw [EventSystem.stateAfter_snoc]
    generalize (lineHandling Socket tags).stateAfter history = s
      at ih henabled
    have hquiet : e.Internal -> StarlinkFollows (s.handle e) := ih.quiet
    cases e with
    | connect socket remoteAddress remotePort => exact ih
    | data socket line now => exact ih.handleLine henabled tags line now
    | close socket now =>
        show StarlinkFollows (s.handleClose socket now)
        rw [s.handleClose_eq socket now]
        unfold StarlinkFollows
        rw [List.filterMap_append, starlinkClose_changes]
        exact Follows.close ih
    | markSettled j accepted => exact hquiet trivial
    | upsertSettled i accepted => exact hquiet trivial
    | saveSettled i accepted => exact hquiet trivial
    | thenRuns i outcome listenerThrows => exact hquiet trivial
    | catchRuns i outcome failed => exact hquiet trivial

end Servers

/-!
## What a consumer knows
-/

section Runs

variable {Socket Id : Type} {config : AppConfig}
variable {history : List (AppEvent Socket Id)} {app : Application Socket Id}

theorem Describes.changes {emission : Emission} {event : DomainEvent}
    (h : Describes history app emission event) :
    trackerChange event.eventType event.imei =
        emission.tracker?.bind trackerEmittedChange ∧
      starlinkChange event.eventType event.imei =
        emission.starlink?.bind starlinkEmittedChange := by
  cases h <;> exact ⟨rfl, rfl⟩

/-- Events, by their types and devices, that say which devices are online. -/
structure KnowsOnline (app : Application Socket Id)
    (events : List (String × String)) : Prop where
  tracker : Follows (events.filterMap (fun event =>
    trackerChange event.1 event.2)) app.tracker.tcp
  starlink : Follows (events.filterMap (fun event =>
    starlinkChange event.1 event.2)) app.starlink.tcp

theorem FannedOut.changes (h : FannedOut config history app) :
    app.dispatched.filterMap (fun call =>
        trackerChange call.event.eventType call.event.imei) =
      app.tracker.emitted.filterMap trackerEmittedChange ∧
    app.dispatched.filterMap (fun call =>
        starlinkChange call.event.eventType call.event.imei) =
      app.starlink.emitted.filterMap starlinkEmittedChange := by
  rw [← h.tracker, ← h.starlink, List.filterMap_filterMap,
    List.filterMap_filterMap]
  exact ⟨List.filterMap_congr fun call hcall =>
      (h.described call hcall).changes.left,
    List.filterMap_congr fun call hcall =>
      (h.described call hcall).changes.right⟩

variable [DecidableEq Socket] [DecidableEq Id]

theorem emissions_follow (h : (application Socket Id config).Legal history) :
    let app := (application Socket Id config).stateAfter history
    TrackerFollows app.tracker ∧ StarlinkFollows app.starlink := by
  intro app
  rcases tracker_component h with ⟨hlegal, hstate⟩
  rcases starlink_component h with ⟨hlegal', hstate'⟩
  rcases exists_frame_run hlegal with ⟨frames, hframes, hunsplit, _⟩
  rcases exists_line_run hlegal' with ⟨lines, hlines, hunsplit', _⟩
  have htracker := trackerFollows hframes
  have hstarlink := starlinkFollows hlines
  rw [hunsplit, hstate] at htracker
  rw [hunsplit', hstate'] at hstarlink
  exact ⟨htracker, hstarlink⟩

theorem knowsOnline (h : (application Socket Id config).Legal history) :
    let app := (application Socket Id config).stateAfter history
    KnowsOnline app (app.dispatched.map (fun call =>
      (call.event.eventType, call.event.imei))) := by
  intro app
  rcases (fannedOut h).changes with ⟨htracker, hstarlink⟩
  rcases emissions_follow h with ⟨hfollows, hfollows'⟩
  unfold TrackerFollows at hfollows
  unfold StarlinkFollows at hfollows'
  rw [← htracker] at hfollows
  rw [← hstarlink] at hfollows'
  constructor
  · rw [List.filterMap_map]
    exact hfollows
  · rw [List.filterMap_map]
    exact hfollows'

/-- In every run of the application, a device is registered with its server
exactly if the last connection event dispatched about it says that it has
connected; and the same holds of what has been sent to a topic. -/
theorem online_known (run : (application Socket Id config).Run) :
    let app := (application Socket Id config).stateAfter run.history
    KnowsOnline app (app.dispatched.map (fun call =>
        (call.event.eventType, call.event.imei))) ∧
      forall arn, config.snsTopicArn = some arn -> arn ≠ "" ->
        KnowsOnline app (app.published.map (fun command =>
          (command.message.eventType, command.message.imei))) := by
  intro app
  have hknows := knowsOnline run.legal
  refine ⟨hknows, fun arn harn hname => ?_⟩
  have hmessages := (fannedOut run.legal).published_messages harn hname
    (fun message => some (message.eventType, message.imei))
  rw [List.filterMap_eq_map', List.filterMap_eq_map'] at hmessages
  rw [hmessages]
  exact hknows

end Runs

end Publishing
end AvtTracker
