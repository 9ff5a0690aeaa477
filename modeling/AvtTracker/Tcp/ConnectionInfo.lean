import AvtTracker.Tcp.OnlineDevices

/-!
# What the registry tells of the devices that are online

Beside the socket of a device the registry keeps when its connection began, when
it was last heard of, and from which address.  A device that moves to another
socket takes the beginning of its connection with it.  This module says what
these columns are after any run, in terms of the messages alone.
-/

namespace AvtTracker
namespace Tcp

open Foundation EventSystem

variable {Socket Message : Type} [DecidableEq Socket]

def ConnectionInfo.touched (info : ConnectionInfo) (now : Int) :
    ConnectionInfo :=
  { info with lastActivityAt := now }

/-!
## What the handlers do to the columns
-/

namespace TcpServer

variable {t : TcpServer Socket} {socket : Socket} {id device : String}
variable {connection : Connection}

/-- A socket that remembers the device touches it, and any other one registers
it: a device that was online keeps the beginning of its connection. -/
theorem getConnectionInfo_registerDevice
    (hlookup : t.connections.lookup socket = some connection) (now : Int) :
    (t.registerDevice socket id now).registry.getConnectionInfo device =
      if device = id then
        if connection.deviceId = some id then
          (t.registry.getConnectionInfo id).map (fun info => info.touched now)
        else
          some
            { deviceId := id
              remoteAddress := connection.remoteAddress
              remotePort := connection.remotePort
              connectedAt := ((t.registry.getConnectionInfo id).map
                ConnectionInfo.connectedAt).getD now
              lastActivityAt := now }
      else t.registry.getConnectionInfo device := by
  simp only [registerDevice, hlookup]
  by_cases hid : connection.deviceId = some id
  · rw [if_pos hid, if_pos hid]
    exact ConnectionRegistry.getConnectionInfo_touch now
  · rw [if_neg hid, if_neg hid]
    exact ConnectionRegistry.getConnectionInfo_register _ _ _ _

theorem getConnectionInfo_touch_registerDevice
    (hlookup : t.connections.lookup socket = some connection) (now : Int) :
    ((t.registerDevice socket id now).touch id
        now).registry.getConnectionInfo device =
      (t.registerDevice socket id now).registry.getConnectionInfo device := by
  have htouch : ((t.registerDevice socket id now).touch id
      now).registry.getConnectionInfo device =
        if device = id then
          ((t.registerDevice socket id now).registry.getConnectionInfo id).map
            (fun info => info.touched now)
        else
          (t.registerDevice socket id now).registry.getConnectionInfo device :=
    ConnectionRegistry.getConnectionInfo_touch now
  rw [htouch]
  by_cases hdevice : device = id
  · rw [if_pos hdevice, hdevice, getConnectionInfo_registerDevice hlookup,
      if_pos rfl]
    by_cases hid : connection.deviceId = some id
    · rw [if_pos hid, Option.map_map]
      rfl
    · rw [if_neg hid]
      rfl
  · rw [if_neg hdevice]

theorem getConnectionInfo_handleClose :
    (t.handleClose socket).registry.getConnectionInfo device =
      if t.deviceId socket = some device ∧ device ≠ "" then none
      else t.registry.getConnectionInfo device := by
  rw [registry_handleClose]
  cases t.deviceId socket with
  | none =>
      rw [if_neg]
      rintro ⟨hnone, _⟩
      cases hnone
  | some remembered =>
      by_cases hempty : remembered = ""
      · simp only [if_pos hempty]
        rw [if_neg]
        rintro ⟨hsame, hdevice⟩
        exact hdevice ((Option.some.inj hsame).symm.trans hempty)
      · simp only [if_neg hempty]
        rw [ConnectionRegistry.getConnectionInfo_unregister]
        by_cases hsame : device = remembered
        · subst hsame
          rw [if_pos rfl, if_pos ⟨rfl, hempty⟩]
        · rw [if_neg hsame,
            if_neg (fun hc => hsame (Option.some.inj hc.left).symm)]

/-- The sockets are known by the peers they were known by before. -/
def PeersKept (t t' : TcpServer Socket) : Prop :=
  forall socket connection, t'.connections.lookup socket = some connection ->
    exists before, t.connections.lookup socket = some before ∧
      connection.remoteAddress = before.remoteAddress ∧
      connection.remotePort = before.remotePort

theorem PeersKept.refl (t : TcpServer Socket) : PeersKept t t :=
  fun _ connection h => ⟨connection, h, rfl, rfl⟩

theorem PeersKept.trans {t t' t'' : TcpServer Socket} (h : PeersKept t t')
    (h' : PeersKept t' t'') : PeersKept t t'' := by
  intro socket connection hlookup
  rcases h' socket connection hlookup with ⟨between, hbetween, haddress, hport⟩
  rcases h socket between hbetween with ⟨before, hbefore, haddress', hport'⟩
  exact ⟨before, hbefore, haddress.trans haddress', hport.trans hport'⟩

theorem peersKept_registerDevice (now : Int) :
    PeersKept t (t.registerDevice socket id now) := by
  intro other known h
  unfold registerDevice at h
  cases hlookup : t.connections.lookup socket with
  | none =>
      rw [hlookup] at h
      exact ⟨known, h, rfl, rfl⟩
  | some connection =>
      simp only [hlookup] at h
      by_cases hid : connection.deviceId = some id
      · rw [if_pos hid] at h
        exact ⟨known, h, rfl, rfl⟩
      · rw [if_neg hid] at h
        by_cases hsame : other = socket
        · rw [hsame, AList.lookup_insert] at h
          rw [hsame, ← Option.some.inj h]
          exact ⟨connection, hlookup, rfl, rfl⟩
        · rw [AList.lookup_insert_ne hsame] at h
          exact ⟨known, h, rfl, rfl⟩

theorem peersKept_handleClose : PeersKept t (t.handleClose socket) := by
  intro other known h
  rw [connections_handleClose] at h
  cases hlookup : t.connections.lookup socket with
  | none =>
      rw [hlookup] at h
      exact ⟨known, h, rfl, rfl⟩
  | some connection =>
      simp only [hlookup] at h
      by_cases hsame : other = socket
      · rw [hsame, AList.lookup_insert] at h
        rw [hsame, ← Option.some.inj h]
        exact ⟨connection, hlookup, rfl, rfl⟩
      · rw [AList.lookup_insert_ne hsame] at h
        exact ⟨known, h, rfl, rfl⟩

end TcpServer

namespace Protocol

variable (P : Protocol Message)

/-!
## The columns in terms of the messages
-/

def lastHeardAt (device : String)
    (history : List (ServerEvent Socket Message)) : Option Int :=
  history.foldl (fun last e =>
    match e with
    | ServerEvent.decoded _ message now =>
        if P.deviceIdOf message = device then some now else last
    | _ => last) none

def IsOnline (device : String) (history : List (ServerEvent Socket Message)) :
    Prop :=
  (P.after history).registry.isConnected device = true

/-- A message at that time brought the device online, and it has been online
ever since. -/
def OnlineSince (device : String) (history : List (ServerEvent Socket Message))
    (since : Int) : Prop :=
  exists before socket message later,
    history = before ++ ServerEvent.decoded socket message since :: later ∧
    P.deviceIdOf message = device ∧
    ¬ P.IsOnline device before ∧
    forall seen, seen <+: later -> P.IsOnline device
      (before ++ ServerEvent.decoded socket message since :: seen)

/-- What the registry keeps of a device registered with a socket is what the
messages say. -/
structure InfoExact (device : String) (socket : Socket)
    (history : List (ServerEvent Socket Message)) (info : ConnectionInfo) :
    Prop where
  deviceId : info.deviceId = device
  peer : ServerEvent.connect socket info.remoteAddress info.remotePort ∈ history
  lastActivityAt : P.lastHeardAt device history = some info.lastActivityAt
  connectedAt : forall since,
    P.OnlineSince device history since <-> since = info.connectedAt

/-- The registry has columns for exactly the devices that have a socket. -/
structure RegistryExact (history : List (ServerEvent Socket Message)) :
    Prop where
  keys : forall device,
    ((P.after history).registry.getConnectionInfo device).isSome =
      ((P.after history).registry.getSocket device).isSome
  info : forall device socket info,
    (P.after history).registry.getSocket device = some socket ->
      (P.after history).registry.getConnectionInfo device = some info ->
        P.InfoExact device socket history info

section Messages

variable {history : List (ServerEvent Socket Message)} {device : String}
variable {socket : Socket} {since : Int}

omit [DecidableEq Socket] in
theorem lastHeardAt_decoded {message : Message} {now : Int} :
    P.lastHeardAt device
        (history ++ [ServerEvent.decoded socket message now]) =
      if P.deviceIdOf message = device then some now
      else P.lastHeardAt device history :=
  List.foldl_concat _ _ _ _

omit [DecidableEq Socket] in
@[simp] theorem lastHeardAt_connect (remoteAddress : Option String)
    (remotePort : Option Nat) :
    P.lastHeardAt device
        (history ++ [ServerEvent.connect socket remoteAddress remotePort]) =
      P.lastHeardAt device history :=
  List.foldl_concat _ _ _ _

omit [DecidableEq Socket] in
@[simp] theorem lastHeardAt_close :
    P.lastHeardAt device (history ++ [ServerEvent.close socket]) =
      P.lastHeardAt device history :=
  List.foldl_concat _ _ _ _

theorem isOnline_iff :
    P.IsOnline device history <->
      ((P.after history).registry.getSocket device).isSome = true :=
  ConnectionRegistry.isConnected_iff

variable {P}

theorem OnlineSince.snoc {e : ServerEvent Socket Message}
    (h : P.OnlineSince device history since)
    (hstill : P.IsOnline device (history ++ [e])) :
    P.OnlineSince device (history ++ [e]) since := by
  rcases h with ⟨before, socket, message, later, hhistory, hid, hoffline, hon⟩
  refine ⟨before, socket, message, later ++ [e], ?_, hid, hoffline, ?_⟩
  · rw [hhistory]
    simp
  · intro seen hseen
    rcases List.prefix_concat_iff.mp hseen with heq | hseen
    · rw [heq, ← List.cons_append, ← List.append_assoc, ← hhistory]
      exact hstill
    · exact hon seen hseen

theorem onlineSince_of_message {message : Message} {now : Int}
    (hid : P.deviceIdOf message = device)
    (hoffline : ¬ P.IsOnline device history)
    (honline : P.IsOnline device
      (history ++ [ServerEvent.decoded socket message now])) :
    P.OnlineSince device
      (history ++ [ServerEvent.decoded socket message now]) now := by
  refine ⟨history, socket, message, [], rfl, hid, hoffline, ?_⟩
  intro seen hseen
  rw [List.prefix_nil.mp hseen]
  exact honline

theorem OnlineSince.eq {other : Int} (h : P.OnlineSince device history since)
    (h' : P.OnlineSince device history other) : since = other := by
  rcases h with ⟨before, socket, message, later, hhistory, _, hoff, hon⟩
  rcases h' with ⟨before', socket', message', later', hhistory', _, hoff', hon'⟩
  rw [hhistory] at hhistory'
  rcases List.append_eq_append_iff.mp hhistory' with
    ⟨between, hbefore, htail⟩ | ⟨between, hbefore, htail⟩
  · cases between with
    | nil =>
        injection htail with hhead _
        injection hhead
    | cons e seen =>
        injection htail with hhead hlater
        rw [hbefore, ← hhead] at hoff'
        exact absurd (hon seen ⟨_, hlater.symm⟩) hoff'
  · cases between with
    | nil =>
        injection htail with hhead _
        injection hhead with _ _ hsince
        exact hsince.symm
    | cons e seen =>
        injection htail with hhead hlater
        rw [hbefore, ← hhead] at hoff
        exact absurd (hon' seen ⟨_, hlater.symm⟩) hoff

theorem OnlineSince.iff_eq (h : P.OnlineSince device history since)
    (other : Int) : P.OnlineSince device history other <-> other = since := by
  constructor
  · intro hother
    exact hother.eq h
  · intro hsame
    rw [hsame]
    exact h

end Messages

/-!
## Invariants of a run
-/

section Invariants

variable {history : List (ServerEvent Socket Message)}

/-- Every socket has the peer of its connection. -/
def PeersConnected (history : List (ServerEvent Socket Message)) : Prop :=
  forall socket connection,
    (P.after history).connections.lookup socket = some connection ->
      ServerEvent.connect socket connection.remoteAddress
        connection.remotePort ∈ history

theorem peersKept_step_decoded {t : TcpServer Socket} {receiving : Socket}
    {message : Message} {now : Int} :
    TcpServer.PeersKept t ((P.server Socket).step t
      (ServerEvent.decoded receiving message now)) := by
  simp only [server]
  cases P.isHeartbeat message <;> exact TcpServer.peersKept_registerDevice now

variable {P} in
theorem PeersConnected.snoc {e : ServerEvent Socket Message}
    (h : P.PeersConnected history)
    (hkept : TcpServer.PeersKept (P.after history) (P.after (history ++ [e]))) :
    P.PeersConnected (history ++ [e]) := by
  intro socket connection hlookup
  rcases hkept socket connection hlookup with ⟨before, hbefore, haddress, hport⟩
  rw [haddress, hport]
  exact List.mem_append_left _ (h socket before hbefore)

theorem peersConnected (h : (P.server Socket).Legal history) :
    P.PeersConnected history := by
  refine invariant ?_ ?_ h
  · intro socket connection hlookup
    cases hlookup
  · intro history e _ _ ih
    cases e with
    | connect new remoteAddress remotePort =>
        intro socket connection hlookup
        rw [after_connect] at hlookup
        by_cases hsame : socket = new
        · rw [hsame, TcpServer.handleConnection, AList.lookup_insert] at hlookup
          rw [hsame, ← Option.some.inj hlookup]
          exact List.mem_concat_self
        · rw [TcpServer.handleConnection, AList.lookup_insert_ne hsame]
            at hlookup
          exact List.mem_append_left _ (ih socket connection hlookup)
    | decoded receiving message now =>
        refine ih.snoc ?_
        unfold after
        rw [stateAfter_snoc]
        exact P.peersKept_step_decoded
    | close closing =>
        refine ih.snoc ?_
        rw [after_close]
        exact TcpServer.peersKept_handleClose

theorem getConnectionInfo_after_decoded {socket : Socket}
    {connection : Connection} {message : Message} {now : Int}
    {device : String}
    (hlookup : (P.after history).connections.lookup socket =
      some connection) :
    (P.after (history ++ [ServerEvent.decoded socket message
        now])).registry.getConnectionInfo device =
      ((P.after history).registerDevice socket (P.deviceIdOf message)
        now).registry.getConnectionInfo device := by
  rw [after_decoded]
  cases P.isHeartbeat message with
  | true => exact TcpServer.getConnectionInfo_touch_registerDevice hlookup now
  | false => rfl

variable {P}

/-- Columns that an event leaves alone stay right as long as the device stays
online and the event does not name it. -/
theorem InfoExact.snoc {device : String} {socket : Socket}
    {info : ConnectionInfo} {e : ServerEvent Socket Message}
    (h : P.InfoExact device socket history info)
    (hheard : P.lastHeardAt device (history ++ [e]) =
      P.lastHeardAt device history)
    (hstill : P.IsOnline device (history ++ [e])) :
    P.InfoExact device socket (history ++ [e]) info where
  deviceId := h.deviceId
  peer := List.mem_append_left _ h.peer
  lastActivityAt := hheard.trans h.lastActivityAt
  connectedAt := (((h.connectedAt _).mpr rfl).snoc hstill).iff_eq

theorem isOnline_of_getSocket {device : String} {socket : Socket}
    (h : (P.after history).registry.getSocket device = some socket) :
    P.IsOnline device history := by
  rw [isOnline_iff, h]
  rfl

theorem registryExact_connect {new : Socket} {remoteAddress : Option String}
    {remotePort : Option Nat} (h : P.RegistryExact history) :
    P.RegistryExact
      (history ++ [ServerEvent.connect new remoteAddress remotePort]) := by
  have hregistry : (P.after (history ++
      [ServerEvent.connect new remoteAddress remotePort])).registry =
        (P.after history).registry := by
    rw [after_connect]
    rfl
  constructor
  · intro device
    rw [hregistry]
    exact h.keys device
  · intro device socket info hsocket hinfo
    refine InfoExact.snoc ?_ (P.lastHeardAt_connect _ _)
      (isOnline_of_getSocket hsocket)
    rw [hregistry] at hsocket hinfo
    exact h.info device socket info hsocket hinfo

theorem registryExact_close {closing : Socket} (h : P.RegistryExact history) :
    P.RegistryExact (history ++ [ServerEvent.close closing]) := by
  constructor
  · intro device
    rw [after_close, TcpServer.getSocket_handleClose,
      TcpServer.getConnectionInfo_handleClose]
    by_cases hremembers :
        (P.after history).deviceId closing = some device ∧ device ≠ ""
    · rw [if_pos hremembers, if_pos hremembers]
      rfl
    · rw [if_neg hremembers, if_neg hremembers]
      exact h.keys device
  · intro device socket info hsocket hinfo
    refine InfoExact.snoc ?_ P.lastHeardAt_close (isOnline_of_getSocket hsocket)
    rw [after_close, TcpServer.getSocket_handleClose] at hsocket
    rw [after_close, TcpServer.getConnectionInfo_handleClose] at hinfo
    rcases ite_eq_iff.mp hsocket with ⟨_, hnone⟩ | ⟨hother, hsocket⟩
    · cases hnone
    · rw [if_neg hother] at hinfo
      exact h.info device socket info hsocket hinfo

/-- The device a message names has been heard of just now; it came online with
this message, or goes on as it was. -/
theorem infoExact_heard {receiving socket : Socket} {message : Message}
    {now : Int} {info : ConnectionInfo}
    (hpeer : ServerEvent.connect socket info.remoteAddress info.remotePort ∈
      history)
    (hid : info.deviceId = P.deviceIdOf message)
    (hnow : info.lastActivityAt = now)
    (hsince : P.OnlineSince (P.deviceIdOf message)
      (history ++ [ServerEvent.decoded receiving message now])
      info.connectedAt) :
    P.InfoExact (P.deviceIdOf message) socket
      (history ++ [ServerEvent.decoded receiving message now]) info where
  deviceId := hid
  peer := List.mem_append_left _ hpeer
  lastActivityAt := by rw [lastHeardAt_decoded, if_pos rfl, hnow]
  connectedAt := hsince.iff_eq

theorem registryExact_decoded {receiving : Socket} {message : Message}
    {now : Int} (hlegal : (P.server Socket).Legal history)
    (hopen : (P.after history).isOpen receiving = true)
    (h : P.RegistryExact history) :
    P.RegistryExact
      (history ++ [ServerEvent.decoded receiving message now]) := by
  rcases TcpServer.exists_lookup_of_isOpen hopen with ⟨connection, hlookup⟩
  have hdeviceId : (P.after history).deviceId receiving =
      connection.deviceId := by
    rw [TcpServer.deviceId, hlookup]
    rfl
  let next := P.after (history ++ [ServerEvent.decoded receiving message now])
  have hsockets : forall device, next.registry.getSocket device = _ :=
    fun _ => P.getSocket_after_decoded hopen
  have hinfos : forall device, next.registry.getConnectionInfo device = _ :=
    fun _ => (P.getConnectionInfo_after_decoded hlookup).trans
      (TcpServer.getConnectionInfo_registerDevice hlookup now)
  simp only [hdeviceId] at hsockets
  constructor
  · intro device
    rw [hsockets, hinfos]
    by_cases hdevice : device = P.deviceIdOf message
    · by_cases hremembers :
          connection.deviceId = some (P.deviceIdOf message)
      · rw [if_pos hdevice, if_pos hremembers,
          if_neg (fun hc => hc.right hremembers), Option.isSome_map, hdevice]
        exact h.keys _
      · rw [if_pos hdevice, if_neg hremembers, if_pos ⟨hdevice, hremembers⟩]
        rfl
    · rw [if_neg hdevice, if_neg (fun hc => hdevice hc.left)]
      exact h.keys device
  · intro device socket info hsocket hinfo
    have hstill := isOnline_of_getSocket hsocket
    rw [hsockets] at hsocket
    rw [hinfos] at hinfo
    by_cases hdevice : device = P.deviceIdOf message
    · subst hdevice
      rw [if_pos rfl] at hinfo
      by_cases hremembers :
          connection.deviceId = some (P.deviceIdOf message)
      · -- The socket is known to be that of the device, which is touched.
        rw [if_neg (fun hc => hc.right hremembers)] at hsocket
        rw [if_pos hremembers] at hinfo
        rcases Option.map_eq_some_iff.mp hinfo with ⟨existing, hold, rfl⟩
        have hexact := h.info _ socket existing hsocket hold
        exact infoExact_heard hexact.peer hexact.deviceId rfl
          (((hexact.connectedAt _).mpr rfl).snoc hstill)
      · rw [if_pos ⟨rfl, hremembers⟩] at hsocket
        rw [if_neg hremembers] at hinfo
        cases hsocket
        cases hinfo
        refine infoExact_heard (P.peersConnected hlegal _ _ hlookup) rfl rfl ?_
        cases hold : (P.after history).registry.getConnectionInfo
            (P.deviceIdOf message) with
        | none =>
            refine onlineSince_of_message rfl ?_ hstill
            rw [isOnline_iff, ← h.keys, hold]
            exact Bool.false_ne_true
        | some existing =>
            have hkey := h.keys (P.deviceIdOf message)
            rw [hold] at hkey
            rcases Option.isSome_iff_exists.mp hkey.symm with ⟨old, hsocket⟩
            have hexact := h.info _ old existing hsocket hold
            exact ((hexact.connectedAt _).mpr rfl).snoc hstill
    · rw [if_neg (fun hc => hdevice hc.left)] at hsocket
      rw [if_neg hdevice] at hinfo
      refine (h.info device socket info hsocket hinfo).snoc ?_ hstill
      rw [lastHeardAt_decoded, if_neg (fun hc => hdevice hc.symm)]

theorem registryExact (h : (P.server Socket).Legal history) :
    P.RegistryExact history := by
  refine invariant ?_ ?_ h
  · constructor
    · intro device
      rfl
    · intro device socket info hsocket
      cases hsocket
  · intro history e hlegal henabled ih
    cases e with
    | connect new remoteAddress remotePort => exact registryExact_connect ih
    | decoded receiving message now =>
        exact registryExact_decoded hlegal henabled ih
    | close closing => exact registryExact_close ih

end Invariants

end Protocol

/-- In every run of either server the registry has columns for exactly the
devices that have a socket: the peer that socket connected from, the time of the
last message that names the device, and the time it came online, however many
sockets it has moved across since. -/
theorem connectionInfo_exact :
    (forall run : (trackerProtocol.server Socket).Run,
      trackerProtocol.RegistryExact run.history) ∧
    (forall run : (starlinkProtocol.server Socket).Run,
      starlinkProtocol.RegistryExact run.history) :=
  ⟨fun run => trackerProtocol.registryExact run.legal,
    fun run => starlinkProtocol.registryExact run.legal⟩

end Tcp
end AvtTracker
