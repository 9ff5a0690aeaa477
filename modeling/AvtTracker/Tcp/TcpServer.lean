import AvtTracker.Foundation.Runs
import AvtTracker.Tcp.ConnectionRegistry

/-!
# Sockets and the devices behind them

Both TCP servers learn from the messages of a socket which device is at its
other end, remember that device in the handlers of the socket, and keep the
shared registry up to date.  They differ in what a message is, and in that a
heartbeat of the tracker touches the registry once more.
-/

namespace AvtTracker
namespace Tcp

open Foundation

/-- What the handlers of one socket share. -/
structure Connection where
  remoteAddress : Option String
  remotePort : Option Nat
  deviceId : Option String := none
  isOpen : Bool := true
  deriving DecidableEq, Repr

/-- The registry and the handlers of every socket there ever was. -/
structure TcpServer (Socket : Type) where
  registry : ConnectionRegistry Socket := {}
  connections : AList (fun _ : Socket => Connection) := ∅

namespace TcpServer

variable {Socket : Type} [DecidableEq Socket]

def deviceId (t : TcpServer Socket) (socket : Socket) : Option String :=
  (t.connections.lookup socket).bind Connection.deviceId

def isOpen (t : TcpServer Socket) (socket : Socket) : Bool :=
  (t.connections.lookup socket).any Connection.isOpen

def handleConnection (t : TcpServer Socket) (socket : Socket)
    (remoteAddress : Option String) (remotePort : Option Nat) :
    TcpServer Socket :=
  let connection : Connection :=
    { remoteAddress := remoteAddress, remotePort := remotePort }
  { t with connections := t.connections.insert socket connection }

/-- {lit}`registerDevice`: called with the device of every decoded message. -/
def registerDevice (t : TcpServer Socket) (socket : Socket)
    (resolved : String) (now : Int) : TcpServer Socket :=
  match t.connections.lookup socket with
  | none => t
  | some connection =>
      if connection.deviceId = some resolved then
        { t with registry := t.registry.touch resolved now }
      else
        let remembered := { connection with deviceId := some resolved }
        { registry := t.registry.register resolved socket
            connection.remoteAddress connection.remotePort now
          connections := t.connections.insert socket remembered }

/-- The {lit}`close` handler of a socket.  An empty id counts as none. -/
def handleClose (t : TcpServer Socket) (socket : Socket) :
    TcpServer Socket :=
  match t.connections.lookup socket with
  | none => t
  | some connection =>
      let closed := { connection with isOpen := false }
      { registry := match connection.deviceId with
          | none => t.registry
          | some deviceId =>
              if deviceId = "" then t.registry
              else t.registry.unregister deviceId
        connections := t.connections.insert socket closed }

def touch (t : TcpServer Socket) (deviceId : String) (now : Int) :
    TcpServer Socket :=
  { t with registry := t.registry.touch deviceId now }

/-!
## What the handlers do to the open sockets and to the registry
-/

section Handlers

variable {t : TcpServer Socket} {socket other : Socket} {id device : String}

theorem exists_lookup_of_isOpen (h : t.isOpen socket = true) :
    exists connection, t.connections.lookup socket = some connection := by
  unfold isOpen at h
  cases hlookup : t.connections.lookup socket with
  | none => rw [hlookup] at h; cases h
  | some connection => exact ⟨connection, rfl⟩

theorem mem_of_isOpen (h : t.isOpen socket = true) :
    socket ∈ t.connections := by
  rcases exists_lookup_of_isOpen h with ⟨connection, hlookup⟩
  rw [← AList.lookup_isSome, hlookup]
  rfl

theorem mem_handleConnection (remoteAddress : Option String)
    (remotePort : Option Nat) :
    other ∈ (t.handleConnection socket remoteAddress remotePort).connections <->
      other = socket ∨ other ∈ t.connections :=
  AList.mem_insert _

theorem isOpen_handleConnection (remoteAddress : Option String)
    (remotePort : Option Nat) :
    (t.handleConnection socket remoteAddress remotePort).isOpen other =
      if other = socket then true else t.isOpen other := by
  unfold isOpen handleConnection
  by_cases h : other = socket
  · rw [h, if_pos rfl, AList.lookup_insert]
    rfl
  · rw [if_neg h, AList.lookup_insert_ne h]

theorem isOpen_registerDevice (now : Int) :
    (t.registerDevice socket id now).isOpen other = t.isOpen other := by
  unfold registerDevice
  cases hlookup : t.connections.lookup socket with
  | none => rfl
  | some connection =>
      dsimp only
      by_cases hid : connection.deviceId = some id
      · rw [if_pos hid]
        rfl
      · rw [if_neg hid]
        unfold isOpen
        by_cases h : other = socket
        · rw [h, AList.lookup_insert, hlookup]
          rfl
        · rw [AList.lookup_insert_ne h]

theorem mem_registerDevice (h : t.isOpen socket = true) (now : Int) :
    other ∈ (t.registerDevice socket id now).connections <->
      other ∈ t.connections := by
  rcases exists_lookup_of_isOpen h with ⟨connection, hlookup⟩
  simp only [registerDevice, hlookup]
  by_cases hid : connection.deviceId = some id
  · rw [if_pos hid]
  · rw [if_neg hid, AList.mem_insert, or_iff_right_of_imp]
    intro hsame
    rw [hsame]
    exact mem_of_isOpen h

theorem getSocket_registerDevice (h : t.isOpen socket = true) (now : Int) :
    (t.registerDevice socket id now).registry.getSocket device =
      if device = id ∧ t.deviceId socket ≠ some id then some socket
      else t.registry.getSocket device := by
  rcases exists_lookup_of_isOpen h with ⟨connection, hlookup⟩
  have hdevice : t.deviceId socket = connection.deviceId := by
    rw [deviceId, hlookup]
    rfl
  rw [hdevice]
  simp only [registerDevice, hlookup]
  by_cases hid : connection.deviceId = some id
  · rw [if_pos hid, if_neg (fun hc => hc.right hid)]
    exact ConnectionRegistry.getSocket_touch now
  · rw [if_neg hid]
    by_cases hsame : device = id
    · rw [if_pos ⟨hsame, hid⟩, hsame]
      exact ConnectionRegistry.getSocket_register _ _ _ _
    · rw [if_neg (fun hc => hsame hc.left)]
      exact ConnectionRegistry.getSocket_register_of_ne hsame _ _ _ _

theorem connections_handleClose :
    (t.handleClose socket).connections =
      match t.connections.lookup socket with
      | none => t.connections
      | some connection =>
          t.connections.insert socket { connection with isOpen := false } := by
  unfold handleClose
  cases t.connections.lookup socket <;> rfl

theorem isOpen_handleClose :
    (t.handleClose socket).isOpen other =
      if other = socket then false else t.isOpen other := by
  unfold isOpen
  rw [connections_handleClose]
  cases hlookup : t.connections.lookup socket with
  | none =>
      by_cases h : other = socket
      · rw [if_pos h, h, hlookup]
        rfl
      · rw [if_neg h]
  | some connection =>
      by_cases h : other = socket
      · rw [if_pos h, h, AList.lookup_insert]
        rfl
      · rw [if_neg h, AList.lookup_insert_ne h]

theorem mem_handleClose :
    other ∈ (t.handleClose socket).connections <-> other ∈ t.connections := by
  rw [connections_handleClose]
  cases hlookup : t.connections.lookup socket with
  | none => exact Iff.rfl
  | some connection =>
      rw [AList.mem_insert, or_iff_right_of_imp]
      intro hsame
      rw [hsame, ← AList.lookup_isSome, hlookup]
      rfl

theorem registry_handleClose :
    (t.handleClose socket).registry =
      match t.deviceId socket with
      | none => t.registry
      | some deviceId =>
          if deviceId = "" then t.registry
          else t.registry.unregister deviceId := by
  unfold handleClose deviceId
  cases t.connections.lookup socket <;> rfl

/-- A closing socket takes the device it remembers off the registry, whichever
socket that device is registered with. -/
theorem getSocket_handleClose :
    (t.handleClose socket).registry.getSocket device =
      if t.deviceId socket = some device ∧ device ≠ "" then none
      else t.registry.getSocket device := by
  rw [registry_handleClose]
  cases t.deviceId socket with
  | none =>
      rw [if_neg]
      rintro ⟨hnone, _⟩
      cases hnone
  | some remembered =>
      by_cases hempty : remembered = ""
      · simp only [if_pos hempty]
        rw [if_neg]
        rintro ⟨hsame, hdevice⟩
        exact hdevice ((Option.some.inj hsame).symm.trans hempty)
      · simp only [if_neg hempty]
        by_cases hsame : remembered = device
        · subst hsame
          rw [if_pos ⟨rfl, hempty⟩]
          exact ConnectionRegistry.getSocket_unregister
        · rw [if_neg (fun hc => hsame (Option.some.inj hc.left))]
          exact ConnectionRegistry.getSocket_unregister_of_ne
            (fun hc => hsame hc.symm)

theorem deviceId_handleConnection (remoteAddress : Option String)
    (remotePort : Option Nat) :
    (t.handleConnection socket remoteAddress remotePort).deviceId other =
      if other = socket then none else t.deviceId other := by
  unfold deviceId handleConnection
  by_cases h : other = socket
  · rw [h, if_pos rfl, AList.lookup_insert]
    rfl
  · rw [if_neg h, AList.lookup_insert_ne h]

theorem deviceId_registerDevice (h : t.isOpen socket = true) (now : Int) :
    (t.registerDevice socket id now).deviceId other =
      if other = socket then some id else t.deviceId other := by
  rcases exists_lookup_of_isOpen h with ⟨connection, hlookup⟩
  simp only [registerDevice, hlookup]
  by_cases hid : connection.deviceId = some id
  · rw [if_pos hid]
    by_cases hsame : other = socket
    · rw [if_pos hsame, hsame, deviceId, hlookup]
      exact hid
    · rw [if_neg hsame]
      rfl
  · rw [if_neg hid]
    unfold deviceId
    by_cases hsame : other = socket
    · rw [if_pos hsame, hsame, AList.lookup_insert]
      rfl
    · rw [if_neg hsame, AList.lookup_insert_ne hsame]

theorem deviceId_handleClose :
    (t.handleClose socket).deviceId other = t.deviceId other := by
  unfold deviceId
  rw [connections_handleClose]
  cases hlookup : t.connections.lookup socket with
  | none => rfl
  | some connection =>
      by_cases h : other = socket
      · rw [h, AList.lookup_insert, hlookup]
        rfl
      · rw [AList.lookup_insert_ne h]

omit [DecidableEq Socket] in
@[simp] theorem getSocket_touch (now : Int) :
    (t.touch id now).registry.getSocket device =
      t.registry.getSocket device :=
  ConnectionRegistry.getSocket_touch now

end Handlers

end TcpServer

/-!
## The servers as event systems
-/

inductive ServerEvent (Socket Message : Type) where
  | connect (socket : Socket) (remoteAddress : Option String)
      (remotePort : Option Nat)
  | decoded (socket : Socket) (message : Message) (now : Int)
  | close (socket : Socket)

variable {Socket Message : Type} [DecidableEq Socket]

namespace ServerEvent

/-- A socket connects once, and only an open one has messages or closes. -/
def Enabled (t : TcpServer Socket) : ServerEvent Socket Message -> Prop
  | connect socket _ _ => socket ∉ t.connections
  | decoded socket _ _ => t.isOpen socket = true
  | close socket => t.isOpen socket = true

instance (t : TcpServer Socket) :
    forall e : ServerEvent Socket Message, Decidable (e.Enabled t)
  | connect socket _ _ => inferInstanceAs (Decidable (socket ∉ t.connections))
  | decoded socket _ _ => inferInstanceAs (Decidable (t.isOpen socket = true))
  | close socket => inferInstanceAs (Decidable (t.isOpen socket = true))

end ServerEvent

/-- What a server needs to know of the messages of its protocol. -/
structure Protocol (Message : Type) where
  deviceIdOf : Message -> String
  isHeartbeat : Message -> Bool

namespace Protocol

/-- The server of a protocol: one handler runs at every event. -/
def server (P : Protocol Message) (Socket : Type) [DecidableEq Socket] :
    EventSystem (TcpServer Socket) (ServerEvent Socket Message) where
  initial := {}
  Enabled t e := e.Enabled t
  step t
    | ServerEvent.connect socket remoteAddress remotePort =>
        t.handleConnection socket remoteAddress remotePort
    | ServerEvent.decoded socket message now =>
        let identified := t.registerDevice socket (P.deviceIdOf message) now
        if P.isHeartbeat message then
          identified.touch (P.deviceIdOf message) now
        else identified
    | ServerEvent.close socket => t.handleClose socket

variable (P : Protocol Message)

instance (t : TcpServer Socket) (e : ServerEvent Socket Message) :
    Decidable ((P.server Socket).Enabled t e) :=
  inferInstanceAs (Decidable (e.Enabled t))

def after (history : List (ServerEvent Socket Message)) : TcpServer Socket :=
  (P.server Socket).stateAfter history

section Steps

variable {history : List (ServerEvent Socket Message)}
variable {socket other : Socket} {device : String}

@[simp] theorem after_connect (remoteAddress : Option String)
    (remotePort : Option Nat) :
    P.after (history ++
        [ServerEvent.connect socket remoteAddress remotePort]) =
      (P.after history).handleConnection socket remoteAddress remotePort :=
  EventSystem.stateAfter_snoc _ _

@[simp] theorem after_close :
    P.after (history ++ [ServerEvent.close socket]) =
      (P.after history).handleClose socket :=
  EventSystem.stateAfter_snoc _ _

variable {message : Message} {now : Int}

theorem after_decoded :
    P.after (history ++ [ServerEvent.decoded socket message now]) =
      if P.isHeartbeat message then
        ((P.after history).registerDevice socket (P.deviceIdOf message)
          now).touch (P.deviceIdOf message) now
      else (P.after history).registerDevice socket (P.deviceIdOf message)
        now :=
  EventSystem.stateAfter_snoc _ _

theorem getSocket_after_decoded
    (h : (P.after history).isOpen socket = true) :
    (P.after (history ++
        [ServerEvent.decoded socket message now])).registry.getSocket device =
      if device = P.deviceIdOf message ∧
          (P.after history).deviceId socket ≠ some (P.deviceIdOf message) then
        some socket
      else (P.after history).registry.getSocket device := by
  rw [after_decoded, ← TcpServer.getSocket_registerDevice h now]
  cases P.isHeartbeat message with
  | true => exact TcpServer.getSocket_touch now
  | false => rfl

theorem isOpen_step_decoded {t : TcpServer Socket} :
    ((P.server Socket).step t
        (ServerEvent.decoded socket message now)).isOpen other =
      t.isOpen other := by
  simp only [server]
  cases P.isHeartbeat message <;> exact TcpServer.isOpen_registerDevice now

theorem deviceId_step_decoded {t : TcpServer Socket}
    (h : t.isOpen socket = true) :
    ((P.server Socket).step t
        (ServerEvent.decoded socket message now)).deviceId other =
      if other = socket then some (P.deviceIdOf message)
      else t.deviceId other := by
  simp only [server]
  cases P.isHeartbeat message <;> exact TcpServer.deviceId_registerDevice h now

theorem mem_step_decoded {t : TcpServer Socket}
    (h : t.isOpen socket = true) :
    other ∈ ((P.server Socket).step t
        (ServerEvent.decoded socket message now)).connections <->
      other ∈ t.connections := by
  simp only [server]
  cases P.isHeartbeat message <;> exact TcpServer.mem_registerDevice h now

theorem isOpen_after_decoded :
    (P.after (history ++
        [ServerEvent.decoded socket message now])).isOpen other =
      (P.after history).isOpen other := by
  rw [after, EventSystem.stateAfter_snoc]
  exact P.isOpen_step_decoded

theorem mem_after_decoded (h : (P.after history).isOpen socket = true) :
    other ∈ (P.after (history ++
        [ServerEvent.decoded socket message now])).connections <->
      other ∈ (P.after history).connections := by
  rw [after_decoded]
  cases P.isHeartbeat message <;> exact TcpServer.mem_registerDevice h now

end Steps

end Protocol

end Tcp
end AvtTracker
