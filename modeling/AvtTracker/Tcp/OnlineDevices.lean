import AvtTracker.Starlink.ParserTypes
import AvtTracker.Tcp.TcpServer
import AvtTracker.Tracker.ParseFrame

/-!
# Devices that are online

The registry should name, for every device last heard of on a socket that is
still open, that very socket.  This module determines the runs throughout which
it does: those in which no closing socket takes a device off the registry that
is registered with another open one, and no socket falls back to a device it
remembers after that device was registered elsewhere.
-/

namespace AvtTracker
namespace Tcp

open Foundation EventSystem

variable {Socket Message : Type} [DecidableEq Socket]

namespace Protocol

variable (P : Protocol Message)

/-!
## The last socket a device was heard of on
-/

def lastDecodedOn (device : String)
    (history : List (ServerEvent Socket Message)) : Option Socket :=
  history.foldl (fun last e =>
    match e with
    | ServerEvent.decoded socket message _ =>
        if P.deviceIdOf message = device then some socket else last
    | _ => last) none

/-- A device last heard of on an open socket is online, on that socket. -/
def OnlineWhereHeard (history : List (ServerEvent Socket Message)) : Prop :=
  forall device socket, P.lastDecodedOn device history = some socket ->
    (P.after history).isOpen socket = true ->
      (P.after history).registry.isConnected device = true ∧
        (P.after history).registry.getSocket device = some socket

/-- The steps that keep the registry right: a message on a socket that already
remembers its device finds the device registered with that socket, and a
closing socket remembers no device that is registered with another open one. -/
def KeepsOnline (t : TcpServer Socket) : ServerEvent Socket Message -> Prop
  | ServerEvent.connect _ _ _ => True
  | ServerEvent.decoded socket message _ =>
      t.deviceId socket = some (P.deviceIdOf message) ->
        t.registry.getSocket (P.deviceIdOf message) = some socket
  | ServerEvent.close socket =>
      forall device other, t.deviceId socket = some device -> device ≠ "" ->
        t.registry.getSocket device = some other -> t.isOpen other = true ->
          other = socket

section LastDecoded

variable {history : List (ServerEvent Socket Message)} {device : String}
variable {socket : Socket}

omit [DecidableEq Socket] in
@[simp] theorem lastDecodedOn_connect (remoteAddress : Option String)
    (remotePort : Option Nat) :
    P.lastDecodedOn device
        (history ++ [ServerEvent.connect socket remoteAddress remotePort]) =
      P.lastDecodedOn device history :=
  List.foldl_concat _ _ _ _

omit [DecidableEq Socket] in
@[simp] theorem lastDecodedOn_close :
    P.lastDecodedOn device (history ++ [ServerEvent.close socket]) =
      P.lastDecodedOn device history :=
  List.foldl_concat _ _ _ _

omit [DecidableEq Socket] in
theorem lastDecodedOn_decoded {message : Message} {now : Int} :
    P.lastDecodedOn device
        (history ++ [ServerEvent.decoded socket message now]) =
      if P.deviceIdOf message = device then some socket
      else P.lastDecodedOn device history :=
  List.foldl_concat _ _ _ _

end LastDecoded

/-- Being registered with a socket is being connected. -/
theorem onlineWhereHeard_iff {history : List (ServerEvent Socket Message)} :
    P.OnlineWhereHeard history <->
      forall device socket, P.lastDecodedOn device history = some socket ->
        (P.after history).isOpen socket = true ->
          (P.after history).registry.getSocket device = some socket := by
  constructor
  · intro h device socket hlast hopen
    exact (h device socket hlast hopen).right
  · intro h device socket hlast hopen
    have hregistered := h device socket hlast hopen
    refine ⟨?_, hregistered⟩
    rw [ConnectionRegistry.isConnected_iff, hregistered]
    rfl

/-!
## Invariants of a run
-/

section Invariants

variable {history : List (ServerEvent Socket Message)}

/-- Every socket a device was heard of on or is registered with has
connected. -/
def SocketsConnected (history : List (ServerEvent Socket Message)) : Prop :=
  forall device socket, P.lastDecodedOn device history = some socket ∨
      (P.after history).registry.getSocket device = some socket ->
    socket ∈ (P.after history).connections

theorem socketsConnected (h : (P.server Socket).Legal history) :
    P.SocketsConnected history := by
  refine invariant ?_ ?_ h
  · rintro device socket (hlast | hregistered)
    · cases hlast
    · cases hregistered
  · intro history e _ henabled hinv device socket hknown
    cases e with
    | connect new remoteAddress remotePort =>
        rw [lastDecodedOn_connect, after_connect] at hknown
        rw [after_connect]
        exact (TcpServer.mem_handleConnection _ _).mpr
          (Or.inr (hinv device socket hknown))
    | decoded receiving message now =>
        have hopen : (P.after history).isOpen receiving = true := henabled
        rw [lastDecodedOn_decoded, P.getSocket_after_decoded hopen] at hknown
        rw [P.mem_after_decoded hopen]
        have hmem := TcpServer.mem_of_isOpen hopen
        rcases hknown with hlast | hregistered
        · rcases ite_eq_iff.mp hlast with ⟨_, hsame⟩ | ⟨_, hlast⟩
          · rw [← Option.some.inj hsame]
            exact hmem
          · exact hinv device socket (Or.inl hlast)
        · rcases ite_eq_iff.mp hregistered with ⟨_, hsame⟩ | ⟨_, hold⟩
          · rw [← Option.some.inj hsame]
            exact hmem
          · exact hinv device socket (Or.inr hold)
    | close closing =>
        rw [lastDecodedOn_close, after_close,
          TcpServer.getSocket_handleClose] at hknown
        rw [after_close, TcpServer.mem_handleClose]
        rcases hknown with hlast | hregistered
        · exact hinv device socket (Or.inl hlast)
        · rcases ite_eq_iff.mp hregistered with ⟨_, hnone⟩ | ⟨_, hold⟩
          · cases hnone
          · exact hinv device socket (Or.inr hold)

/-- An open socket a device is registered with is the one it was last heard of
on. -/
def RegisteredWhereHeard (history : List (ServerEvent Socket Message)) :
    Prop :=
  forall device socket,
    (P.after history).registry.getSocket device = some socket ->
      (P.after history).isOpen socket = true ->
        P.lastDecodedOn device history = some socket

theorem registeredWhereHeard (h : (P.server Socket).Legal history)
    (honline : Throughout P.OnlineWhereHeard history) :
    P.RegisteredWhereHeard history := by
  revert honline
  refine invariant ?_ ?_ h
  · intro _ device socket hregistered
    cases hregistered
  · intro history e hlegal henabled ih honline device socket hregistered
      hsocket
    rcases throughout_snoc.mp honline with ⟨hbefore, hafter⟩
    have hinv := ih hbefore device socket
    cases e with
    | connect new remoteAddress remotePort =>
        rw [after_connect] at hregistered hsocket
        rw [TcpServer.isOpen_handleConnection] at hsocket
        rw [lastDecodedOn_connect]
        have hknown := P.socketsConnected hlegal device socket
          (Or.inr hregistered)
        have hother : socket ≠ new := by
          intro hsame
          rw [hsame] at hknown
          exact henabled hknown
        rw [if_neg hother] at hsocket
        exact hinv hregistered hsocket
    | decoded receiving message now =>
        have hopen : (P.after history).isOpen receiving = true := henabled
        have honline' := P.onlineWhereHeard_iff.mp hafter device receiving
        rw [lastDecodedOn_decoded, hregistered, P.isOpen_after_decoded]
          at honline'
        rw [lastDecodedOn_decoded]
        by_cases hdevice : P.deviceIdOf message = device
        · -- The message names the device, so its socket is the registered one.
          rw [if_pos hdevice] at honline' ⊢
          exact (honline' rfl hopen).symm
        · rw [P.getSocket_after_decoded hopen,
            if_neg (fun hc => hdevice hc.left.symm)] at hregistered
          rw [P.isOpen_after_decoded] at hsocket
          rw [if_neg hdevice]
          exact hinv hregistered hsocket
    | close closing =>
        rw [after_close, TcpServer.getSocket_handleClose] at hregistered
        rw [after_close, TcpServer.isOpen_handleClose] at hsocket
        rw [lastDecodedOn_close]
        rcases ite_eq_iff.mp hregistered with ⟨_, hnone⟩ | ⟨_, hregistered⟩
        · cases hnone
        · rcases ite_eq_iff.mp hsocket with ⟨_, hclosed⟩ | ⟨_, hsocket⟩
          · cases hclosed
          · exact hinv hregistered hsocket

/-!
## The runs throughout which devices are online where they were heard of
-/

theorem onlineWhereHeard_connect {new : Socket}
    {remoteAddress : Option String} {remotePort : Option Nat}
    (hlegal : (P.server Socket).Legal history)
    (hnew : new ∉ (P.after history).connections)
    (h : P.OnlineWhereHeard history) :
    P.OnlineWhereHeard
      (history ++ [ServerEvent.connect new remoteAddress remotePort]) := by
  rw [onlineWhereHeard_iff] at h ⊢
  intro device socket hlast hsocket
  rw [lastDecodedOn_connect] at hlast
  rw [after_connect] at hsocket ⊢
  rw [TcpServer.isOpen_handleConnection] at hsocket
  have hknown := P.socketsConnected hlegal device socket (Or.inl hlast)
  have hother : socket ≠ new := by
    intro hsame
    rw [hsame] at hknown
    exact hnew hknown
  rw [if_neg hother] at hsocket
  exact h device socket hlast hsocket

theorem onlineWhereHeard_decoded_iff {receiving : Socket} {message : Message}
    {now : Int} (hopen : (P.after history).isOpen receiving = true)
    (h : P.OnlineWhereHeard history) :
    P.OnlineWhereHeard
        (history ++ [ServerEvent.decoded receiving message now]) <->
      ((P.after history).deviceId receiving = some (P.deviceIdOf message) ->
        (P.after history).registry.getSocket (P.deviceIdOf message) =
          some receiving) := by
  rw [onlineWhereHeard_iff] at h ⊢
  constructor
  · intro hafter hremembers
    have hregistered := hafter (P.deviceIdOf message) receiving
    rw [lastDecodedOn_decoded, if_pos rfl, P.isOpen_after_decoded,
      P.getSocket_after_decoded hopen,
      if_neg (fun hc => hc.right hremembers)] at hregistered
    exact hregistered rfl hopen
  · intro hkeeps device socket hlast hsocket
    rw [lastDecodedOn_decoded] at hlast
    rw [P.isOpen_after_decoded] at hsocket
    rw [P.getSocket_after_decoded hopen]
    by_cases hdevice : P.deviceIdOf message = device
    · rw [if_pos hdevice] at hlast
      rw [← hlast]
      subst hdevice
      by_cases hremembers :
          (P.after history).deviceId receiving = some (P.deviceIdOf message)
      · rw [if_neg (fun hc => hc.right hremembers)]
        exact hkeeps hremembers
      · exact if_pos ⟨rfl, hremembers⟩
    · rw [if_neg hdevice] at hlast
      rw [if_neg (fun hc => hdevice hc.left.symm)]
      exact h device socket hlast hsocket

theorem onlineWhereHeard_close_iff {closing : Socket}
    (hregistered : P.RegisteredWhereHeard history)
    (h : P.OnlineWhereHeard history) :
    P.OnlineWhereHeard (history ++ [ServerEvent.close closing]) <->
      forall device other, (P.after history).deviceId closing = some device ->
        device ≠ "" ->
          (P.after history).registry.getSocket device = some other ->
            (P.after history).isOpen other = true -> other = closing := by
  rw [onlineWhereHeard_iff] at h ⊢
  constructor
  · intro hafter device other hremembers hnonempty hother hopen
    by_contra hne
    have hlast := hregistered device other hother hopen
    have hstill := hafter device other
    rw [lastDecodedOn_close, after_close, TcpServer.isOpen_handleClose,
      if_neg hne, TcpServer.getSocket_handleClose,
      if_pos ⟨hremembers, hnonempty⟩] at hstill
    cases hstill hlast hopen
  · intro hkeeps device socket hlast hsocket
    rw [lastDecodedOn_close] at hlast
    rw [after_close, TcpServer.isOpen_handleClose] at hsocket
    rw [after_close, TcpServer.getSocket_handleClose]
    rcases ite_eq_iff.mp hsocket with ⟨_, hclosed⟩ | ⟨hne, hsocket⟩
    · cases hclosed
    · have hsame := h device socket hlast hsocket
      rw [if_neg]
      · exact hsame
      · rintro ⟨hremembers, hnonempty⟩
        exact hne (hkeeps device socket hremembers hnonempty hsame hsocket)

theorem throughout_onlineWhereHeard_iff
    (h : (P.server Socket).Legal history) :
    Throughout P.OnlineWhereHeard history <->
      (P.server Socket).EveryStep P.KeepsOnline history := by
  refine throughout_iff_everyStep ?_ ?_ h
  · intro device socket hlast
    cases hlast
  · intro history e hlegal henabled hbefore
    have honline := hbefore history List.prefix_rfl
    cases e with
    | connect new remoteAddress remotePort =>
        exact iff_of_true
          (P.onlineWhereHeard_connect hlegal henabled honline) trivial
    | decoded receiving message now =>
        exact P.onlineWhereHeard_decoded_iff henabled honline
    | close closing =>
        exact P.onlineWhereHeard_close_iff
          (P.registeredWhereHeard hlegal hbefore) honline

end Invariants

end Protocol

/-!
## The two servers
-/

/-- The tracker's server: the device of a frame is the IMEI of its header. -/
def trackerProtocol : Protocol Tracker.TrackerFrameHeader where
  deviceIdOf := Tracker.TrackerFrameHeader.imei
  isHeartbeat header := decide (header.kind = Tracker.TrackerFrameKind.hbd)

def starlinkProtocol : Protocol Starlink.StarlinkFrameHeader where
  deviceIdOf := Starlink.StarlinkFrameHeader.deviceId
  isHeartbeat _ := false

/--
In a run of either server, every device stays online on the socket it was last
heard of on, as long as that socket is open, if and only if every step keeps the
registry right.
-/
theorem online_throughout_iff {Socket : Type} [DecidableEq Socket] :
    (forall run : (trackerProtocol.server Socket).Run,
      Throughout trackerProtocol.OnlineWhereHeard run.history <->
        (trackerProtocol.server Socket).EveryStep trackerProtocol.KeepsOnline
          run.history) ∧
    (forall run : (starlinkProtocol.server Socket).Run,
      Throughout starlinkProtocol.OnlineWhereHeard run.history <->
        (starlinkProtocol.server Socket).EveryStep starlinkProtocol.KeepsOnline
          run.history) :=
  ⟨fun run => trackerProtocol.throughout_onlineWhereHeard_iff run.legal,
    fun run => starlinkProtocol.throughout_onlineWhereHeard_iff run.legal⟩

/-- A device connects on socket 0 and again on socket 1, and then socket 0
closes. -/
def reconnection {Message : Type} (message : Message) :
    List (ServerEvent Nat Message) :=
  [ServerEvent.connect 0 none none, ServerEvent.decoded 0 message 0,
    ServerEvent.connect 1 none none, ServerEvent.decoded 1 message 1,
    ServerEvent.close 0]

def heartbeatHeader : Tracker.TrackerFrameHeader where
  kind := Tracker.TrackerFrameKind.hbd
  headToken := "+HBD:"
  declaredLength := 20
  computedDataZoneLength := 2
  imei := "356938035643809"
  deviceId := 0x20
  generatedAt := none
  serialNumberHex := "0001"
  serialNumber := 1

def eventReportHeader : Starlink.StarlinkFrameHeader where
  head := []
  deviceId := "123456"
  messageType := 6
  messageIndex := 42
  checksumHex := "A3"

/-- The reconnected device is offline on both servers, although the socket it
was last heard of on is open. -/
theorem reconnection_offline :
    ((trackerProtocol.server Nat).Legal (reconnection heartbeatHeader) ∧
      trackerProtocol.lastDecodedOn "356938035643809"
        (reconnection heartbeatHeader) = some 1 ∧
      (trackerProtocol.after (reconnection heartbeatHeader)).isOpen 1 = true ∧
      (trackerProtocol.after
        (reconnection heartbeatHeader)).registry.isConnected
          "356938035643809" = false) ∧
    (starlinkProtocol.server Nat).Legal (reconnection eventReportHeader) ∧
      starlinkProtocol.lastDecodedOn "123456"
        (reconnection eventReportHeader) = some 1 ∧
      (starlinkProtocol.after
        (reconnection eventReportHeader)).isOpen 1 = true ∧
      (starlinkProtocol.after
        (reconnection eventReportHeader)).registry.isConnected "123456" =
          false := by
  decide

end Tcp
end AvtTracker
