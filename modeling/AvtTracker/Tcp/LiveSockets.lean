import AvtTracker.Tcp.OnlineDevices

/-!
# Sockets the registry holds

The registry should name sockets only that have not been closed.  The handlers
of a socket remember the last device it was identified as, and only that device
is taken off the registry when the socket closes.  This module determines the
runs throughout which no closed socket stays behind.
-/

namespace AvtTracker
namespace Tcp

open Foundation EventSystem

namespace ConnectionRegistry

variable {Socket : Type} {r : ConnectionRegistry Socket}

theorem connectedCount_eq_zero
    (h : forall device, r.getSocket device = none) : r.connectedCount = 0 := by
  unfold connectedCount
  rw [List.length_eq_zero_iff]
  cases hentries : r.sockets.entries with
  | nil => rfl
  | cons entry entries =>
      have hmem : entry.1 ∈ r.sockets := by
        rw [AList.mem_keys, AList.keys, hentries]
        exact List.mem_cons_self
      rw [← AList.lookup_isSome] at hmem
      have hnone : r.sockets.lookup entry.1 = none := h entry.1
      rw [hnone] at hmem
      cases hmem

end ConnectionRegistry

variable {Socket Message : Type} [DecidableEq Socket]

/-- The steps that leave no closed socket behind: a closing socket is registered
with no device but the one its handlers remember. -/
def TcpServer.LeavesNoDeadSocket (t : TcpServer Socket) :
    ServerEvent Socket Message -> Prop
  | ServerEvent.connect _ _ _ => True
  | ServerEvent.decoded _ _ _ => True
  | ServerEvent.close socket =>
      forall device, t.registry.getSocket device = some socket ->
        t.deviceId socket = some device ∧ device ≠ ""

namespace Protocol

variable (P : Protocol Message)

/-- The registry names open sockets only, and none once all are closed. -/
structure HoldsLiveSockets (history : List (ServerEvent Socket Message)) :
    Prop where
  registered_open : forall device socket,
    (P.after history).registry.getSocket device = some socket ->
      (P.after history).isOpen socket = true
  none_left :
    (forall socket, (P.after history).isOpen socket = false) ->
      (P.after history).registry.connectedCount = 0

section Steps

variable {history : List (ServerEvent Socket Message)}

theorem holdsLiveSockets_iff :
    P.HoldsLiveSockets history <->
      forall device socket,
        (P.after history).registry.getSocket device = some socket ->
          (P.after history).isOpen socket = true := by
  constructor
  · intro h
    exact h.registered_open
  · intro h
    refine ⟨h, fun hclosed => ?_⟩
    apply ConnectionRegistry.connectedCount_eq_zero
    intro device
    cases hregistered : (P.after history).registry.getSocket device with
    | none => rfl
    | some socket =>
        have hopen := h device socket hregistered
        rw [hclosed socket] at hopen
        cases hopen

theorem holdsLiveSockets_connect {new : Socket}
    {remoteAddress : Option String} {remotePort : Option Nat}
    (h : P.HoldsLiveSockets history) :
    P.HoldsLiveSockets
      (history ++ [ServerEvent.connect new remoteAddress remotePort]) := by
  rw [holdsLiveSockets_iff] at h ⊢
  intro device socket hregistered
  rw [after_connect] at hregistered ⊢
  rw [TcpServer.isOpen_handleConnection]
  by_cases hnew : socket = new
  · rw [if_pos hnew]
  · rw [if_neg hnew]
    exact h device socket hregistered

theorem holdsLiveSockets_decoded {receiving : Socket} {message : Message}
    {now : Int} (hopen : (P.after history).isOpen receiving = true)
    (h : P.HoldsLiveSockets history) :
    P.HoldsLiveSockets
      (history ++ [ServerEvent.decoded receiving message now]) := by
  rw [holdsLiveSockets_iff] at h ⊢
  intro device socket hregistered
  rw [P.getSocket_after_decoded hopen] at hregistered
  rw [P.isOpen_after_decoded]
  rcases ite_eq_iff.mp hregistered with ⟨_, hsame⟩ | ⟨_, hold⟩
  · rw [← Option.some.inj hsame]
    exact hopen
  · exact h device socket hold

theorem holdsLiveSockets_close_iff {closing : Socket}
    (h : P.HoldsLiveSockets history) :
    P.HoldsLiveSockets (history ++ [ServerEvent.close closing]) <->
      forall device,
        (P.after history).registry.getSocket device = some closing ->
          (P.after history).deviceId closing = some device ∧ device ≠ "" := by
  rw [holdsLiveSockets_iff] at h ⊢
  constructor
  · intro hafter device hregistered
    by_contra hforgotten
    -- The device stays registered with the socket that has just been closed.
    have hstill := hafter device closing
    rw [after_close, TcpServer.getSocket_handleClose, if_neg hforgotten,
      TcpServer.isOpen_handleClose, if_pos rfl] at hstill
    cases hstill hregistered
  · intro hremembered device socket hafter
    rw [after_close, TcpServer.getSocket_handleClose] at hafter
    rw [after_close, TcpServer.isOpen_handleClose]
    rcases ite_eq_iff.mp hafter with ⟨_, hnone⟩ | ⟨hother, hregistered⟩
    · cases hnone
    · have hne : socket ≠ closing := by
        intro hsame
        rw [hsame] at hregistered
        exact hother (hremembered device hregistered)
      rw [if_neg hne]
      exact h device socket hregistered

theorem throughout_holdsLiveSockets_iff
    (h : (P.server Socket).Legal history) :
    Throughout P.HoldsLiveSockets history <->
      (P.server Socket).EveryStep TcpServer.LeavesNoDeadSocket history := by
  refine throughout_iff_everyStep ?_ ?_ h
  · rw [holdsLiveSockets_iff]
    intro device socket hregistered
    cases hregistered
  · intro history e _ henabled hbefore
    have hlive := hbefore history List.prefix_rfl
    cases e with
    | connect new remoteAddress remotePort =>
        exact iff_of_true (P.holdsLiveSockets_connect hlive) trivial
    | decoded receiving message now =>
        exact iff_of_true (P.holdsLiveSockets_decoded henabled hlive) trivial
    | close closing => exact P.holdsLiveSockets_close_iff hlive

end Steps

end Protocol

/-!
## The two servers
-/

/--
In a run of either server, the registry never holds a closed socket if and only
if no socket closes while it is registered with a device its handlers do not
remember.
-/
theorem live_throughout_iff {Socket : Type} [DecidableEq Socket] :
    (forall run : (trackerProtocol.server Socket).Run,
      Throughout trackerProtocol.HoldsLiveSockets run.history <->
        (trackerProtocol.server Socket).EveryStep
          TcpServer.LeavesNoDeadSocket run.history) ∧
    (forall run : (starlinkProtocol.server Socket).Run,
      Throughout starlinkProtocol.HoldsLiveSockets run.history <->
        (starlinkProtocol.server Socket).EveryStep
          TcpServer.LeavesNoDeadSocket run.history) :=
  ⟨fun run => trackerProtocol.throughout_holdsLiveSockets_iff run.legal,
    fun run => starlinkProtocol.throughout_holdsLiveSockets_iff run.legal⟩

/-- Messages of two devices arrive on one socket, which then closes. -/
def sharedSocket {Message : Type} (first second : Message) :
    List (ServerEvent Nat Message) :=
  [ServerEvent.connect 0 none none, ServerEvent.decoded 0 first 0,
    ServerEvent.decoded 0 second 1, ServerEvent.close 0]

def trackerSharedSocket :
    List (ServerEvent Nat Tracker.TrackerFrameHeader) :=
  sharedSocket heartbeatHeader { heartbeatHeader with imei := "123456789012345" }

def starlinkSharedSocket :
    List (ServerEvent Nat Starlink.StarlinkFrameHeader) :=
  sharedSocket eventReportHeader { eventReportHeader with deviceId := "ABCDEF" }

/-- The first device stays registered with the closed socket on both servers. -/
theorem sharedSocket_left_behind :
    ((trackerProtocol.server Nat).Legal trackerSharedSocket ∧
      (trackerProtocol.after trackerSharedSocket).registry.getSocket
        "356938035643809" = some 0 ∧
      (trackerProtocol.after trackerSharedSocket).isOpen 0 = false ∧
      (trackerProtocol.after
        trackerSharedSocket).registry.connectedCount = 1) ∧
    (starlinkProtocol.server Nat).Legal starlinkSharedSocket ∧
      (starlinkProtocol.after starlinkSharedSocket).registry.getSocket
        "123456" = some 0 ∧
      (starlinkProtocol.after starlinkSharedSocket).isOpen 0 = false ∧
      (starlinkProtocol.after
        starlinkSharedSocket).registry.connectedCount = 1 := by
  decide

end Tcp
end AvtTracker
