import Mathlib.Data.List.AList

/-!
# The connection registry

The in-memory registry that says which devices are online, and on which socket:
{lit}`TrackerConnectionRegistryService` and its mirror image
{lit}`StarlinkConnectionRegistryService`.
-/

namespace AvtTracker
namespace Tcp

/-- {lit}`TrackerConnectionInfo`, {lit}`StarlinkConnectionInfo` -/
structure ConnectionInfo where
  deviceId : String
  remoteAddress : Option String
  remotePort : Option Nat
  connectedAt : Int
  lastActivityAt : Int
  deriving DecidableEq, Repr

structure ConnectionRegistry (Socket : Type) where
  sockets : AList (fun _ : String => Socket) := ∅
  info : AList (fun _ : String => ConnectionInfo) := ∅

namespace ConnectionRegistry

variable {Socket : Type}

def register (r : ConnectionRegistry Socket) (deviceId : String)
    (socket : Socket) (remoteAddress : Option String)
    (remotePort : Option Nat) (now : Int) : ConnectionRegistry Socket :=
  let existing := r.info.lookup deviceId
  let connection : ConnectionInfo :=
    { deviceId := deviceId
      remoteAddress := remoteAddress
      remotePort := remotePort
      connectedAt := (existing.map ConnectionInfo.connectedAt).getD now
      lastActivityAt := now }
  { sockets := r.sockets.insert deviceId socket
    info := r.info.insert deviceId connection }

def touch (r : ConnectionRegistry Socket) (deviceId : String) (now : Int) :
    ConnectionRegistry Socket :=
  match r.info.lookup deviceId with
  | some existing =>
      let touched := { existing with lastActivityAt := now }
      { r with info := r.info.insert deviceId touched }
  | none => r

def unregister (r : ConnectionRegistry Socket) (deviceId : String) :
    ConnectionRegistry Socket where
  sockets := r.sockets.erase deviceId
  info := r.info.erase deviceId

def isConnected (r : ConnectionRegistry Socket) (deviceId : String) : Bool :=
  decide (deviceId ∈ r.sockets)

def getSocket (r : ConnectionRegistry Socket) (deviceId : String) :
    Option Socket :=
  r.sockets.lookup deviceId

def getConnectionInfo (r : ConnectionRegistry Socket) (deviceId : String) :
    Option ConnectionInfo :=
  r.info.lookup deviceId

def connectedCount (r : ConnectionRegistry Socket) : Nat :=
  r.sockets.entries.length

variable {r : ConnectionRegistry Socket} {deviceId other : String}

theorem isConnected_iff :
    r.isConnected deviceId = true <-> (r.getSocket deviceId).isSome = true := by
  rw [isConnected, decide_eq_true_eq, getSocket, AList.lookup_isSome]

@[simp] theorem getSocket_register (socket : Socket)
    (remoteAddress : Option String) (remotePort : Option Nat) (now : Int) :
    (r.register deviceId socket remoteAddress remotePort now).getSocket
      deviceId = some socket :=
  AList.lookup_insert _

theorem getSocket_register_of_ne (h : other ≠ deviceId) (socket : Socket)
    (remoteAddress : Option String) (remotePort : Option Nat) (now : Int) :
    (r.register deviceId socket remoteAddress remotePort now).getSocket other =
      r.getSocket other :=
  AList.lookup_insert_ne h

@[simp] theorem getSocket_touch (now : Int) :
    (r.touch deviceId now).getSocket other = r.getSocket other := by
  unfold touch
  cases r.info.lookup deviceId <;> rfl

@[simp] theorem getSocket_unregister :
    (r.unregister deviceId).getSocket deviceId = none :=
  AList.lookup_erase _ _

theorem getSocket_unregister_of_ne (h : other ≠ deviceId) :
    (r.unregister deviceId).getSocket other = r.getSocket other :=
  AList.lookup_erase_ne h

/-!
## What the registry tells of a device
-/

theorem getConnectionInfo_register (socket : Socket)
    (remoteAddress : Option String) (remotePort : Option Nat) (now : Int) :
    (r.register deviceId socket remoteAddress remotePort
        now).getConnectionInfo other =
      if other = deviceId then
        some
          { deviceId := deviceId
            remoteAddress := remoteAddress
            remotePort := remotePort
            connectedAt := ((r.getConnectionInfo deviceId).map
              ConnectionInfo.connectedAt).getD now
            lastActivityAt := now }
      else r.getConnectionInfo other := by
  by_cases h : other = deviceId
  · rw [if_pos h, h]
    exact AList.lookup_insert _
  · rw [if_neg h]
    exact AList.lookup_insert_ne h

/-- Touching does not bring a device onto the registry. -/
theorem getConnectionInfo_touch (now : Int) :
    (r.touch deviceId now).getConnectionInfo other =
      if other = deviceId then
        (r.getConnectionInfo deviceId).map (fun existing =>
          { existing with lastActivityAt := now })
      else r.getConnectionInfo other := by
  unfold touch getConnectionInfo
  cases hlookup : r.info.lookup deviceId with
  | none =>
      by_cases h : other = deviceId
      · rw [if_pos h, h, hlookup]
        rfl
      · rw [if_neg h]
  | some existing =>
      by_cases h : other = deviceId
      · rw [if_pos h, h]
        exact AList.lookup_insert _
      · rw [if_neg h]
        exact AList.lookup_insert_ne h

theorem getConnectionInfo_unregister :
    (r.unregister deviceId).getConnectionInfo other =
      if other = deviceId then none else r.getConnectionInfo other := by
  by_cases h : other = deviceId
  · rw [if_pos h, h]
    exact AList.lookup_erase _ _
  · rw [if_neg h]
    exact AList.lookup_erase_ne h

end ConnectionRegistry

end Tcp
end AvtTracker
