import AvtTracker.Tracker.CanInfo

/-!
# The CAN Advanced Information block and Mobileye

Each set bit of the mask carries one length-prefixed AdvCAN PID.  The first
eight PIDs are interpreted as the reading of a Mobileye unit.
-/

namespace AvtTracker
namespace Tracker

open Foundation BufferCursor

/-- An AdvCAN PID: its number is the mask bit plus one. -/
structure CanAdvancedInfoPid where
  pid : Nat
  data : Bytes
  deriving DecidableEq, Repr

structure CanAdvancedInfoMask1Block where
  mask : Nat
  pids : List CanAdvancedInfoPid
  deriving DecidableEq, Repr

def readPid : Decoder Warning Bytes := do
  let length ← readUInt8
  readBytes length

instance : Decoder.Lawful readPid := by
  unfold readPid
  infer_instance

/-- One pass of the loop: read a PID and push it. -/
def canAdvancedBody (bit : Nat) (block : CanAdvancedInfoMask1Block)
    (buf : Bytes) (offset : Nat) :
    BitOutcome Warning CanAdvancedInfoMask1Block :=
  match (readPid.run buf offset).result with
  | Except.error e =>
      ⟨block, some e, (readPid.run buf offset).offset,
        (readPid.run buf offset).notes⟩
  | Except.ok data =>
      ⟨{ block with pids := block.pids ++ [{ pid := bit + 1, data := data }] },
        none, (readPid.run buf offset).offset,
        (readPid.run buf offset).notes⟩

def canAdvancedLoop (mask : Nat) (buf : Bytes) (offset : Nat) :
    BitOutcome Warning CanAdvancedInfoMask1Block :=
  maskLoop canAdvancedBody
    (Warning.stoppedDecoding MaskKind.canAdvancedInfoMask1) (setBits mask)
    { mask := mask, pids := [] } buf offset

def parseCanAdvancedInfoMask1Block :
    Decoder Warning CanAdvancedInfoMask1Block :=
  maskBlock (fun mask => { mask := mask, pids := [] }) canAdvancedBody
    (Warning.stoppedDecoding MaskKind.canAdvancedInfoMask1) (fun _ => [])

/-!
## Mobileye
-/

structure MobileyeAdasReading where
  headwayValid : Bool
  headwayMeasurementSeconds : Rat
  pedestrianForwardCollisionWarning : Bool
  pedestrianInDangerZone : Bool
  laneDepartureWarningOff : Bool
  forwardCollisionWarningOn : Bool
  leftLaneDepartureWarningOn : Bool
  rightLaneDepartureWarningOn : Bool
  deriving DecidableEq, Repr

inductive MobileyeAdasEventType where
  | lwdl
  | lwdr
  | fcw
  | pcw
  | pedestrianInDangerZone
  deriving DecidableEq, Repr

def deriveMobileyeAdasEvents (reading : MobileyeAdasReading) :
    List MobileyeAdasEventType :=
  (if reading.leftLaneDepartureWarningOn then
    [MobileyeAdasEventType.lwdl] else []) ++
  (if reading.rightLaneDepartureWarningOn then
    [MobileyeAdasEventType.lwdr] else []) ++
  (if reading.forwardCollisionWarningOn then
    [MobileyeAdasEventType.fcw] else []) ++
  (if reading.pedestrianForwardCollisionWarning then
    [MobileyeAdasEventType.pcw] else []) ++
  (if reading.pedestrianInDangerZone then
    [MobileyeAdasEventType.pedestrianInDangerZone] else [])

/-- {lit}`byPid.get`: a map built from entries keeps the last of a key. -/
def pidData (pids : List CanAdvancedInfoPid) (pid : Nat) : Option Bytes :=
  (pids.reverse.find? (fun entry => entry.pid == pid)).map
    CanAdvancedInfoPid.data

/-- {lit}`byteOf`: the first data byte of a PID, zero if there is none. -/
def byteOf (pids : List CanAdvancedInfoPid) (pid : Nat) : Nat :=
  (((pidData pids pid).bind (fun data => data[0]?)).map UInt8.toNat).getD 0

/-- The reading is absent unless PID 1 carries data. -/
def deriveMobileyeAdasReading (block : CanAdvancedInfoMask1Block) :
    Option MobileyeAdasReading :=
  match pidData block.pids 1 with
  | none => none
  | some pid1 =>
      if pid1.length = 0 then none
      else some
        { headwayValid := byteOf block.pids 1 == 1
          headwayMeasurementSeconds :=
            (byteOf block.pids 2 : Rat) * (1 / 10)
          pedestrianForwardCollisionWarning := byteOf block.pids 3 == 1
          pedestrianInDangerZone := byteOf block.pids 4 == 1
          laneDepartureWarningOff := byteOf block.pids 5 == 1
          forwardCollisionWarningOn := byteOf block.pids 6 == 1
          leftLaneDepartureWarningOn := byteOf block.pids 7 == 1
          rightLaneDepartureWarningOn := byteOf block.pids 8 == 1 }

/-!
## The loop follows a walk
-/

def canAdvancedAdvance (_bit : Nat) (buf : Bytes) (offset : Nat) :
    Advance Warning :=
  ⟨errorOf (readPid.run buf offset).result, (readPid.run buf offset).offset,
    (readPid.run buf offset).notes⟩

def canAdvancedWalk (mask : Nat) (buf : Bytes) (offset : Nat) :
    Walk Warning :=
  walk canAdvancedAdvance (setBits mask) buf offset

theorem canAdvancedBody_follows :
    Follows canAdvancedBody canAdvancedAdvance := by
  intro bit block buf offset
  unfold canAdvancedBody canAdvancedAdvance
  cases (readPid.run buf offset).result <;> rfl

def pidsOf (buf : Bytes) (visits : List (Nat × Nat)) :
    List CanAdvancedInfoPid :=
  visits.filterMap (fun visit =>
    (readPid.run buf visit.2).result.toOption.map
      (fun data => { pid := visit.1 + 1, data := data }))

theorem foldl_canAdvancedBody (buf : Bytes) (visits : List (Nat × Nat))
    (block : CanAdvancedInfoMask1Block) :
    visits.foldl (fun b visit => (canAdvancedBody visit.1 b buf visit.2).state)
        block =
      { block with pids := block.pids ++ pidsOf buf visits } := by
  induction visits generalizing block with
  | nil => simp [pidsOf]
  | cons visit visits ih =>
      rw [List.foldl_cons, ih]
      unfold canAdvancedBody pidsOf
      cases hres : (readPid.run buf visit.2).result with
      | error e => simp [hres, Except.toOption]
      | ok data => simp [hres, Except.toOption]

theorem canAdvancedLoop_eq (mask : Nat) (buf : Bytes) (offset : Nat) :
    canAdvancedLoop mask buf offset =
      { state :=
          { mask := mask
            pids := pidsOf buf (canAdvancedWalk mask buf offset).visits }
        failure := (canAdvancedWalk mask buf offset).stop.map Prod.snd
        offset := (canAdvancedWalk mask buf offset).offset
        notes := (canAdvancedWalk mask buf offset).notes ++
          stopNotes (Warning.stoppedDecoding MaskKind.canAdvancedInfoMask1)
            (canAdvancedWalk mask buf offset).stop } := by
  unfold canAdvancedLoop
  rw [maskLoop_eq_walk canAdvancedBody_follows, foldl_canAdvancedBody]
  rfl

end Tracker
end AvtTracker
