import AvtTracker.Tracker.CanAdvanced
import AvtTracker.Tracker.EventData

/-!
# The report data zone

The payload of {lit}`+RPT` and {lit}`-RPT` frames: eight header bytes that end
with the Data Mask, and the structures behind its set bits.
-/

namespace AvtTracker
namespace Tracker

open Foundation BufferCursor

/-!
## GNSS
-/

structure Satellites where
  mask : Nat
  gps : Option Nat
  beidou : Option Nat
  galileo : Option Nat
  glonass : Option Nat
  deriving DecidableEq, Repr

structure GnssFix where
  fixTypeRaw : Option Nat
  generatedType : Option Nat
  fixResult : Option Nat
  hdop : Option Nat
  speedKmh : Option Nat
  azimuth : Option Nat
  altitudeM : Option Int
  latitude : Option Rat
  longitude : Option Rat
  utcTime : Option Date
  satellites : Option Satellites
  deriving DecidableEq, Repr

structure GnssBlock where
  infoMask : Nat
  count : Nat
  fixes : List GnssFix
  primary : Option GnssFix
  deriving DecidableEq, Repr

def readGTime : Decoder Warning (Option Date) := do
  let bytes ← readBytes 7
  Decoder.ofExcept (decodeGTime bytes)

def readSatellites : Decoder Warning Satellites := do
  let satMask ← readUInt8
  let gps ← Decoder.optionally (satMask.testBit 0) readUInt8
  let beidou ← Decoder.optionally (satMask.testBit 1) readUInt8
  let galileo ← Decoder.optionally (satMask.testBit 2) readUInt8
  let glonass ← Decoder.optionally (satMask.testBit 3) readUInt8
  pure
    { mask := satMask, gps := gps, beidou := beidou, galileo := galileo
      glonass := glonass }

def parseGnssFix (infoMask : Nat) : Decoder Warning GnssFix := do
  let fixType ← Decoder.optionally (infoMask.testBit 0) readUInt8
  let hdop ← Decoder.optionally (infoMask.testBit 1) readUInt8
  let speedKmh ← Decoder.optionally (infoMask.testBit 2) readUInt16BE
  let azimuth ← Decoder.optionally (infoMask.testBit 3) readUInt16BE
  let altitudeM ← Decoder.optionally (infoMask.testBit 4) readInt16BE
  let latitude ← Decoder.optionally (infoMask.testBit 5) readInt32BE
  let longitude ← Decoder.optionally (infoMask.testBit 6) readInt32BE
  let utcTime ← Decoder.optionally (infoMask.testBit 7) readGTime
  let satellites ← Decoder.optionally (infoMask.testBit 8) readSatellites
  pure
    { fixTypeRaw := fixType
      generatedType := fixType.map (fun raw => (raw >>> 4) &&& 0x0f)
      fixResult := fixType.map (fun raw => raw &&& 0x0f)
      hdop := hdop
      speedKmh := speedKmh
      azimuth := azimuth
      altitudeM := altitudeM
      latitude := latitude.map (fun raw : Int => (raw : Rat) / 1000000)
      longitude :=
        longitude.map (fun raw : Int => (raw : Rat) / 1000000)
      utcTime := utcTime.join
      satellites := satellites }

def parseGnssBlock : Decoder Warning GnssBlock := do
  let infoMask ← readUInt16BE
  let count ← readUInt8
  let fixes ← Decoder.times count (parseGnssFix infoMask)
  pure
    { infoMask := infoMask, count := count, fixes := fixes
      primary := fixes[0]? }

/-!
## The fields of the Data Mask
-/

structure FrameBlock where
  count : Nat
  id : Nat
  deriving DecidableEq, Repr

structure BatteryBlock where
  voltageMv : Nat
  levelPercent : Nat
  deriving DecidableEq, Repr

structure CellBlock where
  mcc : Nat
  mnc : Nat
  lac : Nat
  cellId : Nat
  csq : Nat
  deriving DecidableEq, Repr

structure UpgradeBlock where
  code : Nat
  deriving DecidableEq, Repr

/-- What bit 24 assigns: the block and the readings derived from it. -/
structure CanAdvancedFields where
  canAdvancedInfo1 : CanAdvancedInfoMask1Block
  mobileyeAdas : Option MobileyeAdasReading
  mobileyeAdasEvents : Option (List MobileyeAdasEventType)
  deriving DecidableEq, Repr

def readFrameBlock : Decoder Warning FrameBlock := do
  let count ← readUInt8
  let id ← readUInt8
  pure { count := count, id := id }

def readBatteryBlock : Decoder Warning BatteryBlock := do
  let voltageMv ← readUInt16BE
  let levelPercent ← readUInt8
  pure { voltageMv := voltageMv, levelPercent := levelPercent }

def readCellBlock : Decoder Warning CellBlock := do
  let mcc ← readUInt16BE
  let mnc ← readUInt16BE
  let lac ← readUInt16BE
  let cellId ← readUInt32BE
  let csq ← readUInt8
  pure { mcc := mcc, mnc := mnc, lac := lac, cellId := cellId, csq := csq }

def readUpgradeBlock : Decoder Warning UpgradeBlock := do
  let code ← readUInt8
  let _ ← skip 2
  pure { code := code }

def canAdvancedFields (block : CanAdvancedInfoMask1Block) :
    CanAdvancedFields where
  canAdvancedInfo1 := block
  mobileyeAdas := deriveMobileyeAdasReading block
  mobileyeAdasEvents :=
    (deriveMobileyeAdasReading block).map deriveMobileyeAdasEvents

def readCanAdvancedFields : Decoder Warning CanAdvancedFields := do
  let block ← parseCanAdvancedInfoMask1Block
  pure (canAdvancedFields block)

inductive ReportField where
  | frame | networkType | battery | gnss | cell | upgrade | eventData
  | canInfo1 | canInfo2 | electricInfo1 | canInfo3 | canAdvancedInfo1
  deriving DecidableEq, Repr

namespace ReportField

abbrev Value : ReportField -> Type
  | frame => FrameBlock
  | networkType => Nat
  | battery => BatteryBlock
  | gnss => GnssBlock
  | cell => CellBlock
  | upgrade => UpgradeBlock
  | eventData => EventDataBlock
  | canInfo1 => CanInfoMask1Block
  | canInfo2 => CanInfoMask2Block
  | electricInfo1 => ElectricInfoMask1Block
  | canInfo3 => CanInfoMask3Block
  | canAdvancedInfo1 => CanAdvancedFields

def all : List ReportField :=
  [frame, networkType, battery, gnss, cell, upgrade, eventData, canInfo1,
    canInfo2, electricInfo1, canInfo3, canAdvancedInfo1]

def bitOf : ReportField -> Nat
  | frame => 0
  | networkType => 1
  | battery => 2
  | gnss => 3
  | cell => 4
  | upgrade => 7
  | eventData => 8
  | canInfo1 => 9
  | canInfo2 => 10
  | electricInfo1 => 11
  | canInfo3 => 23
  | canAdvancedInfo1 => 24

def read : (f : ReportField) -> Decoder Warning f.Value
  | frame => readFrameBlock
  | networkType => readUInt8
  | battery => readBatteryBlock
  | gnss => parseGnssBlock
  | cell => readCellBlock
  | upgrade => readUpgradeBlock
  | eventData => parseEventDataBlock
  | canInfo1 => parseCanInfoMask1Block
  | canInfo2 => parseCanInfoMask2Block
  | electricInfo1 => parseElectricInfoMask1Block
  | canInfo3 => parseCanInfoMask3Block
  | canAdvancedInfo1 => readCanAdvancedFields

end ReportField

/-- Bits 5 and 6 are reserved without payload. -/
def reportLayout : MaskLayout Warning where
  Field := ReportField
  decEq := inferInstance
  Value := ReportField.Value
  bitOf := ReportField.bitOf
  bitCase := switchBit ReportField.all ReportField.bitOf [5, 6]
  bitCase_eq_field_iff := switchBit_eq_field_iff
    (fun f => by cases f <;> decide) (by decide)
  read f := FieldDecoder.assign f.read
  stopped := Warning.stoppedDecoding MaskKind.dataMask
  notDecoded := Warning.bitsNotDecoded MaskKind.dataMask

/-!
## The payload
-/

/-- {lit}`EVENT_TYPE_NAMES` -/
def eventTypeNames : List (Nat × String) :=
  [(0, "Terminal Power Event"),
    (1, "Regular Report Event"),
    (2, "Moving Event"),
    (3, "Battery Alarm Event"),
    (7, "Crash Alarm Event"),
    (11, "Upgrade Firmware Event"),
    (12, "External Temperature Alarm Event"),
    (13, "Ignition Event"),
    (14, "Main Power Alarm Event"),
    (15, "TOW Alarm Event"),
    (16, "Over Speed Alarm Event"),
    (17, "Engine Idle Alarm Event"),
    (18, "Start Stop Alarm Event"),
    (19, "Harsh Behavior Alarm Event"),
    (20, "G-Sensor Self-Calibration Event"),
    (21, "Geo Fence Alarm Event"),
    (22, "Digital Input 1 Event"),
    (23, "ID Authorized Event"),
    (24, "CANBUS Info Event"),
    (25, "Tachograph Common Event"),
    (26, "Tachograph DDD File Upload Event"),
    (27, "Output Alarm Event"),
    (28, "Delta AIS Alarm Event"),
    (29, "PDP Alarm Event"),
    (30, "BLE Common Info Event"),
    (31, "External Humidity Alarm Event"),
    (32, "Jamming Alarm Event"),
    (35, "TLS Certificate File Download Event"),
    (38, "Upgrade Configuration Event"),
    (39, "GNSS Spoofing Alarm Event"),
    (40, "PEO Fence Alarm Event"),
    (41, "PEO Fence Over Speed Alarm Event"),
    (44, "BLE Slave Connect Event"),
    (45, "CANBUS Info Alarm Event")]

def getEventTypeName (eventType : Nat) : String :=
  (eventTypeNames.lookup eventType).getD
    s!"Unknown Event Type ({eventType})"

/-- The header of a payload, and the block its Data Mask drives. -/
structure TrackerReportPayload where
  protocolVersion : String
  eventType : Nat
  eventName : String
  eventState : Nat
  block : MaskBlock reportLayout

namespace TrackerReportPayload

variable (payload : TrackerReportPayload)

def dataMask : Nat := payload.block.mask

def unsupportedDataMaskBits : List Nat := payload.block.unsupportedBits

def get (f : ReportField) : Option f.Value := payload.block.fields f

def mobileyeAdas : Option MobileyeAdasReading :=
  (payload.get ReportField.canAdvancedInfo1).bind
    CanAdvancedFields.mobileyeAdas

def mobileyeAdasEvents : Option (List MobileyeAdasEventType) :=
  (payload.get ReportField.canAdvancedInfo1).bind
    CanAdvancedFields.mobileyeAdasEvents

end TrackerReportPayload

def readProtocolVersion : Decoder Warning String := do
  let bytes ← readBytes 2
  Decoder.ofExcept (formatProtocolVersion bytes)

def parseReportDataZone : Decoder Warning TrackerReportPayload := do
  let protocolVersion ← readProtocolVersion
  let eventType ← readUInt8
  let eventState ← readUInt8
  let dataMask ← readUInt32BE
  let block ← reportLayout.parseFields dataMask
  pure
    { protocolVersion := protocolVersion
      eventType := eventType
      eventName := getEventTypeName eventType
      eventState := eventState
      block := block }

/-!
## The fields without a mask of their own are read lawfully
-/

instance : Decoder.Lawful readGTime :=
  Decoder.lawful_take_ofExcept (fun _ h => decodeGTime_accepts h)

instance : Decoder.Lawful readSatellites := by
  unfold readSatellites
  infer_instance

instance (infoMask : Nat) : Decoder.Lawful (parseGnssFix infoMask) := by
  unfold parseGnssFix
  infer_instance

instance : Decoder.Lawful parseGnssBlock := by
  unfold parseGnssBlock
  infer_instance

instance : Decoder.Lawful readFrameBlock := by
  unfold readFrameBlock
  infer_instance

instance : Decoder.Lawful readBatteryBlock := by
  unfold readBatteryBlock
  infer_instance

instance : Decoder.Lawful readCellBlock := by
  unfold readCellBlock
  infer_instance

instance : Decoder.Lawful readUpgradeBlock := by
  unfold readUpgradeBlock
  infer_instance

/-!
## The run of the decoder
-/

def reportPayload (zone : Bytes) (block : MaskBlock reportLayout) :
    TrackerReportPayload where
  protocolVersion :=
    (formatProtocolVersion (zone.take 2)).toOption.getD ""
  eventType := beNat ((zone.drop 2).take 1)
  eventName := getEventTypeName (beNat ((zone.drop 2).take 1))
  eventState := beNat ((zone.drop 3).take 1)
  block := block

theorem run_readProtocolVersion {zone : Bytes} (h : 2 ≤ zone.length) :
    readProtocolVersion.run zone 0 =
      ⟨Except.ok ((formatProtocolVersion (zone.take 2)).toOption.getD ""),
        2, []⟩ := by
  have htake : (Decoder.take 2 : Decoder Warning Bytes).run zone 0 = _ :=
    Decoder.run_take_ok h
  have hlen : (zone.take 2).length = 2 := by
    rw [List.length_take, Nat.min_eq_left h]
  rcases formatProtocolVersion_accepts hlen with ⟨version, hversion⟩
  unfold readProtocolVersion readBytes
  rw [Decoder.run_bind_ok (by rw [htake]), htake, List.drop_zero, hversion]
  rfl

theorem run_parseReportDataZone {zone : Bytes} (h : 8 ≤ zone.length) :
    parseReportDataZone.run zone 0 =
      { result := Except.ok (reportPayload zone
          (reportLayout.loop (maskAt zone 4) zone 8).state)
        offset := (reportLayout.walkMask (maskAt zone 4) zone 8).offset
        notes := (reportLayout.walkMask (maskAt zone 4) zone 8).notes ++
          stopNotes reportLayout.stopped
            (reportLayout.walkMask (maskAt zone 4) zone 8).stop ++
          reportLayout.skippedNotes
            (reportLayout.loop (maskAt zone 4) zone 8).state } := by
  have h2 : 2 ≤ zone.length := by lia
  have h3 : 1 ≤ zone.length - 2 := by lia
  have h4 : 1 ≤ zone.length - 3 := by lia
  have h8 : 4 ≤ zone.length - 4 := by lia
  have hversion := run_readProtocolVersion h2
  have htype := Decoder.run_unsigned_ok (ω := Warning) h3
  have hstate := Decoder.run_unsigned_ok (ω := Warning) h4
  have hmask := Decoder.run_unsigned_ok (ω := Warning) h8
  have hfields := reportLayout.run_parseFields (maskAt zone 4) zone 8
  unfold parseReportDataZone readUInt8 readUInt32BE
  rw [Decoder.run_bind_ok (by rw [hversion]), hversion,
    Decoder.run_bind_ok (by rw [htype]), htype,
    Decoder.run_bind_ok (by rw [hstate]), hstate,
    Decoder.run_bind_ok (by rw [hmask]), hmask]
  change Outcome.mk _ _ _ = _
  rw [← maskAt, Decoder.run_bind_ok (by rw [hfields]), hfields]
  simp [reportPayload]

end Tracker
end AvtTracker
