import AvtTracker.Tracker.CanInfo

/-!
# The Event Data block

The nested mask of Data Mask bit 8.  Its one-wire list is filled sensor by
sensor, so it is the one field that can stay behind in part.
-/

namespace AvtTracker
namespace Tracker

open Foundation BufferCursor

structure AnalogInput where
  index : Nat
  voltageMv : Nat
  deriving DecidableEq, Repr

structure Mileage where
  currentHm : Nat
  totalHm : Nat
  deriving DecidableEq, Repr

structure IdData where
  length : Nat
  hex : String
  deriving DecidableEq, Repr

structure OneWireSensorReading where
  sensorIdHex : String
  dataMask : Nat
  temperatureC : Option Rat
  humidityPercent : Option Nat
  deriving DecidableEq, Repr

structure HourMeter where
  currentSeconds : Nat
  totalSeconds : Nat
  deriving DecidableEq, Repr

structure SelfCalibration where
  xForward : Int
  yForward : Int
  zForward : Int
  xHorizontal : Int
  yHorizontal : Int
  zHorizontal : Int
  xGravity : Int
  yGravity : Int
  zGravity : Int
  deriving DecidableEq, Repr

structure Crash where
  counter : Nat
  ascStatus : Nat
  x : Int
  y : Int
  z : Int
  deriving DecidableEq, Repr

structure Certificate where
  serverProtocolType : Nat
  certificateFileType : Nat
  downloadCode : Nat
  deriving DecidableEq, Repr

def readAnalogInput : Decoder Warning AnalogInput := do
  let index ← readUInt8
  let voltageMv ← readUInt16BE
  pure { index := index, voltageMv := voltageMv }

def readMileage : Decoder Warning Mileage := do
  let currentHm ← readUInt16BE
  let totalHm ← readUInt32BE
  pure { currentHm := currentHm, totalHm := totalHm }

def readIdData : Decoder Warning IdData := do
  let length ← readUInt8
  let bytes ← readBytes length
  pure { length := length, hex := toHex bytes }

def readOneWireSensor : Decoder Warning OneWireSensorReading := do
  let sensorId ← readBytes 8
  let dataMaskByte ← readUInt8
  let temperature ← Decoder.optionally (dataMaskByte.testBit 0) readInt16BE
  let humidity ← Decoder.optionally (dataMaskByte.testBit 1) readUInt8
  pure
    { sensorIdHex := toHex sensorId
      dataMask := dataMaskByte
      temperatureC := temperature.map (fun raw : Int => (raw : Rat) / 10)
      humidityPercent := humidity }

def readShortHms : Decoder Warning Nat := do
  let bytes ← readBytes 3
  Decoder.ofExcept (decodeShortHms bytes)

def readExtendedHms : Decoder Warning Nat := do
  let bytes ← readBytes 5
  Decoder.ofExcept (decodeExtendedHms bytes)

def readHourMeter : Decoder Warning HourMeter := do
  let currentSeconds ← readShortHms
  let totalSeconds ← readExtendedHms
  pure { currentSeconds := currentSeconds, totalSeconds := totalSeconds }

def readSelfCalibration : Decoder Warning SelfCalibration := do
  let xForward ← readInt8
  let yForward ← readInt8
  let zForward ← readInt8
  let xHorizontal ← readInt8
  let yHorizontal ← readInt8
  let zHorizontal ← readInt8
  let xGravity ← readInt8
  let yGravity ← readInt8
  let zGravity ← readInt8
  pure
    { xForward := xForward, yForward := yForward, zForward := zForward
      xHorizontal := xHorizontal, yHorizontal := yHorizontal
      zHorizontal := zHorizontal, xGravity := xGravity
      yGravity := yGravity, zGravity := zGravity }

def readCrash : Decoder Warning Crash := do
  let counter ← readUInt8
  let ascStatus ← readUInt8
  let x ← readInt16BE
  let y ← readInt16BE
  let z ← readInt16BE
  pure { counter := counter, ascStatus := ascStatus, x := x, y := y, z := z }

def readCertificate : Decoder Warning Certificate := do
  let serverProtocolType ← readUInt8
  let certificateFileType ← readUInt8
  let downloadCode ← readUInt8
  pure
    { serverProtocolType := serverProtocolType
      certificateFileType := certificateFileType
      downloadCode := downloadCode }

inductive EventDataField where
  | mainPowerVoltageMv | analogInput | ignitionMotionState
  | digitalInputState | digitalOutputState | mileage | geoStatusMask | idData
  | oneWire | hourMeter | selfCalibration | crash | certificate
  | peoStatus1to32 | peoStatus33to50 | canBusSyncId
  deriving DecidableEq, Repr

namespace EventDataField

abbrev Value : EventDataField -> Type
  | analogInput => AnalogInput
  | mileage => Mileage
  | idData => IdData
  | oneWire => List OneWireSensorReading
  | hourMeter => HourMeter
  | selfCalibration => SelfCalibration
  | crash => Crash
  | certificate => Certificate
  | _ => Nat

def all : List EventDataField :=
  [mainPowerVoltageMv, analogInput, ignitionMotionState, digitalInputState,
    digitalOutputState, mileage, geoStatusMask, idData, oneWire, hourMeter,
    selfCalibration, crash, certificate, peoStatus1to32, peoStatus33to50,
    canBusSyncId]

def bitOf : EventDataField -> Nat
  | mainPowerVoltageMv => 0
  | analogInput => 1
  | ignitionMotionState => 2
  | digitalInputState => 3
  | digitalOutputState => 4
  | mileage => 5
  | geoStatusMask => 7
  | idData => 8
  | oneWire => 9
  | hourMeter => 10
  | selfCalibration => 11
  | crash => 12
  | certificate => 14
  | peoStatus1to32 => 21
  | peoStatus33to50 => 23
  | canBusSyncId => 25

/-- All fields but the one-wire list are assigned once they are complete. -/
def read : (f : EventDataField) -> FieldDecoder Warning f.Value
  | mainPowerVoltageMv => FieldDecoder.assign readUInt16BE
  | analogInput => FieldDecoder.assign readAnalogInput
  | ignitionMotionState => FieldDecoder.assign readUInt8
  | digitalInputState => FieldDecoder.assign readUInt8
  | digitalOutputState => FieldDecoder.assign readUInt8
  | mileage => FieldDecoder.assign readMileage
  | geoStatusMask => FieldDecoder.assign readUInt32BE
  | idData => FieldDecoder.assign readIdData
  | oneWire => FieldDecoder.assignEach readUInt8 readOneWireSensor
  | hourMeter => FieldDecoder.assign readHourMeter
  | selfCalibration => FieldDecoder.assign readSelfCalibration
  | crash => FieldDecoder.assign readCrash
  | certificate => FieldDecoder.assign readCertificate
  | peoStatus1to32 => FieldDecoder.assign readUInt32BE
  | peoStatus33to50 => FieldDecoder.assign readUInt32BE
  | canBusSyncId => FieldDecoder.assign readUInt32BE

end EventDataField

/-- Bits 6 and 13 are reserved without payload. -/
def eventDataLayout : MaskLayout Warning where
  Field := EventDataField
  decEq := inferInstance
  Value := EventDataField.Value
  bitOf := EventDataField.bitOf
  bitCase := switchBit EventDataField.all EventDataField.bitOf [6, 13]
  bitCase_eq_field_iff := switchBit_eq_field_iff
    (fun f => by cases f <;> decide) (by decide)
  read := EventDataField.read
  stopped := Warning.stoppedDecoding MaskKind.eventDataMask
  notDecoded := Warning.bitsNotDecoded MaskKind.eventDataMask

abbrev EventDataBlock : Type := MaskBlock eventDataLayout

def parseEventDataBlock : Decoder Warning EventDataBlock :=
  eventDataLayout.parseBlock

/-!
## Every field is read lawfully
-/

instance : Decoder.Lawful readAnalogInput := by
  unfold readAnalogInput
  infer_instance

instance : Decoder.Lawful readMileage := by
  unfold readMileage
  infer_instance

instance : Decoder.Lawful readIdData := by
  unfold readIdData
  infer_instance

instance : Decoder.Lawful readOneWireSensor := by
  unfold readOneWireSensor
  infer_instance

instance : Decoder.Lawful readShortHms :=
  Decoder.lawful_take_ofExcept (fun _ h => decodeShortHms_accepts h)

instance : Decoder.Lawful readExtendedHms :=
  Decoder.lawful_take_ofExcept (fun _ h => decodeExtendedHms_accepts h)

instance : Decoder.Lawful readHourMeter := by
  unfold readHourMeter
  infer_instance

instance : Decoder.Lawful readSelfCalibration := by
  unfold readSelfCalibration
  infer_instance

instance : Decoder.Lawful readCrash := by
  unfold readCrash
  infer_instance

instance : Decoder.Lawful readCertificate := by
  unfold readCertificate
  infer_instance

theorem EventDataField.read_plain (f : EventDataField)
    (h : f ≠ EventDataField.oneWire) : f.read.Plain := by
  cases f
  case oneWire => exact absurd rfl h
  all_goals
    unfold EventDataField.read
    exact FieldDecoder.assign_plain _

end Tracker
end AvtTracker
