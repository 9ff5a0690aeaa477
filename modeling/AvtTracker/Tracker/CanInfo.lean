import AvtTracker.Foundation.MaskExtension
import AvtTracker.Tracker.ParserTypes

/-!
# CAN Info and Electric Info blocks

The four blocks whose fields are mostly single numbers: CAN Info Mask 1, 2
and 3, and Electric Info Mask 1.  Each is a layout: the bit of every field, and
how the field is read.
-/

namespace AvtTracker
namespace Tracker

open Foundation BufferCursor

def scaled (raw : Decoder Warning Nat) (factor : Rat) :
    Decoder Warning Rat := do
  let n ← raw
  pure ((n : Rat) * factor)

instance (raw : Decoder Warning Nat) (factor : Rat) [Decoder.Lawful raw] :
    Decoder.Lawful (scaled raw factor) := by
  unfold scaled
  infer_instance

structure FuelConsumptionReading where
  litersPer100Km : Rat
  litersPerHour : Rat
  deriving DecidableEq, Repr

structure FuelLevelReading where
  liters : Nat
  percent : Rat
  deriving DecidableEq, Repr

structure TyreReading where
  axlePosition : Nat
  wheelPosition : Nat
  pressureKpa : Nat
  temperatureC : Rat
  state : Nat
  deriving DecidableEq, Repr

def readFuelConsumption : Decoder Warning FuelConsumptionReading := do
  let litersPer100Km ← scaled readUInt16BE (1 / 10)
  let litersPerHour ← scaled readUInt16BE (5 / 100)
  pure { litersPer100Km := litersPer100Km, litersPerHour := litersPerHour }

def readFuelLevel : Decoder Warning FuelLevelReading := do
  let liters ← readUInt8
  let percent ← scaled readUInt8 (4 / 10)
  pure { liters := liters, percent := percent }

def readTyre : Decoder Warning TyreReading := do
  let location ← readUInt8
  let pressureKpa ← readUInt16BE
  let temperatureC ← scaled (readUIntBE 3) (1 / 100)
  let state ← readUInt8
  pure
    { axlePosition := (location >>> 4) &&& 0xf
      wheelPosition := location &&& 0xf
      pressureKpa := pressureKpa
      temperatureC := temperatureC
      state := state }

def readDtcCode : Decoder Warning DtcCode := do
  let bytes ← readBytes 3
  Decoder.ofExcept (decodeDtcCode bytes)

def readCounted {α : Type} (item : Decoder Warning α) :
    Decoder Warning (List α) := do
  let count ← readUInt8
  Decoder.times count item

/-!
## CAN Info Mask 1
-/

inductive CanInfo1Field where
  | vin | ignitionKey | totalDistanceHm | totalDistanceImpulses
  | totalFuelUsedMl | vehicleSpeedKmh | engineRpm | engineCoolantTemperatureC
  | fuelConsumption | fuelLevel | rangeKm | acceleratorPedalPressurePercent
  | totalEngineHoursSeconds | totalDrivingTimeSeconds
  | totalEngineIdleTimeSeconds | totalIdleFuelUsedMl | axleWeight1Kg
  | axleWeight2Kg | axleWeight3Kg | axleWeight4Kg | detailedIndicators1
  | detailedIndicators2 | lights | doors | totalVehicleOverspeedTimeSeconds
  | totalVehicleEngineOverspeedTimeSeconds | engineColdStartsCount
  | engineAllStartsCount | engineStartsByIgnitionCount
  | totalEngineColdRunningTimeSeconds | handbrakeAppliesDuringRideCount
  deriving DecidableEq, Repr

namespace CanInfo1Field

abbrev Value : CanInfo1Field -> Type
  | vin => String
  | engineCoolantTemperatureC => Int
  | fuelConsumption => FuelConsumptionReading
  | fuelLevel => FuelLevelReading
  | acceleratorPedalPressurePercent => Rat
  | axleWeight1Kg => Rat
  | axleWeight2Kg => Rat
  | axleWeight3Kg => Rat
  | axleWeight4Kg => Rat
  | _ => Nat

def all : List CanInfo1Field :=
  [vin, ignitionKey, totalDistanceHm, totalDistanceImpulses, totalFuelUsedMl,
    vehicleSpeedKmh, engineRpm, engineCoolantTemperatureC, fuelConsumption,
    fuelLevel, rangeKm, acceleratorPedalPressurePercent,
    totalEngineHoursSeconds, totalDrivingTimeSeconds,
    totalEngineIdleTimeSeconds, totalIdleFuelUsedMl, axleWeight1Kg,
    axleWeight2Kg, axleWeight3Kg, axleWeight4Kg, detailedIndicators1,
    detailedIndicators2, lights, doors, totalVehicleOverspeedTimeSeconds,
    totalVehicleEngineOverspeedTimeSeconds, engineColdStartsCount,
    engineAllStartsCount, engineStartsByIgnitionCount,
    totalEngineColdRunningTimeSeconds, handbrakeAppliesDuringRideCount]

def bitOf : CanInfo1Field -> Nat
  | vin => 0
  | ignitionKey => 1
  | totalDistanceHm => 2
  | totalDistanceImpulses => 3
  | totalFuelUsedMl => 4
  | vehicleSpeedKmh => 5
  | engineRpm => 6
  | engineCoolantTemperatureC => 7
  | fuelConsumption => 8
  | fuelLevel => 9
  | rangeKm => 10
  | acceleratorPedalPressurePercent => 11
  | totalEngineHoursSeconds => 12
  | totalDrivingTimeSeconds => 13
  | totalEngineIdleTimeSeconds => 14
  | totalIdleFuelUsedMl => 15
  | axleWeight1Kg => 16
  | axleWeight2Kg => 17
  | axleWeight3Kg => 18
  | axleWeight4Kg => 19
  | detailedIndicators1 => 20
  | detailedIndicators2 => 21
  | lights => 22
  | doors => 23
  | totalVehicleOverspeedTimeSeconds => 24
  | totalVehicleEngineOverspeedTimeSeconds => 25
  | engineColdStartsCount => 26
  | engineAllStartsCount => 27
  | engineStartsByIgnitionCount => 28
  | totalEngineColdRunningTimeSeconds => 29
  | handbrakeAppliesDuringRideCount => 30

def read : (f : CanInfo1Field) -> Decoder Warning f.Value
  | vin => readLengthPrefixedAscii
  | ignitionKey => readUInt8
  | totalDistanceHm => readUInt32BE
  | totalDistanceImpulses => readUInt32BE
  | totalFuelUsedMl => readUInt32BE
  | vehicleSpeedKmh => readUInt16BE
  | engineRpm => readUInt16BE
  | engineCoolantTemperatureC => readInt16BE
  | fuelConsumption => readFuelConsumption
  | fuelLevel => readFuelLevel
  | rangeKm => readUIntBE 3
  | acceleratorPedalPressurePercent => scaled readUInt8 (4 / 10)
  | totalEngineHoursSeconds => readUInt32BE
  | totalDrivingTimeSeconds => readUInt32BE
  | totalEngineIdleTimeSeconds => readUInt32BE
  | totalIdleFuelUsedMl => readUInt32BE
  | axleWeight1Kg => scaled readUInt16BE (5 / 10)
  | axleWeight2Kg => scaled readUInt16BE (5 / 10)
  | axleWeight3Kg => scaled readUInt16BE (5 / 10)
  | axleWeight4Kg => scaled readUInt16BE (5 / 10)
  | detailedIndicators1 => readUInt32BE
  | detailedIndicators2 => readUInt32BE
  | lights => readUInt8
  | doors => readUInt8
  | totalVehicleOverspeedTimeSeconds => readUInt32BE
  | totalVehicleEngineOverspeedTimeSeconds => readUInt32BE
  | engineColdStartsCount => readUIntBE 3
  | engineAllStartsCount => readUIntBE 3
  | engineStartsByIgnitionCount => readUIntBE 3
  | totalEngineColdRunningTimeSeconds => readUInt32BE
  | handbrakeAppliesDuringRideCount => readUInt16BE

end CanInfo1Field

/-- Bit 31 is reserved and listed as not decoded. -/
def canInfo1Layout : MaskLayout Warning where
  Field := CanInfo1Field
  decEq := inferInstance
  Value := CanInfo1Field.Value
  bitOf := CanInfo1Field.bitOf
  bitCase := switchBit CanInfo1Field.all CanInfo1Field.bitOf []
  bitCase_eq_field_iff := switchBit_eq_field_iff
    (fun f => by cases f <;> decide) (by decide)
  read f := FieldDecoder.assign f.read
  stopped := Warning.stoppedDecoding MaskKind.canInfoMask1
  notDecoded := Warning.bitsNotDecoded MaskKind.canInfoMask1

abbrev CanInfoMask1Block : Type := MaskBlock canInfo1Layout

def parseCanInfoMask1Block : Decoder Warning CanInfoMask1Block :=
  canInfo1Layout.parseBlock

/-!
## CAN Info Mask 2
-/

inductive CanInfo2Field where
  | adBlueLevelPercent | retarderUsagePercent | powerMode | axleWeight5Kg
  | axleWeight6Kg | axleWeight7Kg | analogInputMv | engineBrakingFactor
  | pedalBrakingFactor | totalAcceleratorKickdowns
  | totalEffectiveEngineSpeedTimeSeconds | totalCruiseControlTimeSeconds
  | totalAcceleratorKickdownTimeSeconds | totalBrakeApplications
  | oilTemperatureC | trailerVin | registrationNumber | rapidBrakings
  | rapidAccelerations | engineTorquePercent | serviceDistanceKm
  | ambientTemperatureC | dtcCodes | gaseousFuelLevel | fuelLevelCombustion
  | totalFuelFromVehicleMl | totalGaseousFuelUsageKg | tyres
  | timeToServiceDays
  deriving DecidableEq, Repr

namespace CanInfo2Field

abbrev Value : CanInfo2Field -> Type
  | adBlueLevelPercent => Rat
  | axleWeight5Kg => Rat
  | axleWeight6Kg => Rat
  | axleWeight7Kg => Rat
  | oilTemperatureC => Int
  | trailerVin => String
  | registrationNumber => String
  | engineTorquePercent => Int
  | serviceDistanceKm => Int
  | ambientTemperatureC => Int
  | dtcCodes => List DtcCode
  | gaseousFuelLevel => FuelLevelReading
  | fuelLevelCombustion => FuelLevelReading
  | totalGaseousFuelUsageKg => Rat
  | tyres => List TyreReading
  | timeToServiceDays => Int
  | _ => Nat

def all : List CanInfo2Field :=
  [adBlueLevelPercent, retarderUsagePercent, powerMode, axleWeight5Kg,
    axleWeight6Kg, axleWeight7Kg, analogInputMv, engineBrakingFactor,
    pedalBrakingFactor, totalAcceleratorKickdowns,
    totalEffectiveEngineSpeedTimeSeconds, totalCruiseControlTimeSeconds,
    totalAcceleratorKickdownTimeSeconds, totalBrakeApplications,
    oilTemperatureC, trailerVin, registrationNumber, rapidBrakings,
    rapidAccelerations, engineTorquePercent, serviceDistanceKm,
    ambientTemperatureC, dtcCodes, gaseousFuelLevel, fuelLevelCombustion,
    totalFuelFromVehicleMl, totalGaseousFuelUsageKg, tyres,
    timeToServiceDays]

def bitOf : CanInfo2Field -> Nat
  | adBlueLevelPercent => 0
  | retarderUsagePercent => 1
  | powerMode => 2
  | axleWeight5Kg => 3
  | axleWeight6Kg => 4
  | axleWeight7Kg => 5
  | analogInputMv => 6
  | engineBrakingFactor => 7
  | pedalBrakingFactor => 8
  | totalAcceleratorKickdowns => 9
  | totalEffectiveEngineSpeedTimeSeconds => 10
  | totalCruiseControlTimeSeconds => 11
  | totalAcceleratorKickdownTimeSeconds => 12
  | totalBrakeApplications => 13
  | oilTemperatureC => 14
  | trailerVin => 15
  | registrationNumber => 18
  | rapidBrakings => 19
  | rapidAccelerations => 20
  | engineTorquePercent => 21
  | serviceDistanceKm => 22
  | ambientTemperatureC => 23
  | dtcCodes => 24
  | gaseousFuelLevel => 25
  | fuelLevelCombustion => 26
  | totalFuelFromVehicleMl => 27
  | totalGaseousFuelUsageKg => 28
  | tyres => 29
  | timeToServiceDays => 30

def read : (f : CanInfo2Field) -> Decoder Warning f.Value
  | adBlueLevelPercent => scaled readUInt8 (4 / 10)
  | retarderUsagePercent => readUInt8
  | powerMode => readUInt8
  | axleWeight5Kg => scaled readUInt16BE (5 / 10)
  | axleWeight6Kg => scaled readUInt16BE (5 / 10)
  | axleWeight7Kg => scaled readUInt16BE (5 / 10)
  | analogInputMv => readUInt16BE
  | engineBrakingFactor => readUInt32BE
  | pedalBrakingFactor => readUInt32BE
  | totalAcceleratorKickdowns => readUIntBE 3
  | totalEffectiveEngineSpeedTimeSeconds => readUInt32BE
  | totalCruiseControlTimeSeconds => readUInt32BE
  | totalAcceleratorKickdownTimeSeconds => readUInt32BE
  | totalBrakeApplications => readUIntBE 3
  | oilTemperatureC => readInt16BE
  | trailerVin => readLengthPrefixedAscii
  | registrationNumber => readLengthPrefixedAscii
  | rapidBrakings => readUIntBE 3
  | rapidAccelerations => readUIntBE 3
  | engineTorquePercent => readUInt8 >>= fun raw => pure ((raw : Int) - 125)
  | serviceDistanceKm => readInt32BE
  | ambientTemperatureC => readInt16BE
  | dtcCodes => readCounted readDtcCode
  | gaseousFuelLevel => readFuelLevel
  | fuelLevelCombustion => readFuelLevel
  | totalFuelFromVehicleMl => readUInt32BE
  | totalGaseousFuelUsageKg => scaled readUInt32BE (5 / 10)
  | tyres => readCounted readTyre
  | timeToServiceDays => readUInt16BE >>= fun raw => pure ((raw : Int) - 1000)

end CanInfo2Field

/-- Bits 16 and 17 are reserved without payload, bit 31 is listed. -/
def canInfo2Layout : MaskLayout Warning where
  Field := CanInfo2Field
  decEq := inferInstance
  Value := CanInfo2Field.Value
  bitOf := CanInfo2Field.bitOf
  bitCase := switchBit CanInfo2Field.all CanInfo2Field.bitOf [16, 17]
  bitCase_eq_field_iff := switchBit_eq_field_iff
    (fun f => by cases f <;> decide) (by decide)
  read f := FieldDecoder.assign f.read
  stopped := Warning.stoppedDecoding MaskKind.canInfoMask2
  notDecoded := Warning.bitsNotDecoded MaskKind.canInfoMask2

abbrev CanInfoMask2Block : Type := MaskBlock canInfo2Layout

def parseCanInfoMask2Block : Decoder Warning CanInfoMask2Block :=
  canInfo2Layout.parseBlock

/-!
## Electric Info Mask 1
-/

inductive ElectricInfo1Field where
  | batteryInstantaneousVoltage | batteryChargingCyclesCount
  | totalEnergyRecuperated | batteryLevelPercent | chargingState
  | batteryTemperatureC | batteryChargingCurrent | batteryInstantaneousPower
  | batteryStateOfHealthPercent | totalEnergyUsed | totalEnergyUsedWhenIdling
  | totalEnergyCharged | onlyBatteryChargeLevelPercent
  deriving DecidableEq, Repr

namespace ElectricInfo1Field

abbrev Value : ElectricInfo1Field -> Type
  | batteryLevelPercent => Rat
  | batteryTemperatureC => Int
  | batteryChargingCurrent => Rat
  | batteryInstantaneousPower => Int
  | batteryStateOfHealthPercent => Rat
  | onlyBatteryChargeLevelPercent => Rat
  | _ => Nat

def all : List ElectricInfo1Field :=
  [batteryInstantaneousVoltage, batteryChargingCyclesCount,
    totalEnergyRecuperated, batteryLevelPercent, chargingState,
    batteryTemperatureC, batteryChargingCurrent, batteryInstantaneousPower,
    batteryStateOfHealthPercent, totalEnergyUsed, totalEnergyUsedWhenIdling,
    totalEnergyCharged, onlyBatteryChargeLevelPercent]

def bitOf : ElectricInfo1Field -> Nat
  | batteryInstantaneousVoltage => 0
  | batteryChargingCyclesCount => 1
  | totalEnergyRecuperated => 2
  | batteryLevelPercent => 3
  | chargingState => 4
  | batteryTemperatureC => 5
  | batteryChargingCurrent => 6
  | batteryInstantaneousPower => 7
  | batteryStateOfHealthPercent => 8
  | totalEnergyUsed => 9
  | totalEnergyUsedWhenIdling => 10
  | totalEnergyCharged => 11
  | onlyBatteryChargeLevelPercent => 12

def read : (f : ElectricInfo1Field) -> Decoder Warning f.Value
  | batteryInstantaneousVoltage => readUInt16BE
  | batteryChargingCyclesCount => readUInt16BE
  | totalEnergyRecuperated => readUInt32BE
  | batteryLevelPercent => scaled readUInt8 (4 / 10)
  | chargingState => readUInt16BE
  | batteryTemperatureC => readInt16BE
  | batteryChargingCurrent => scaled readUInt16BE (1 / 10)
  | batteryInstantaneousPower => readInt16BE
  | batteryStateOfHealthPercent => scaled readUInt8 (4 / 10)
  | totalEnergyUsed => readUInt32BE
  | totalEnergyUsedWhenIdling => readUInt32BE
  | totalEnergyCharged => readUInt32BE
  | onlyBatteryChargeLevelPercent => scaled readUInt8 (4 / 10)

end ElectricInfo1Field

def electricInfo1Layout : MaskLayout Warning where
  Field := ElectricInfo1Field
  decEq := inferInstance
  Value := ElectricInfo1Field.Value
  bitOf := ElectricInfo1Field.bitOf
  bitCase := switchBit ElectricInfo1Field.all ElectricInfo1Field.bitOf []
  bitCase_eq_field_iff := switchBit_eq_field_iff
    (fun f => by cases f <;> decide) (by decide)
  read f := FieldDecoder.assign f.read
  stopped := Warning.stoppedDecoding MaskKind.electricInfoMask1
  notDecoded := Warning.bitsNotDecoded MaskKind.electricInfoMask1

abbrev ElectricInfoMask1Block : Type := MaskBlock electricInfo1Layout

def parseElectricInfoMask1Block : Decoder Warning ElectricInfoMask1Block :=
  electricInfo1Layout.parseBlock

/-!
## CAN Info Mask 3
-/

inductive CanInfo3Field where
  | totalRetarderUsageTimeSeconds | totalCo2EmissionKg
  | totalPtoUsageTimeSeconds | totalFuelUsedWithPtoEngagedMl
  | currentGearNumber
  deriving DecidableEq, Repr

namespace CanInfo3Field

def all : List CanInfo3Field :=
  [totalRetarderUsageTimeSeconds, totalCo2EmissionKg,
    totalPtoUsageTimeSeconds, totalFuelUsedWithPtoEngagedMl,
    currentGearNumber]

def bitOf : CanInfo3Field -> Nat
  | totalRetarderUsageTimeSeconds => 0
  | totalCo2EmissionKg => 2
  | totalPtoUsageTimeSeconds => 3
  | totalFuelUsedWithPtoEngagedMl => 4
  | currentGearNumber => 8

def read : CanInfo3Field -> Decoder Warning Nat
  | totalRetarderUsageTimeSeconds => readUInt32BE
  | totalCo2EmissionKg => readUInt32BE
  | totalPtoUsageTimeSeconds => readUInt32BE
  | totalFuelUsedWithPtoEngagedMl => readUInt32BE
  | currentGearNumber => readUInt8

end CanInfo3Field

def canInfo3Layout : MaskLayout Warning where
  Field := CanInfo3Field
  decEq := inferInstance
  Value _ := Nat
  bitOf := CanInfo3Field.bitOf
  bitCase := switchBit CanInfo3Field.all CanInfo3Field.bitOf []
  bitCase_eq_field_iff := switchBit_eq_field_iff
    (fun f => by cases f <;> decide) (by decide)
  read f := FieldDecoder.assign f.read
  stopped := Warning.stoppedDecoding MaskKind.canInfoMask3
  notDecoded := Warning.bitsNotDecoded MaskKind.canInfoMask3

abbrev CanInfoMask3Block : Type := MaskBlock canInfo3Layout

def parseCanInfoMask3Block : Decoder Warning CanInfoMask3Block :=
  canInfo3Layout.parseBlock

/-!
## Every field is read lawfully
-/

instance : Decoder.Lawful readDtcCode :=
  Decoder.lawful_take_ofExcept (fun _ h => decodeDtcCode_accepts h)

instance : Decoder.Lawful readFuelConsumption := by
  unfold readFuelConsumption
  infer_instance

instance : Decoder.Lawful readFuelLevel := by
  unfold readFuelLevel
  infer_instance

instance : Decoder.Lawful readTyre := by
  unfold readTyre
  infer_instance

instance {α : Type} (item : Decoder Warning α) [Decoder.Lawful item] :
    Decoder.Lawful (readCounted item) := by
  unfold readCounted
  infer_instance

theorem CanInfo1Field.read_lawful (f : CanInfo1Field) :
    Decoder.Lawful f.read := by
  cases f <;> unfold CanInfo1Field.read <;> infer_instance

theorem CanInfo1Field.read_plain (f : CanInfo1Field) :
    (canInfo1Layout.read f).Plain :=
  ⟨f.read, f.read_lawful, rfl⟩

theorem CanInfo2Field.read_lawful (f : CanInfo2Field) :
    Decoder.Lawful f.read := by
  cases f <;> unfold CanInfo2Field.read <;> infer_instance

theorem CanInfo2Field.read_plain (f : CanInfo2Field) :
    (canInfo2Layout.read f).Plain :=
  ⟨f.read, f.read_lawful, rfl⟩

theorem ElectricInfo1Field.read_lawful (f : ElectricInfo1Field) :
    Decoder.Lawful f.read := by
  cases f <;> unfold ElectricInfo1Field.read <;> infer_instance

theorem ElectricInfo1Field.read_plain (f : ElectricInfo1Field) :
    (electricInfo1Layout.read f).Plain :=
  ⟨f.read, f.read_lawful, rfl⟩

theorem CanInfo3Field.read_lawful (f : CanInfo3Field) :
    Decoder.Lawful f.read := by
  cases f <;> unfold CanInfo3Field.read <;> infer_instance

theorem CanInfo3Field.read_plain (f : CanInfo3Field) :
    (canInfo3Layout.read f).Plain :=
  ⟨f.read, f.read_lawful, rfl⟩

end Tracker
end AvtTracker
