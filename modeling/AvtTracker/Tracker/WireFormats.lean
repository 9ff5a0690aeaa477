import AvtTracker.Foundation.WireFormat
import AvtTracker.Tracker.Fixtures
import AvtTracker.Tracker.Report

/-!
# Wire formats of the report fields

What every field of a report looks like on the wire, and what it means.  The
formats state the layout on their own; each is shown to be what the field's
reader reads.
-/

namespace AvtTracker
namespace Tracker

open Foundation BufferCursor

def u8 : WireFormat Nat := unsignedFormat 1
def u16 : WireFormat Nat := unsignedFormat 2
def u24 : WireFormat Nat := unsignedFormat 3
def u32 : WireFormat Nat := unsignedFormat 4
def i8 : WireFormat Int := signedFormat 1
def i16 : WireFormat Int := signedFormat 2
def i32 : WireFormat Int := signedFormat 4

def scaledFormat (raw : WireFormat Nat) (factor : Rat) : WireFormat Rat :=
  raw.map (fun n : Nat => (n : Rat) * factor)

def asciiFormat : WireFormat String where
  Wire := { text : List Char //
    text.length < 256 ∧ forall c, c ∈ text -> c.toNat < 128 }
  encode text := beBytes 1 text.val.length ++
    text.val.map (fun c => UInt8.ofNat c.toNat)
  meaning text := String.ofList text

/-- Two four-bit values in one byte, the high one first. -/
def nibblesFormat : WireFormat (Nat × Nat) where
  Wire := Fin 16 × Fin 16
  encode w := beBytes 1 (16 * w.1 + w.2)
  meaning w := (w.1, w.2)

/-- A field that is sent only if a condition holds. -/
def optionalFormat {α : Type} (condition : Bool) (W : WireFormat α) :
    WireFormat (Option α) where
  Wire := W.Wire
  encode w := if condition then W.encode w else []
  meaning w := if condition then some (W.meaning w) else none

/-- A time of whole seconds in a four-digit year. -/
def gTimeFormat : WireFormat Date where
  Wire := { t : Int // FourDigitSecond t }
  encode t := gTimeBytes t
  meaning t := { time := some t.val }

/-!
## Numbers and text
-/

theorem reads_scaled {raw : Decoder Warning Nat} {W : WireFormat Nat}
    (h : Reads raw W) (factor : Rat) :
    Reads (scaled raw factor) (scaledFormat W factor) :=
  Reads.map h

theorem reads_ascii :
    Reads (readLengthPrefixedAscii : Decoder Warning String) asciiFormat := by
  rintro ⟨text, hlen, hascii⟩
  have htake := (decodes_take (ω := Warning)
    (text.map (fun c => UInt8.ofNat c.toNat))).map (f := asciiText)
  rw [List.length_map, asciiText_chars hascii] at htake
  exact (decodes_unsigned hlen).bind htake

theorem high_nibble {a b : Nat} (hb : b < 16) :
    (16 * a + b) >>> 4 = a := by
  rw [Nat.shiftRight_eq_div_pow]
  lia

theorem low_nibble {a b : Nat} (hb : b < 16) :
    (16 * a + b) &&& 0xf = b := by
  rw [show (0xf : Nat) = 2 ^ 4 - 1 from rfl, Nat.and_two_pow_sub_one_eq_mod]
  lia

theorem nibble_and {a : Nat} (ha : a < 16) : a &&& 0xf = a := by
  rw [show (0xf : Nat) = 2 ^ 4 - 1 from rfl, Nat.and_two_pow_sub_one_eq_mod]
  lia

theorem decodes_nibbles (w : Fin 16 × Fin 16) :
    Decodes (readUInt8 : Decoder Warning Nat) (nibblesFormat.encode w)
      (16 * w.1 + w.2) :=
  decodes_unsigned (by lia)

theorem reads_optionally {α : Type} (condition : Bool)
    {d : Decoder Warning α} {W : WireFormat α} (h : Reads d W) :
    Reads (Decoder.optionally condition d) (optionalFormat condition W) :=
  fun w => decodes_optionally condition (h w)

theorem decodes_gTime (t : gTimeFormat.Wire) :
    Decodes readGTime (gTimeFormat.encode t)
      (some (gTimeFormat.meaning t)) := by
  have htake : Decodes _ (gTimeBytes t.val) _ :=
    decodes_take_ofExcept (ω := Warning) (decodeGTime_gTimeBytes t.property)
  rwa [gTimeBytes_length] at htake

/-!
## CAN Info and Electric Info
-/

def fuelConsumptionFormat : WireFormat FuelConsumptionReading :=
  (WireFormat.pair (scaledFormat u16 (1 / 10))
    (scaledFormat u16 (5 / 100))).map (fun w =>
      { litersPer100Km := w.1, litersPerHour := w.2 })

def fuelLevelFormat : WireFormat FuelLevelReading :=
  (WireFormat.pair u8 (scaledFormat u8 (4 / 10))).map (fun w =>
    { liters := w.1, percent := w.2 })

def tyreFormat : WireFormat TyreReading :=
  (WireFormat.pair nibblesFormat (WireFormat.pair u16
    (WireFormat.pair (scaledFormat u24 (1 / 100)) u8))).map (fun w =>
      { axlePosition := w.1.1
        wheelPosition := w.1.2
        pressureKpa := w.2.1
        temperatureC := w.2.2.1
        state := w.2.2.2 })

/-- A trouble code: category, four digits, and three flags under five bits
that carry nothing. -/
structure DtcWire where
  category : Fin 4
  digit2 : Fin 4
  digit3 : Fin 16
  digit4 : Fin 16
  digit5 : Fin 16
  unused : Fin 32
  permanent : Bool
  pending : Bool
  confirmed : Bool

def DtcWire.flags (w : DtcWire) : Nat :=
  8 * w.unused + 4 * w.permanent.toNat + 2 * w.pending.toNat +
    w.confirmed.toNat

def DtcWire.encode (w : DtcWire) : Bytes :=
  [UInt8.ofNat (64 * w.category + 16 * w.digit2 + w.digit3),
    UInt8.ofNat (16 * w.digit4 + w.digit5), UInt8.ofNat w.flags]

def DtcWire.meaning (w : DtcWire) : DtcCode where
  code := String.ofList
    [dtcCategoryLetters.getD w.category 'P', hexDigit w.digit2,
      hexDigit w.digit3, hexDigit w.digit4, hexDigit w.digit5]
  permanent := w.permanent
  pending := w.pending
  confirmed := w.confirmed

def dtcFormat : WireFormat DtcCode where
  Wire := DtcWire
  encode := DtcWire.encode
  meaning := DtcWire.meaning

theorem reads_fuelConsumption :
    Reads readFuelConsumption fuelConsumptionFormat :=
  fun w => (reads_scaled (reads_unsigned 2) _ w.1).bind
    ((reads_scaled (reads_unsigned 2) _ w.2).map)

theorem reads_fuelLevel : Reads readFuelLevel fuelLevelFormat :=
  fun w => (reads_unsigned 1 w.1).bind
    ((reads_scaled (reads_unsigned 1) _ w.2).map)

theorem reads_tyre : Reads readTyre tyreFormat := by
  rintro ⟨location, pressure, temperature, state⟩
  have hread : Decodes readTyre
      (tyreFormat.encode (location, pressure, temperature, state))
      { axlePosition := ((16 * location.1.val + location.2.val) >>> 4) &&& 0xf
        wheelPosition := (16 * location.1.val + location.2.val) &&& 0xf
        pressureKpa := u16.meaning pressure
        temperatureC := (scaledFormat u24 (1 / 100)).meaning temperature
        state := u8.meaning state } :=
    (decodes_nibbles location).bind ((reads_unsigned 2 pressure).bind
      ((reads_scaled (reads_unsigned 3) _ temperature).bind
        ((reads_unsigned 1 state).map)))
  rw [high_nibble location.2.isLt, low_nibble location.2.isLt,
    nibble_and location.1.isLt] at hread
  exact hread

theorem dtc_flags : forall (unused : Fin 32) (permanent pending confirmed : Bool),
    let n := 8 * unused.val + 4 * permanent.toNat + 2 * pending.toNat +
      confirmed.toNat
    n < 256 ∧ decide (n &&& 0x4 ≠ 0) = permanent ∧
      decide (n &&& 0x2 ≠ 0) = pending ∧
      decide (n &&& 0x1 ≠ 0) = confirmed := by
  decide

theorem dtc_head : forall (category digit2 : Fin 4) (digit3 : Fin 16),
    let n := 64 * category.val + 16 * digit2.val + digit3.val
    n < 256 ∧ (n >>> 6) &&& 0x3 = category.val ∧
      (n >>> 4) &&& 0x3 = digit2.val ∧ n &&& 0xf = digit3.val := by
  decide

theorem decodeDtcCode_encode (w : DtcWire) :
    decodeDtcCode w.encode = Except.ok w.meaning := by
  rcases dtc_head w.category w.digit2 w.digit3 with ⟨hlt0, hcat, h2, h3⟩
  rcases dtc_flags w.unused w.permanent w.pending w.confirmed with
    ⟨hlt2, hpermanent, hpending, hconfirmed⟩
  have hlt1 : 16 * w.digit4.val + w.digit5.val < 256 := by lia
  have h0 : byteAt w.encode 0 =
      64 * w.category.val + 16 * w.digit2.val + w.digit3.val :=
    UInt8.toNat_ofNat_of_lt hlt0
  have h1 : byteAt w.encode 1 = 16 * w.digit4.val + w.digit5.val :=
    UInt8.toNat_ofNat_of_lt hlt1
  have hflags : byteAt w.encode 2 = w.flags := UInt8.toNat_ofNat_of_lt hlt2
  have hlen : ¬ w.encode.length ≠ 3 := not_not_intro rfl
  rw [decodeDtcCode, if_neg hlen]
  simp only [h0, h1, hflags, DtcWire.flags, hcat, h2, h3,
    high_nibble w.digit5.isLt, low_nibble w.digit5.isLt,
    nibble_and w.digit4.isLt, hpermanent, hpending, hconfirmed]
  rfl

theorem reads_dtc : Reads readDtcCode dtcFormat := by
  intro w
  exact decodes_take_ofExcept (decodeDtcCode_encode w)

namespace CanInfo1Field

def wire : (f : CanInfo1Field) -> WireFormat f.Value
  | vin => asciiFormat
  | ignitionKey => u8
  | totalDistanceHm => u32
  | totalDistanceImpulses => u32
  | totalFuelUsedMl => u32
  | vehicleSpeedKmh => u16
  | engineRpm => u16
  | engineCoolantTemperatureC => i16
  | fuelConsumption => fuelConsumptionFormat
  | fuelLevel => fuelLevelFormat
  | rangeKm => u24
  | acceleratorPedalPressurePercent => scaledFormat u8 (4 / 10)
  | totalEngineHoursSeconds => u32
  | totalDrivingTimeSeconds => u32
  | totalEngineIdleTimeSeconds => u32
  | totalIdleFuelUsedMl => u32
  | axleWeight1Kg => scaledFormat u16 (5 / 10)
  | axleWeight2Kg => scaledFormat u16 (5 / 10)
  | axleWeight3Kg => scaledFormat u16 (5 / 10)
  | axleWeight4Kg => scaledFormat u16 (5 / 10)
  | detailedIndicators1 => u32
  | detailedIndicators2 => u32
  | lights => u8
  | doors => u8
  | totalVehicleOverspeedTimeSeconds => u32
  | totalVehicleEngineOverspeedTimeSeconds => u32
  | engineColdStartsCount => u24
  | engineAllStartsCount => u24
  | engineStartsByIgnitionCount => u24
  | totalEngineColdRunningTimeSeconds => u32
  | handbrakeAppliesDuringRideCount => u16

theorem reads_wire (f : CanInfo1Field) : Reads f.read f.wire := by
  cases f with
  | vin => exact reads_ascii
  | fuelConsumption => exact reads_fuelConsumption
  | fuelLevel => exact reads_fuelLevel
  | engineCoolantTemperatureC => exact reads_signed 2
  | acceleratorPedalPressurePercent =>
      exact reads_scaled (reads_unsigned 1) _
  | axleWeight1Kg => exact reads_scaled (reads_unsigned 2) _
  | axleWeight2Kg => exact reads_scaled (reads_unsigned 2) _
  | axleWeight3Kg => exact reads_scaled (reads_unsigned 2) _
  | axleWeight4Kg => exact reads_scaled (reads_unsigned 2) _
  | _ => exact reads_unsigned _

end CanInfo1Field

namespace CanInfo2Field

def wire : (f : CanInfo2Field) -> WireFormat f.Value
  | adBlueLevelPercent => scaledFormat u8 (4 / 10)
  | retarderUsagePercent => u8
  | powerMode => u8
  | axleWeight5Kg => scaledFormat u16 (5 / 10)
  | axleWeight6Kg => scaledFormat u16 (5 / 10)
  | axleWeight7Kg => scaledFormat u16 (5 / 10)
  | analogInputMv => u16
  | engineBrakingFactor => u32
  | pedalBrakingFactor => u32
  | totalAcceleratorKickdowns => u24
  | totalEffectiveEngineSpeedTimeSeconds => u32
  | totalCruiseControlTimeSeconds => u32
  | totalAcceleratorKickdownTimeSeconds => u32
  | totalBrakeApplications => u24
  | oilTemperatureC => i16
  | trailerVin => asciiFormat
  | registrationNumber => asciiFormat
  | rapidBrakings => u24
  | rapidAccelerations => u24
  | engineTorquePercent => u8.map (fun n : Nat => (n : Int) - 125)
  | serviceDistanceKm => i32
  | ambientTemperatureC => i16
  | dtcCodes => countedFormat dtcFormat
  | gaseousFuelLevel => fuelLevelFormat
  | fuelLevelCombustion => fuelLevelFormat
  | totalFuelFromVehicleMl => u32
  | totalGaseousFuelUsageKg => scaledFormat u32 (5 / 10)
  | tyres => countedFormat tyreFormat
  | timeToServiceDays => u16.map (fun n : Nat => (n : Int) - 1000)

theorem reads_wire (f : CanInfo2Field) : Reads f.read f.wire := by
  cases f with
  | adBlueLevelPercent => exact reads_scaled (reads_unsigned 1) _
  | axleWeight5Kg => exact reads_scaled (reads_unsigned 2) _
  | axleWeight6Kg => exact reads_scaled (reads_unsigned 2) _
  | axleWeight7Kg => exact reads_scaled (reads_unsigned 2) _
  | oilTemperatureC => exact reads_signed 2
  | trailerVin => exact reads_ascii
  | registrationNumber => exact reads_ascii
  | engineTorquePercent => exact Reads.map (reads_unsigned 1)
  | serviceDistanceKm => exact reads_signed 4
  | ambientTemperatureC => exact reads_signed 2
  | dtcCodes => exact reads_counted reads_dtc
  | gaseousFuelLevel => exact reads_fuelLevel
  | fuelLevelCombustion => exact reads_fuelLevel
  | totalGaseousFuelUsageKg => exact reads_scaled (reads_unsigned 4) _
  | tyres => exact reads_counted reads_tyre
  | timeToServiceDays => exact Reads.map (reads_unsigned 2)
  | _ => exact reads_unsigned _

end CanInfo2Field

namespace ElectricInfo1Field

def wire : (f : ElectricInfo1Field) -> WireFormat f.Value
  | batteryInstantaneousVoltage => u16
  | batteryChargingCyclesCount => u16
  | totalEnergyRecuperated => u32
  | batteryLevelPercent => scaledFormat u8 (4 / 10)
  | chargingState => u16
  | batteryTemperatureC => i16
  | batteryChargingCurrent => scaledFormat u16 (1 / 10)
  | batteryInstantaneousPower => i16
  | batteryStateOfHealthPercent => scaledFormat u8 (4 / 10)
  | totalEnergyUsed => u32
  | totalEnergyUsedWhenIdling => u32
  | totalEnergyCharged => u32
  | onlyBatteryChargeLevelPercent => scaledFormat u8 (4 / 10)

theorem reads_wire (f : ElectricInfo1Field) : Reads f.read f.wire := by
  cases f with
  | batteryLevelPercent => exact reads_scaled (reads_unsigned 1) _
  | batteryTemperatureC => exact reads_signed 2
  | batteryChargingCurrent => exact reads_scaled (reads_unsigned 2) _
  | batteryInstantaneousPower => exact reads_signed 2
  | batteryStateOfHealthPercent => exact reads_scaled (reads_unsigned 1) _
  | onlyBatteryChargeLevelPercent => exact reads_scaled (reads_unsigned 1) _
  | _ => exact reads_unsigned _

end ElectricInfo1Field

namespace CanInfo3Field

def wire : CanInfo3Field -> WireFormat Nat
  | totalRetarderUsageTimeSeconds => u32
  | totalCo2EmissionKg => u32
  | totalPtoUsageTimeSeconds => u32
  | totalFuelUsedWithPtoEngagedMl => u32
  | currentGearNumber => u8

theorem reads_wire (f : CanInfo3Field) : Reads f.read f.wire := by
  cases f <;> exact reads_unsigned _

end CanInfo3Field

end Tracker
end AvtTracker
