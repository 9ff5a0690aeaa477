import AvtTracker.Tracker.WireFormats

/-!
# Wire formats of the Event Data and GNSS fields

The fields with structure of their own: one-wire sensors and fixes whose parts
depend on a mask, hour meters, and the plain records.
-/

namespace AvtTracker
namespace Tracker

open Foundation BufferCursor

/-!
## Plain records
-/

def analogInputFormat : WireFormat AnalogInput :=
  (WireFormat.pair u8 u16).map (fun w => { index := w.1, voltageMv := w.2 })

def mileageFormat : WireFormat Mileage :=
  (WireFormat.pair u16 u32).map (fun w =>
    { currentHm := w.1, totalHm := w.2 })

def idDataFormat : WireFormat IdData :=
  prefixedFormat.map (fun bytes : Bytes =>
    { length := bytes.length, hex := toHex bytes })

def selfCalibrationFormat : WireFormat SelfCalibration :=
  (WireFormat.pair (WireFormat.pair i8 (WireFormat.pair i8 i8))
    (WireFormat.pair (WireFormat.pair i8 (WireFormat.pair i8 i8))
      (WireFormat.pair i8 (WireFormat.pair i8 i8)))).map (fun w =>
        { xForward := w.1.1, yForward := w.1.2.1, zForward := w.1.2.2
          xHorizontal := w.2.1.1, yHorizontal := w.2.1.2.1
          zHorizontal := w.2.1.2.2, xGravity := w.2.2.1
          yGravity := w.2.2.2.1, zGravity := w.2.2.2.2 })

def crashFormat : WireFormat Crash :=
  (WireFormat.pair u8 (WireFormat.pair u8 (WireFormat.pair i16
    (WireFormat.pair i16 i16)))).map (fun w =>
      { counter := w.1, ascStatus := w.2.1, x := w.2.2.1, y := w.2.2.2.1
        z := w.2.2.2.2 })

def certificateFormat : WireFormat Certificate :=
  (WireFormat.pair u8 (WireFormat.pair u8 u8)).map (fun w =>
    { serverProtocolType := w.1, certificateFileType := w.2.1
      downloadCode := w.2.2 })

theorem reads_analogInput : Reads readAnalogInput analogInputFormat :=
  fun w => (reads_unsigned 1 w.1).bind ((reads_unsigned 2 w.2).map)

theorem reads_mileage : Reads readMileage mileageFormat :=
  fun w => (reads_unsigned 2 w.1).bind ((reads_unsigned 4 w.2).map)

theorem reads_idData : Reads readIdData idDataFormat :=
  fun bytes => (decodes_unsigned bytes.property).bind
    ((decodes_take bytes.val).map)

theorem reads_selfCalibration :
    Reads readSelfCalibration selfCalibrationFormat := by
  rintro ⟨⟨a, b, c⟩, ⟨d, e, f⟩, g, h, i⟩
  have hread : Decodes readSelfCalibration
      (i8.encode a ++ (i8.encode b ++ (i8.encode c ++ (i8.encode d ++
        (i8.encode e ++ (i8.encode f ++ (i8.encode g ++
          (i8.encode h ++ i8.encode i))))))))
      (selfCalibrationFormat.meaning ((a, b, c), (d, e, f), g, h, i)) :=
    (reads_signed 1 a).bind ((reads_signed 1 b).bind ((reads_signed 1 c).bind
      ((reads_signed 1 d).bind ((reads_signed 1 e).bind
        ((reads_signed 1 f).bind ((reads_signed 1 g).bind
          ((reads_signed 1 h).bind ((reads_signed 1 i).map))))))))
  have hbytes : selfCalibrationFormat.encode
      ((a, b, c), (d, e, f), g, h, i) =
      i8.encode a ++ (i8.encode b ++ (i8.encode c ++ (i8.encode d ++
        (i8.encode e ++ (i8.encode f ++ (i8.encode g ++
          (i8.encode h ++ i8.encode i))))))) := by
    simp [selfCalibrationFormat, WireFormat.map, WireFormat.pair]
  rw [hbytes]
  exact hread

theorem reads_crash : Reads readCrash crashFormat :=
  fun w => (reads_unsigned 1 w.1).bind ((reads_unsigned 1 w.2.1).bind
    ((reads_signed 2 w.2.2.1).bind ((reads_signed 2 w.2.2.2.1).bind
      ((reads_signed 2 w.2.2.2.2).map))))

theorem reads_certificate : Reads readCertificate certificateFormat :=
  fun w => (reads_unsigned 1 w.1).bind ((reads_unsigned 1 w.2.1).bind
    ((reads_unsigned 1 w.2.2).map))

/-!
## Hour meters
-/

/-- Hours, minutes and seconds of the current and of the total count. -/
structure HourMeterWire where
  currentHours : Fin 256
  currentMinutes : Fin 256
  currentSeconds : Fin 256
  totalHours : Fin (256 ^ 3)
  totalMinutes : Fin 256
  totalSeconds : Fin 256

namespace HourMeterWire

def current (w : HourMeterWire) : Bytes :=
  [UInt8.ofNat w.currentHours, UInt8.ofNat w.currentMinutes,
    UInt8.ofNat w.currentSeconds]

def total (w : HourMeterWire) : Bytes :=
  beBytes 3 w.totalHours ++
    [UInt8.ofNat w.totalMinutes, UInt8.ofNat w.totalSeconds]

def meaning (w : HourMeterWire) : HourMeter where
  currentSeconds :=
    w.currentHours * 3600 + w.currentMinutes * 60 + w.currentSeconds
  totalSeconds := w.totalHours * 3600 + w.totalMinutes * 60 + w.totalSeconds

end HourMeterWire

def hourMeterFormat : WireFormat HourMeter where
  Wire := HourMeterWire
  encode w := w.current ++ w.total
  meaning := HourMeterWire.meaning

theorem decodeShortHms_current (w : HourMeterWire) :
    decodeShortHms w.current = Except.ok w.meaning.currentSeconds := by
  have hlen : ¬ w.current.length ≠ 3 := not_not_intro rfl
  have h0 : byteAt w.current 0 = w.currentHours :=
    UInt8.toNat_ofNat_of_lt w.currentHours.isLt
  have h1 : byteAt w.current 1 = w.currentMinutes :=
    UInt8.toNat_ofNat_of_lt w.currentMinutes.isLt
  have h2 : byteAt w.current 2 = w.currentSeconds :=
    UInt8.toNat_ofNat_of_lt w.currentSeconds.isLt
  rw [decodeShortHms, if_neg hlen, h0, h1, h2]
  rfl

theorem or_bytes {a b c : Nat} (hb : b < 256) (hc : c < 256) :
    (a <<< 16) ||| (b <<< 8) ||| c = a * 65536 + b * 256 + c := by
  have hshift : a <<< 16 = (a <<< 8) <<< 8 := by
    rw [← Nat.shiftLeft_add]
  have hab : (a <<< 16) ||| (b <<< 8) = (a <<< 8 + b) <<< 8 := by
    rw [hshift, ← Nat.shiftLeft_or_distrib,
      ← Nat.shiftLeft_add_eq_or_of_lt (by lia)]
  rw [hab, ← Nat.shiftLeft_add_eq_or_of_lt (by lia), Nat.shiftLeft_eq,
    Nat.shiftLeft_eq]
  lia

theorem decodeExtendedHms_total (w : HourMeterWire) :
    decodeExtendedHms w.total = Except.ok w.meaning.totalSeconds := by
  have hlen : ¬ w.total.length ≠ 5 := not_not_intro rfl
  have hhours := w.totalHours.isLt
  have h0 : byteAt w.total 0 = w.totalHours.val / 256 / 256 :=
    UInt8.toNat_ofNat_of_lt (by lia)
  have h1 : byteAt w.total 1 = w.totalHours.val / 256 % 256 :=
    UInt8.toNat_ofNat'
  have h2 : byteAt w.total 2 = w.totalHours.val % 256 := UInt8.toNat_ofNat'
  have h3 : byteAt w.total 3 = w.totalMinutes :=
    UInt8.toNat_ofNat_of_lt w.totalMinutes.isLt
  have h4 : byteAt w.total 4 = w.totalSeconds :=
    UInt8.toNat_ofNat_of_lt w.totalSeconds.isLt
  rw [decodeExtendedHms, if_neg hlen]
  simp only [h0, h1, h2, h3, h4]
  rw [or_bytes (Nat.mod_lt _ (by decide)) (Nat.mod_lt _ (by decide))]
  have hsplit : w.totalHours.val / 256 / 256 * 65536 +
      w.totalHours.val / 256 % 256 * 256 + w.totalHours.val % 256 =
      w.totalHours.val := by lia
  rw [hsplit]
  rfl

theorem reads_hourMeter : Reads readHourMeter hourMeterFormat := by
  intro w
  have hcurrent : Decodes readShortHms (HourMeterWire.current w)
      (HourMeterWire.meaning w).currentSeconds :=
    decodes_take_ofExcept (decodeShortHms_current w)
  have htotal : Decodes readExtendedHms (HourMeterWire.total w)
      (HourMeterWire.meaning w).totalSeconds :=
    decodes_take_ofExcept (decodeExtendedHms_total w)
  exact hcurrent.bind htotal.map

/-!
## One-wire sensors
-/

/-- A sensor; its readings are sent if the two low bits of the mask ask for
them. -/
structure OneWireWire where
  sensorId : { bytes : Bytes // bytes.length = 8 }
  dataMask : Fin 256
  temperature : { z : Int // SignedRange 2 z }
  humidity : Fin 256

namespace OneWireWire

def encode (w : OneWireWire) : Bytes :=
  w.sensorId.val ++ (beBytes 1 w.dataMask ++
    ((optionalFormat (w.dataMask.val.testBit 0) i16).encode w.temperature ++
      (optionalFormat (w.dataMask.val.testBit 1) u8).encode w.humidity))

def meaning (w : OneWireWire) : OneWireSensorReading where
  sensorIdHex := toHex w.sensorId
  dataMask := w.dataMask
  temperatureC :=
    if w.dataMask.val.testBit 0 then some ((w.temperature.val : Rat) / 10)
    else none
  humidityPercent :=
    if w.dataMask.val.testBit 1 then some w.humidity.val else none

end OneWireWire

def oneWireFormat : WireFormat OneWireSensorReading where
  Wire := OneWireWire
  encode := OneWireWire.encode
  meaning := OneWireWire.meaning

theorem map_ite_some {α β : Type} (condition : Bool) (a : α) (f : α -> β) :
    (if condition then some a else none).map f =
      if condition then some (f a) else none := by
  cases condition <;> rfl

theorem decodes_oneWire (w : OneWireWire) :
    Decodes readOneWireSensor w.encode w.meaning := by
  have hread : Decodes readOneWireSensor w.encode
      { sensorIdHex := toHex w.sensorId
        dataMask := w.dataMask
        temperatureC :=
          (if w.dataMask.val.testBit 0 then some w.temperature.val
            else none).map (fun raw : Int => (raw : Rat) / 10)
        humidityPercent :=
          if w.dataMask.val.testBit 1 then some w.humidity.val else none } :=
    (reads_raw 8 w.sensorId).bind ((reads_unsigned 1 w.dataMask).bind
      ((reads_optionally _ (reads_signed 2) w.temperature).bind
        ((reads_optionally _ (reads_unsigned 1) w.humidity).map)))
  rw [map_ite_some] at hread
  exact hread

theorem reads_oneWire : Reads readOneWireSensor oneWireFormat :=
  decodes_oneWire

namespace EventDataField

def wire : (f : EventDataField) -> WireFormat f.Value
  | mainPowerVoltageMv => u16
  | analogInput => analogInputFormat
  | ignitionMotionState => u8
  | digitalInputState => u8
  | digitalOutputState => u8
  | mileage => mileageFormat
  | geoStatusMask => u32
  | idData => idDataFormat
  | oneWire => countedFormat oneWireFormat
  | hourMeter => hourMeterFormat
  | selfCalibration => selfCalibrationFormat
  | crash => crashFormat
  | certificate => certificateFormat
  | peoStatus1to32 => u32
  | peoStatus33to50 => u32
  | canBusSyncId => u32

theorem reads_wire (f : EventDataField) : FieldReads f.read f.wire := by
  cases f with
  | analogInput => exact fieldReads_assign reads_analogInput
  | mileage => exact fieldReads_assign reads_mileage
  | idData => exact fieldReads_assign reads_idData
  | oneWire => exact fieldReads_assignEach reads_oneWire
  | hourMeter => exact fieldReads_assign reads_hourMeter
  | selfCalibration => exact fieldReads_assign reads_selfCalibration
  | crash => exact fieldReads_assign reads_crash
  | certificate => exact fieldReads_assign reads_certificate
  | _ => exact fieldReads_assign (reads_unsigned _)

end EventDataField

end Tracker
end AvtTracker
