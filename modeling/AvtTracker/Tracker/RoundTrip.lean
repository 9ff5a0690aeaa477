import AvtTracker.Tracker.EventDataWire

/-!
# The report decoder inverts the wire layout

A report on the wire is a header, a Data Mask of modelled bits, and a value for
every field.  Decoding its bytes gives back exactly those values: every field
is present exactly when its bit is set, nothing is skipped, and no warning is
noted.
-/

namespace AvtTracker
namespace Tracker

open Foundation BufferCursor

/-!
## GNSS
-/

/-- Satellite counts; each is sent if its bit of the mask is set. -/
structure SatellitesWire where
  mask : Fin 16
  gps : Fin 256
  beidou : Fin 256
  galileo : Fin 256
  glonass : Fin 256

namespace SatellitesWire

def encode (w : SatellitesWire) : Bytes :=
  beBytes 1 w.mask ++
    ((optionalFormat (w.mask.val.testBit 0) u8).encode w.gps ++
      ((optionalFormat (w.mask.val.testBit 1) u8).encode w.beidou ++
        ((optionalFormat (w.mask.val.testBit 2) u8).encode w.galileo ++
          (optionalFormat (w.mask.val.testBit 3) u8).encode w.glonass)))

def meaning (w : SatellitesWire) : Satellites where
  mask := w.mask
  gps := if w.mask.val.testBit 0 then some w.gps.val else none
  beidou := if w.mask.val.testBit 1 then some w.beidou.val else none
  galileo := if w.mask.val.testBit 2 then some w.galileo.val else none
  glonass := if w.mask.val.testBit 3 then some w.glonass.val else none

end SatellitesWire

def satellitesFormat : WireFormat Satellites where
  Wire := SatellitesWire
  encode := SatellitesWire.encode
  meaning := SatellitesWire.meaning

theorem decodes_satellites (w : SatellitesWire) :
    Decodes readSatellites w.encode w.meaning :=
  (decodes_unsigned (by have := w.mask.isLt; lia)).bind
    ((reads_optionally _ (reads_unsigned 1) w.gps).bind
      ((reads_optionally _ (reads_unsigned 1) w.beidou).bind
        ((reads_optionally _ (reads_unsigned 1) w.galileo).bind
          ((reads_optionally _ (reads_unsigned 1) w.glonass).map))))

/-- The parts of a fix; each is sent if its bit of the info mask is set.
Latitude and longitude are in millionths of a degree. -/
structure GnssFixWire where
  fixType : Fin 16 × Fin 16
  hdop : Fin 256
  speedKmh : Fin (256 ^ 2)
  azimuth : Fin (256 ^ 2)
  altitudeM : { z : Int // SignedRange 2 z }
  latitude : { z : Int // SignedRange 4 z }
  longitude : { z : Int // SignedRange 4 z }
  utcTime : { t : Int // FourDigitSecond t }
  satellites : SatellitesWire

namespace GnssFixWire

def encode (infoMask : Nat) (w : GnssFixWire) : Bytes :=
  (optionalFormat (infoMask.testBit 0) nibblesFormat).encode w.fixType ++
    ((optionalFormat (infoMask.testBit 1) u8).encode w.hdop ++
      ((optionalFormat (infoMask.testBit 2) u16).encode w.speedKmh ++
        ((optionalFormat (infoMask.testBit 3) u16).encode w.azimuth ++
          ((optionalFormat (infoMask.testBit 4) i16).encode w.altitudeM ++
            ((optionalFormat (infoMask.testBit 5) i32).encode w.latitude ++
              ((optionalFormat (infoMask.testBit 6) i32).encode w.longitude ++
                ((optionalFormat (infoMask.testBit 7) gTimeFormat).encode
                  w.utcTime ++
                  (optionalFormat (infoMask.testBit 8) satellitesFormat).encode
                    w.satellites)))))))

def meaning (infoMask : Nat) (w : GnssFixWire) : GnssFix where
  fixTypeRaw :=
    if infoMask.testBit 0 then some (16 * w.fixType.1.val + w.fixType.2.val)
    else none
  generatedType :=
    if infoMask.testBit 0 then some w.fixType.1.val else none
  fixResult := if infoMask.testBit 0 then some w.fixType.2.val else none
  hdop := if infoMask.testBit 1 then some w.hdop.val else none
  speedKmh := if infoMask.testBit 2 then some w.speedKmh.val else none
  azimuth := if infoMask.testBit 3 then some w.azimuth.val else none
  altitudeM := if infoMask.testBit 4 then some w.altitudeM.val else none
  latitude :=
    if infoMask.testBit 5 then some ((w.latitude.val : Rat) / 1000000)
    else none
  longitude :=
    if infoMask.testBit 6 then some ((w.longitude.val : Rat) / 1000000)
    else none
  utcTime :=
    if infoMask.testBit 7 then some { time := some w.utcTime.val } else none
  satellites :=
    if infoMask.testBit 8 then some w.satellites.meaning else none

end GnssFixWire

theorem join_ite_some {α : Type} (condition : Bool) (a : Option α) :
    (if condition then some a else none).join =
      if condition then a else none := by
  cases condition <;> rfl

theorem decodes_gnssFix (infoMask : Nat) (w : GnssFixWire) :
    Decodes (parseGnssFix infoMask) (w.encode infoMask)
      (w.meaning infoMask) := by
  have hread : Decodes (parseGnssFix infoMask) (w.encode infoMask)
      { fixTypeRaw :=
          if infoMask.testBit 0 then
            some (16 * w.fixType.1.val + w.fixType.2.val) else none
        generatedType :=
          (if infoMask.testBit 0 then
            some (16 * w.fixType.1.val + w.fixType.2.val) else none).map
              (fun raw => (raw >>> 4) &&& 0x0f)
        fixResult :=
          (if infoMask.testBit 0 then
            some (16 * w.fixType.1.val + w.fixType.2.val) else none).map
              (fun raw => raw &&& 0x0f)
        hdop := if infoMask.testBit 1 then some w.hdop.val else none
        speedKmh := if infoMask.testBit 2 then some w.speedKmh.val else none
        azimuth := if infoMask.testBit 3 then some w.azimuth.val else none
        altitudeM := if infoMask.testBit 4 then some w.altitudeM.val else none
        latitude :=
          (if infoMask.testBit 5 then some w.latitude.val else none).map
            (fun raw : Int => (raw : Rat) / 1000000)
        longitude :=
          (if infoMask.testBit 6 then some w.longitude.val else none).map
            (fun raw : Int => (raw : Rat) / 1000000)
        utcTime :=
          (if infoMask.testBit 7 then
            some (some (gTimeFormat.meaning w.utcTime)) else none).join
        satellites :=
          if infoMask.testBit 8 then some w.satellites.meaning else none } :=
    (decodes_optionally _ (decodes_nibbles w.fixType)).bind
      ((reads_optionally _ (reads_unsigned 1) w.hdop).bind
        ((reads_optionally _ (reads_unsigned 2) w.speedKmh).bind
          ((reads_optionally _ (reads_unsigned 2) w.azimuth).bind
            ((reads_optionally _ (reads_signed 2) w.altitudeM).bind
              ((reads_optionally _ (reads_signed 4) w.latitude).bind
                ((reads_optionally _ (reads_signed 4) w.longitude).bind
                  ((decodes_optionally _ (decodes_gTime w.utcTime)).bind
                    ((decodes_optionally _
                      (decodes_satellites w.satellites)).map))))))))
  simp only [map_ite_some, join_ite_some, high_nibble w.fixType.2.isLt,
    low_nibble w.fixType.2.isLt, nibble_and w.fixType.1.isLt] at hread
  exact hread

/-- Fixes behind one info mask. -/
structure GnssWire where
  infoMask : Fin 512
  fixes : { fixes : List GnssFixWire // fixes.length < 256 }

def gnssFormat : WireFormat GnssBlock where
  Wire := GnssWire
  encode w := beBytes 2 w.infoMask ++ (beBytes 1 w.fixes.val.length ++
    w.fixes.val.flatMap (GnssFixWire.encode w.infoMask))
  meaning w :=
    { infoMask := w.infoMask
      count := w.fixes.val.length
      fixes := w.fixes.val.map (GnssFixWire.meaning w.infoMask)
      primary := (w.fixes.val.map (GnssFixWire.meaning w.infoMask))[0]? }

theorem reads_gnss : Reads parseGnssBlock gnssFormat := by
  intro w
  have hmask : w.infoMask.val < 256 ^ 2 := by have := w.infoMask.isLt; lia
  exact (decodes_unsigned hmask).bind ((decodes_unsigned w.fixes.property).bind
    (decodes_times (decodes_gnssFix w.infoMask) w.fixes.val).map)

/-!
## CAN Advanced Information
-/

/-- A mask and the data of the PID of every bit. -/
structure CanAdvancedWire where
  mask : Fin (256 ^ 4)
  data : Nat -> { bytes : Bytes // bytes.length < 256 }

namespace CanAdvancedWire

def encodeBit (w : CanAdvancedWire) (bit : Nat) : Bytes :=
  beBytes 1 (w.data bit).val.length ++ (w.data bit).val

def encode (w : CanAdvancedWire) : Bytes :=
  beBytes 4 w.mask ++ (setBits w.mask).flatMap w.encodeBit

def pid (w : CanAdvancedWire) (bit : Nat) : CanAdvancedInfoPid where
  pid := bit + 1
  data := w.data bit

def block (w : CanAdvancedWire) : CanAdvancedInfoMask1Block where
  mask := w.mask
  pids := (setBits w.mask).map w.pid

/-- The first data byte sent for the PID of a bit, zero if there is none. -/
def firstByte (w : CanAdvancedWire) (bit : Nat) : Nat :=
  if bit ∈ setBits w.mask then
    (((w.data bit).val[0]?).map UInt8.toNat).getD 0
  else 0

/-- What the first eight PIDs say, if the first one is sent with data. -/
def mobileye (w : CanAdvancedWire) : Option MobileyeAdasReading :=
  if 0 ∈ setBits w.mask ∧ (w.data 0).val ≠ [] then some
    { headwayValid := w.firstByte 0 == 1
      headwayMeasurementSeconds := (w.firstByte 1 : Rat) * (1 / 10)
      pedestrianForwardCollisionWarning := w.firstByte 2 == 1
      pedestrianInDangerZone := w.firstByte 3 == 1
      laneDepartureWarningOff := w.firstByte 4 == 1
      forwardCollisionWarningOn := w.firstByte 5 == 1
      leftLaneDepartureWarningOn := w.firstByte 6 == 1
      rightLaneDepartureWarningOn := w.firstByte 7 == 1 }
  else none

def meaning (w : CanAdvancedWire) : CanAdvancedFields where
  canAdvancedInfo1 := w.block
  mobileyeAdas := w.mobileye
  mobileyeAdasEvents := w.mobileye.map deriveMobileyeAdasEvents

end CanAdvancedWire

def canAdvancedFormat : WireFormat CanAdvancedFields where
  Wire := CanAdvancedWire
  encode := CanAdvancedWire.encode
  meaning := CanAdvancedWire.meaning

theorem find?_pid (w : CanAdvancedWire) (bits : List Nat) (bit : Nat) :
    (bits.map w.pid).find? (fun entry => entry.pid == bit + 1) =
      if bit ∈ bits then some (w.pid bit) else none := by
  induction bits with
  | nil => rfl
  | cons b bits ih =>
      rw [List.map_cons, List.find?_cons]
      by_cases h : b = bit
      · simp [h, CanAdvancedWire.pid]
      · have hne : ((w.pid b).pid == bit + 1) = false := by
          apply beq_false_of_ne
          change b + 1 ≠ bit + 1
          lia
        rw [hne, ih]
        simp [Ne.symm h]

theorem pidData_block (w : CanAdvancedWire) (bit : Nat) :
    pidData w.block.pids (bit + 1) =
      if bit ∈ setBits w.mask then some (w.data bit).val else none := by
  unfold pidData CanAdvancedWire.block
  rw [← List.map_reverse, find?_pid]
  by_cases h : bit ∈ setBits w.mask.val <;> simp [h, CanAdvancedWire.pid]

theorem byteOf_block (w : CanAdvancedWire) (bit : Nat) :
    byteOf w.block.pids (bit + 1) = w.firstByte bit := by
  unfold byteOf CanAdvancedWire.firstByte
  rw [pidData_block]
  by_cases h : bit ∈ setBits w.mask.val <;> simp [h]

theorem canAdvancedFields_block (w : CanAdvancedWire) :
    canAdvancedFields w.block = w.meaning := by
  have hderive : deriveMobileyeAdasReading w.block = w.mobileye := by
    unfold deriveMobileyeAdasReading CanAdvancedWire.mobileye
    rw [pidData_block w 0, byteOf_block w 0, byteOf_block w 1,
      byteOf_block w 2, byteOf_block w 3, byteOf_block w 4, byteOf_block w 5,
      byteOf_block w 6, byteOf_block w 7]
    by_cases h : 0 ∈ setBits w.mask.val
    · by_cases hnil : (w.data 0).val = [] <;> simp [h, hnil]
    · simp [h]
  unfold canAdvancedFields CanAdvancedWire.meaning
  rw [hderive]

theorem reads_pid : Reads readPid prefixedFormat :=
  reads_prefixed

theorem pidsOf_of_holds {w : CanAdvancedWire} {buf : Bytes}
    {visits : List (Nat × Nat)}
    (h : forall visit, visit ∈ visits ->
      Holds buf visit.2 (w.encodeBit visit.1)) :
    pidsOf buf visits = (visits.map Prod.fst).map w.pid := by
  induction visits with
  | nil => rfl
  | cons visit visits ih =>
      have hread := reads_pid (w.data visit.1) buf visit.2
        (h visit List.mem_cons_self)
      have htail := ih (fun v hv => h v (List.mem_cons_of_mem visit hv))
      unfold pidsOf at htail ⊢
      rw [List.filterMap_cons, hread, htail]
      rfl

theorem canAdvancedLoop_of_holds (w : CanAdvancedWire) {buf : Bytes}
    {offset : Nat}
    (h : Holds buf offset ((setBits w.mask).flatMap w.encodeBit)) :
    canAdvancedLoop w.mask buf offset =
      ⟨w.block, none,
        offset + ((setBits w.mask).flatMap w.encodeBit).length, []⟩ := by
  have hadv : forall bit, bit ∈ setBits w.mask.val -> forall o,
      Holds buf o (w.encodeBit bit) ->
        canAdvancedAdvance bit buf o =
          ⟨none, o + (w.encodeBit bit).length, []⟩ := by
    intro bit _ o ho
    have hread := reads_pid (w.data bit) buf o ho
    unfold canAdvancedAdvance
    rw [hread]
    rfl
  rcases walk_of_holds hadv offset h with ⟨hstop, hoffset, hnotes, hvisits⟩
  have hpids := pidsOf_of_holds hvisits
  rw [walk_visits_of_no_stop hstop] at hpids
  rw [canAdvancedLoop_eq]
  simp only [canAdvancedWalk, hstop, hoffset, hnotes, hpids, stopNotes,
    Option.map_none, List.append_nil]
  rfl

theorem decodes_canAdvanced (w : CanAdvancedWire) :
    Decodes readCanAdvancedFields w.encode w.meaning := by
  have hblock : Decodes parseCanAdvancedInfoMask1Block w.encode w.block := by
    refine (decodes_unsigned w.mask.isLt).bind ?_
    intro buf offset hholds
    change Outcome.mk (Except.ok (canAdvancedLoop w.mask buf offset).state)
      (canAdvancedLoop w.mask buf offset).offset
      ((canAdvancedLoop w.mask buf offset).notes ++ []) = _
    rw [canAdvancedLoop_of_holds w hholds]
    rfl
  rw [← canAdvancedFields_block w]
  exact hblock.map

theorem reads_canAdvanced :
    Reads readCanAdvancedFields canAdvancedFormat :=
  decodes_canAdvanced

/-!
## Reports
-/

namespace ReportField

def wire : (f : ReportField) -> WireFormat f.Value
  | frame => (WireFormat.pair u8 u8).map (fun w =>
      { count := w.1, id := w.2 })
  | networkType => u8
  | battery => (WireFormat.pair u16 u8).map (fun w =>
      { voltageMv := w.1, levelPercent := w.2 })
  | gnss => gnssFormat
  | cell => (WireFormat.pair u16 (WireFormat.pair u16 (WireFormat.pair u16
      (WireFormat.pair u32 u8)))).map (fun w =>
        { mcc := w.1, mnc := w.2.1, lac := w.2.2.1, cellId := w.2.2.2.1
          csq := w.2.2.2.2 })
  | upgrade => (WireFormat.pair u8 (rawFormat 2)).map (fun w =>
      { code := w.1 })
  | eventData => blockFormat eventDataLayout EventDataField.wire
  | canInfo1 => blockFormat canInfo1Layout CanInfo1Field.wire
  | canInfo2 => blockFormat canInfo2Layout CanInfo2Field.wire
  | electricInfo1 =>
      blockFormat electricInfo1Layout ElectricInfo1Field.wire
  | canInfo3 => blockFormat canInfo3Layout CanInfo3Field.wire
  | canAdvancedInfo1 => canAdvancedFormat

theorem reads_wire (f : ReportField) : Reads f.read f.wire := by
  cases f with
  | frame =>
      exact fun w => (reads_unsigned 1 w.1).bind ((reads_unsigned 1 w.2).map)
  | networkType => exact reads_unsigned 1
  | battery =>
      exact fun w => (reads_unsigned 2 w.1).bind ((reads_unsigned 1 w.2).map)
  | gnss => exact reads_gnss
  | cell =>
      exact fun w => (reads_unsigned 2 w.1).bind
        ((reads_unsigned 2 w.2.1).bind ((reads_unsigned 2 w.2.2.1).bind
          ((reads_unsigned 4 w.2.2.2.1).bind
            ((reads_unsigned 1 w.2.2.2.2).map))))
  | upgrade =>
      exact fun w => (reads_unsigned 1 w.1).bind
        (Decodes.map (Decodes.map (reads_raw 2 w.2)))
  | eventData =>
      exact reads_parseBlock EventDataField.reads_wire
  | canInfo1 =>
      exact reads_parseBlock (fun f => fieldReads_assign f.reads_wire)
  | canInfo2 =>
      exact reads_parseBlock (fun f => fieldReads_assign f.reads_wire)
  | electricInfo1 =>
      exact reads_parseBlock (fun f => fieldReads_assign f.reads_wire)
  | canInfo3 =>
      exact reads_parseBlock (fun f => fieldReads_assign f.reads_wire)
  | canAdvancedInfo1 => exact reads_canAdvanced

end ReportField

/-- A report on the wire: its header, and the fields of its Data Mask. -/
structure ReportWire where
  majorVersion : Fin 256
  minorVersion : Fin 256
  eventType : Fin 256
  eventState : Fin 256
  block : WireBlock reportLayout ReportField.wire

namespace ReportWire

def encode (w : ReportWire) : Bytes :=
  buildReportDataZone (w.majorVersion, w.minorVersion) w.eventType
    w.eventState w.block.mask w.block.encodeFields

def meaning (w : ReportWire) : TrackerReportPayload where
  protocolVersion := String.ofList (Nat.toDigits 10 w.majorVersion ++
    '.' :: padStart 2 (Nat.toDigits 10 w.minorVersion))
  eventType := w.eventType
  eventName := getEventTypeName w.eventType
  eventState := w.eventState
  block := w.block.meaning

end ReportWire

theorem decodes_protocolVersion (major minor : Fin 256) :
    Decodes readProtocolVersion [UInt8.ofNat major, UInt8.ofNat minor]
      (String.ofList (Nat.toDigits 10 major ++
        '.' :: padStart 2 (Nat.toDigits 10 minor))) := by
  have hformat : formatProtocolVersion
      [UInt8.ofNat major, UInt8.ofNat minor] =
      Except.ok (String.ofList (Nat.toDigits 10 major ++
        '.' :: padStart 2 (Nat.toDigits 10 minor))) := by
    have h0 : byteAt [UInt8.ofNat major, UInt8.ofNat minor] 0 = major :=
      UInt8.toNat_ofNat_of_lt major.isLt
    have h1 : byteAt [UInt8.ofNat major, UInt8.ofNat minor] 1 = minor :=
      UInt8.toNat_ofNat_of_lt minor.isLt
    have hlen : ¬ [UInt8.ofNat major.val, UInt8.ofNat minor.val].length ≠ 2 :=
      not_not_intro rfl
    rw [formatProtocolVersion, if_neg hlen, h0, h1]
  exact decodes_take_ofExcept hformat

/-- Decoding an encoded report gives back exactly what was encoded. -/
theorem parseReportDataZone_encode (w : ReportWire) :
    parseReportDataZone.run w.encode 0 =
      ⟨Except.ok w.meaning, w.encode.length, []⟩ := by
  have hread : Decodes parseReportDataZone
      ([UInt8.ofNat w.majorVersion, UInt8.ofNat w.minorVersion] ++
        (beBytes 1 w.eventType ++ (beBytes 1 w.eventState ++
          (beBytes 4 w.block.mask ++ w.block.encodeFields)))) w.meaning :=
    (decodes_protocolVersion w.majorVersion w.minorVersion).bind
      ((reads_unsigned 1 w.eventType).bind
        ((reads_unsigned 1 w.eventState).bind
          ((decodes_unsigned w.block.mask_lt).bind
            ((parseFields_decodes
              (fun f => fieldReads_assign (ReportField.reads_wire f))
              w.block).map))))
  have hbytes : w.encode =
      [UInt8.ofNat w.majorVersion, UInt8.ofNat w.minorVersion] ++
        (beBytes 1 w.eventType ++ (beBytes 1 w.eventState ++
          (beBytes 4 w.block.mask ++ w.block.encodeFields))) := by
    unfold ReportWire.encode buildReportDataZone
    simp [beBytes]
  have hrun := hread _ 0 (holds_self _)
  rw [hbytes, hrun, Nat.zero_add]

end Tracker
end AvtTracker
