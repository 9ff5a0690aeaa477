import AvtTracker.Foundation.Columns
import AvtTracker.Foundation.Postconditions
import AvtTracker.Tracker.FrameParts
import AvtTracker.Tracker.Persistence
import Mathlib.Data.Nat.Digits.Lemmas

/-!
# The columns of a saved report

What the parser returns is within the bounds of every column of {lit}`int`,
{lit}`bigint`, {lit}`varchar` and {lit}`timestamptz` type that {lit}`saveReport`
writes, except for the key: an IMEI field with large bytes is decoded to a text
that is too long for it.
-/

namespace AvtTracker
namespace Tracker

open Foundation BufferCursor Column

/-!
## The entities
-/

/-- The columns of {lit}`tracker_report` with a bounded type. -/
def TrackerReport.columns (row : TrackerReport) : List Column :=
  [required "imei" (ColumnType.varchar 20) (ColumnValue.text row.imei),
    required "frameKind" (ColumnType.varchar 8)
      (ColumnValue.text row.frameKind),
    varchar 16 "protocolVersion" row.protocolVersion,
    int "eventType" row.eventType,
    varchar 100 "eventName" row.eventName,
    int "eventState" row.eventState,
    signedInt "altitudeM" row.altitudeM,
    int "speedKmh" row.speedKmh,
    int "azimuth" row.azimuth,
    int "satelliteCount" row.satelliteCount,
    int "batteryVoltageMv" row.batteryVoltageMv,
    int "batteryLevelPercent" row.batteryLevelPercent,
    int "mainPowerVoltageMv" row.mainPowerVoltageMv,
    int "networkType" row.networkType,
    int "mcc" row.mcc,
    int "mnc" row.mnc,
    int "lac" row.lac,
    bigint "cellId" row.cellId,
    int "csq" row.csq,
    varchar 16 "dataMaskHex" row.dataMaskHex,
    varchar 16 "eventDataMaskHex" row.eventDataMaskHex,
    timestamptz "generatedAt" row.generatedAt]

/-- The columns of {lit}`tracker_device` with a bounded type, as an upsert sets
them. -/
def DevicePatch.columns (patch : DevicePatch) : List Column :=
  [required "imei" (ColumnType.varchar 20) (ColumnValue.text patch.imei),
    timestamptz "lastSeenAt" patch.lastSeenAt,
    timestamptz "lastReportAt" patch.lastReportAt,
    varchar 8 "lastFrameKind" patch.lastFrameKind,
    signedInt "lastAltitudeM" patch.lastAltitudeM,
    int "lastSpeedKmh" patch.lastSpeedKmh,
    int "lastEventType" patch.lastEventType,
    varchar 100 "lastEventName" patch.lastEventName,
    int "lastBatteryLevelPercent" patch.lastBatteryLevelPercent,
    int "lastBatteryVoltageMv" patch.lastBatteryVoltageMv,
    int "lastNetworkType" patch.lastNetworkType]

/-!
## What the parser yields

The bounds are those of the columns; what has no column has none.
-/

theorem yields_readUInt8 :
    (readUInt8 : Decoder Warning Nat).Yields (fun n => n < 256) :=
  Decoder.yields_unsigned 1

theorem yields_int8 :
    (readUInt8 : Decoder Warning Nat).Yields (fun n => n < 2 ^ 31) :=
  yields_readUInt8.mono fun n hn => Nat.lt_trans hn (by decide)

theorem yields_int16 :
    (readUInt16BE : Decoder Warning Nat).Yields (fun n => n < 2 ^ 31) :=
  (Decoder.yields_unsigned 2).mono fun n hn => Nat.lt_trans hn (by decide)

theorem yields_readUInt32BE :
    (readUInt32BE : Decoder Warning Nat).Yields (fun n => n < 2 ^ 32) :=
  Decoder.yields_unsigned 4

theorem yields_signedInt16 :
    (readInt16BE : Decoder Warning Int).Yields (fun n =>
      -2 ^ 31 ≤ n ∧ n < 2 ^ 31) :=
  (Decoder.yields_signed 2).mono fun n hn => by
    unfold SignedRange at hn
    lia

structure GnssFix.Bounded (fix : GnssFix) : Prop where
  altitudeM : forall n, fix.altitudeM = some n -> -2 ^ 31 ≤ n ∧ n < 2 ^ 31
  speedKmh : forall n, fix.speedKmh = some n -> n < 2 ^ 31
  azimuth : forall n, fix.azimuth = some n -> n < 2 ^ 31
  satellites : forall s, fix.satellites = some s -> satelliteCount s < 2 ^ 31

theorem getD_lt {value : Option Nat} {bound : Nat} (hpos : 0 < bound)
    (h : forall n, n ∈ value -> n < bound) : value.getD 0 < bound := by
  cases value with
  | none => exact hpos
  | some n => exact h n rfl

theorem yields_readSatellites :
    readSatellites.Yields (fun s => satelliteCount s < 2 ^ 31) := by
  unfold readSatellites
  apply Decoder.Yields.after
  intro satMask
  have hread := fun bit =>
    Decoder.yields_optionally (satMask.testBit bit) yields_readUInt8
  refine (hread 0).bind fun gps hgps => (hread 1).bind fun beidou hbeidou =>
    (hread 2).bind fun galileo hgalileo =>
      (hread 3).bind fun glonass hglonass => Decoder.yields_pure ?_
  have h0 := getD_lt (by decide) hgps
  have h1 := getD_lt (by decide) hbeidou
  have h2 := getD_lt (by decide) hgalileo
  have h3 := getD_lt (by decide) hglonass
  unfold satelliteCount
  dsimp only
  lia

theorem yields_parseGnssFix (infoMask : Nat) :
    (parseGnssFix infoMask).Yields GnssFix.Bounded := by
  unfold parseGnssFix
  refine Decoder.Yields.after fun fixType => Decoder.Yields.after fun hdop => ?_
  refine (Decoder.yields_optionally _ yields_int16).bind fun speedKmh hspeed =>
    (Decoder.yields_optionally _ yields_int16).bind fun azimuth hazimuth =>
      (Decoder.yields_optionally _ yields_signedInt16).bind
        fun altitudeM haltitude => ?_
  refine Decoder.Yields.after fun latitude =>
    Decoder.Yields.after fun longitude =>
      Decoder.Yields.after fun utcTime => ?_
  exact (Decoder.yields_optionally _ yields_readSatellites).bind
    fun satellites hsatellites => Decoder.yields_pure
      ⟨haltitude, hspeed, hazimuth, hsatellites⟩

theorem yields_parseGnssBlock : parseGnssBlock.Yields (fun block =>
    forall fix, block.primary = some fix -> fix.Bounded) := by
  unfold parseGnssBlock
  refine Decoder.Yields.after fun infoMask =>
    Decoder.Yields.after fun count => ?_
  refine (Decoder.yields_times count (yields_parseGnssFix infoMask)).bind
    fun fixes hfixes => Decoder.yields_pure ?_
  intro fix hfix
  exact hfixes fix (List.mem_of_getElem? hfix)

def EventDataField.Bounded : (f : EventDataField) -> f.Value -> Prop
  | mainPowerVoltageMv, voltage => voltage < 2 ^ 31
  | _, _ => True

def ReportField.Bounded : (f : ReportField) -> f.Value -> Prop
  | networkType, value => value < 2 ^ 31
  | battery, block => block.voltageMv < 2 ^ 31 ∧ block.levelPercent < 2 ^ 31
  | gnss, block => forall fix, block.primary = some fix -> fix.Bounded
  | cell, block => block.mcc < 2 ^ 31 ∧ block.mnc < 2 ^ 31 ∧
      block.lac < 2 ^ 31 ∧ block.cellId < 2 ^ 32 ∧ block.csq < 2 ^ 31
  | eventData, block => block.mask < 2 ^ 32 ∧
      forall f v, block.fields f = some v -> EventDataField.Bounded f v
  | _, _ => True

theorem yields_readBatteryBlock :
    readBatteryBlock.Yields ReportField.battery.Bounded := by
  unfold readBatteryBlock
  exact yields_int16.bind fun voltageMv hvoltage =>
    yields_int8.bind fun levelPercent hlevel =>
      Decoder.yields_pure ⟨hvoltage, hlevel⟩

theorem yields_readCellBlock :
    readCellBlock.Yields ReportField.cell.Bounded := by
  unfold readCellBlock
  exact yields_int16.bind fun mcc hmcc => yields_int16.bind fun mnc hmnc =>
    yields_int16.bind fun lac hlac =>
      yields_readUInt32BE.bind fun cellId hcellId =>
        yields_int8.bind fun csq hcsq =>
          Decoder.yields_pure ⟨hmcc, hmnc, hlac, hcellId, hcsq⟩

theorem EventDataField.yields_read (f : EventDataField) :
    f.read.Yields f.Bounded := by
  cases f
  case mainPowerVoltageMv => exact assign_yields yields_int16
  all_goals exact FieldDecoder.yields_trivial _

theorem yields_parseEventDataBlock :
    parseEventDataBlock.Yields ReportField.eventData.Bounded :=
  eventDataLayout.parseBlock_yields EventDataField.yields_read

theorem ReportField.yields_read (f : ReportField) :
    f.read.Yields f.Bounded := by
  cases f
  case networkType => exact yields_int8
  case battery => exact yields_readBatteryBlock
  case gnss => exact yields_parseGnssBlock
  case cell => exact yields_readCellBlock
  case eventData => exact yields_parseEventDataBlock
  all_goals exact Decoder.yields_trivial _

/-!
## Texts
-/

theorem decimal_length {n : Nat} (h : n < 2 ^ 31) :
    (Nat.toDigits 10 n).length ≤ 10 := by
  rw [Nat.length_toDigits_le_iff (by decide) (by decide)]
  lia

theorem padded_length {digits : List Char} {width limit : Nat}
    (hdigits : digits.length ≤ limit) (hwidth : width ≤ limit) :
    (padStart width digits).length ≤ limit := by
  unfold padStart
  rw [List.length_append, List.length_replicate]
  lia

theorem yields_readProtocolVersion :
    readProtocolVersion.Yields (fun version => version.length ≤ 16) := by
  unfold readProtocolVersion
  refine Decoder.Yields.after fun bytes => Decoder.yields_ofExcept ?_
  intro version hversion
  have hdigits : forall i, (Nat.toDigits 10 (byteAt bytes i)).length ≤ 3 := by
    intro i
    have hbyte : byteAt bytes i < 256 := (bytes.getD i 0).toNat_lt
    rw [Nat.length_toDigits_le_iff (by decide) (by decide)]
    lia
  unfold formatProtocolVersion at hversion
  rcases ite_eq_iff.mp hversion with ⟨_, hversion⟩ | ⟨_, hversion⟩
  · cases hversion
  · have hmajor := hdigits 0
    have hminor : (padStart 2 (Nat.toDigits 10 (byteAt bytes 1))).length ≤ 3 :=
      padded_length (hdigits 1) (by decide)
    rw [← Except.ok.inj hversion, String.length_ofList, List.length_append,
      List.length_cons]
    lia

theorem token_length (kind : TrackerFrameKind) : kind.token.length ≤ 8 := by
  cases kind <;> decide

theorem listed_name_length {eventType : Nat} {name : String}
    (h : eventTypeNames.lookup eventType = some name) :
    name.length ≤ 100 := by
  have hall : eventTypeNames.all (fun entry => entry.2.length ≤ 100) := by
    decide +kernel
  rcases List.lookup_eq_some_iff.mp h with ⟨front, back, hsplit, _⟩
  have hmem : (eventType, name) ∈ eventTypeNames := by
    rw [hsplit]
    exact List.mem_append_right front List.mem_cons_self
  exact of_decide_eq_true (List.all_eq_true.mp hall _ hmem)

theorem eventName_length {eventType : Nat} (h : eventType < 2 ^ 31) :
    (getEventTypeName eventType).length ≤ 100 := by
  unfold getEventTypeName
  cases hlookup : eventTypeNames.lookup eventType with
  | some name => exact listed_name_length hlookup
  | none =>
      have hnumber :
          (String.ofList (Nat.toDigits 10 eventType)).length ≤ 10 := by
        rw [String.length_ofList]
        exact decimal_length h
      have hfront : "Unknown Event Type (".length = 20 := rfl
      have hback : ")".length = 1 := rfl
      show ("Unknown Event Type (" ++
        String.ofList (Nat.toDigits 10 eventType) ++ ")").length ≤ 100
      rw [String.length_append, String.length_append]
      lia

theorem formatHexMask_length {mask : Nat} (h : mask < 2 ^ 32) :
    (formatHexMask mask).length ≤ 16 := by
  have hdigits : ((Nat.toDigits 16 mask).map Char.toUpper).length ≤ 8 := by
    rw [List.length_map, Nat.length_toDigits_le_iff (by decide) (by decide)]
    exact h
  have hpadded : (String.ofList (padStart 8
      ((Nat.toDigits 16 mask).map Char.toUpper))).length ≤ 8 := by
    rw [String.length_ofList]
    exact padded_length hdigits (Nat.le_refl 8)
  have hfront : "0x".length = 2 := rfl
  unfold formatHexMask
  rw [String.length_append]
  lia

theorem decodeGTime_accepted {bytes : Bytes} {date : Date}
    (h : decodeGTime bytes = Except.ok (some date)) :
    ColumnType.timestamptz.Accepts (ColumnValue.date date) := by
  rcases decodeGTime_range h with ⟨t, ht, hlo, hhi⟩
  exact ⟨t, ht, by lia, by lia⟩

theorem length_pair (b : UInt8) :
    (padStart 2 (Nat.toDigits 10 b.toNat)).length =
      2 + if 100 ≤ b.toNat then 1 else 0 := by
  have hlt := b.toNat_lt
  have hpos : 0 < (Nat.toDigits 10 b.toNat).length :=
    List.length_pos_iff.mpr Nat.toDigits_ne_nil
  have htwo := Nat.length_toDigits_le_iff (b := 10) (n := b.toNat) (k := 2)
    (by decide) (by decide)
  have hthree := Nat.length_toDigits_le_iff (b := 10) (n := b.toNat) (k := 3)
    (by decide) (by decide)
  unfold padStart
  rw [List.length_append, List.length_replicate]
  split_ifs <;> lia

theorem length_pairs (bytes : Bytes) :
    (bytes.flatMap (fun b => padStart 2 (Nat.toDigits 10 b.toNat))).length =
      2 * bytes.length + bytes.countP (fun b => decide (100 ≤ b.toNat)) := by
  induction bytes with
  | nil => rfl
  | cons b bytes ih =>
      rw [List.flatMap_cons, List.length_append, ih, length_pair,
        List.countP_cons, List.length_cons]
      simp only [decide_eq_true_eq]
      lia

/-- Each of the first seven bytes from one hundred on is written with three
digits. -/
theorem length_decodeImei {field : Bytes} {imei : String}
    (hlen : field.length = 8) (h : decodeImei field = Except.ok imei) :
    imei.length =
      15 + (field.take 7).countP (fun b => decide (100 ≤ b.toNat)) := by
  unfold decodeImei at h
  rw [if_neg (not_not_intro hlen)] at h
  have hseven : (field.take 7).length = 7 := by
    rw [List.length_take, hlen]
    rfl
  have hlast : (Nat.toDigits 10 (byteAt field 7 % 10)).length = 1 := by
    rw [Nat.toDigits_of_lt_base (Nat.mod_lt _ (by decide))]
    rfl
  have hpairs : (List.range 7).flatMap (fun i =>
      padStart 2 (Nat.toDigits 10 (byteAt field i))) =
        (field.take 7).flatMap (fun b =>
          padStart 2 (Nat.toDigits 10 b.toNat)) := by
    have hbytes := map_getD_range (field.take 7)
    rw [hseven] at hbytes
    rw [← hbytes, List.flatMap_map]
    apply List.flatMap_congr
    intro i hi
    unfold byteAt
    rw [List.getD_eq_getElem?_getD, List.getD_eq_getElem?_getD,
      List.getElem?_take_of_lt (List.mem_range.mp hi)]
  rw [← Except.ok.inj h, String.length_ofList, List.length_append, hpairs,
    length_pairs, hseven, hlast]
  lia

/-!
## Reports
-/

/-- What a report holds for the columns. -/
structure TrackerReportPayload.Bounded (report : TrackerReportPayload) :
    Prop where
  protocolVersion : report.protocolVersion.length ≤ 16
  eventType : report.eventType < 2 ^ 31
  eventName : report.eventName = getEventTypeName report.eventType
  eventState : report.eventState < 2 ^ 31
  dataMask : report.dataMask < 2 ^ 32
  fields : forall f v, report.get f = some v -> f.Bounded v

theorem yields_parseReportDataZone :
    parseReportDataZone.Yields TrackerReportPayload.Bounded := by
  unfold parseReportDataZone
  refine yields_readProtocolVersion.bind fun protocolVersion hversion =>
    yields_int8.bind fun eventType htype =>
      yields_int8.bind fun eventState hstate =>
        yields_readUInt32BE.bind fun dataMask hmask => ?_
  refine (reportLayout.parseFields_yields
    (fun f => assign_yields (ReportField.yields_read f)) dataMask).bind
      fun block hblock => Decoder.yields_pure ?_
  have hdata : block.mask < 2 ^ 32 := by
    rw [hblock.left]
    exact hmask
  exact ⟨hversion, htype, rfl, hstate, hdata, hblock.right⟩

section Statements

variable {parsed : ParsedTrackerFrame} {report : TrackerReportPayload}

theorem parseFrame_report_bounded {frame : Bytes}
    (hparsed : parseFrame frame = Except.ok parsed)
    (hreport : parsed.report = some report) : report.Bounded := by
  rcases exists_envelopeAt_of_parseFrame hparsed with ⟨colonIndex, h⟩
  rw [parseFrame_of_envelope h.left h.right.left h.right.right] at hparsed
  rw [← Except.ok.inj hparsed] at hreport
  unfold parseDataZone at hreport
  split_ifs at hreport
  exact yields_parseReportDataZone _ 0 report (toOption_eq_some hreport)

namespace TrackerReportPayload.Bounded

variable (h : report.Bounded) {name : String}

include h

theorem eventName_accepted :
    (varchar 100 name (some report.eventName)).Accepted := by
  apply varchar_some_accepted
  rw [h.eventName]
  exact eventName_length h.eventType

theorem exists_fix {α : Type} {member : GnssFix -> Option α} {a : α}
    (ha : report.primaryFix.bind member = some a) :
    exists fix, fix.Bounded ∧ member fix = some a := by
  rcases Option.bind_eq_some_iff.mp ha with ⟨fix, hfix, hvalue⟩
  rcases Option.bind_eq_some_iff.mp hfix with ⟨block, hblock, hprimary⟩
  exact ⟨fix, h.fields ReportField.gnss block hblock fix hprimary, hvalue⟩

theorem altitudeM_accepted :
    (signedInt name (report.primaryFix.bind GnssFix.altitudeM)).Accepted := by
  apply optional_accepted
  intro n hn
  rcases h.exists_fix hn with ⟨fix, hfix, hvalue⟩
  exact hfix.altitudeM n hvalue

theorem speedKmh_accepted :
    (int name (report.primaryFix.bind GnssFix.speedKmh)).Accepted := by
  apply int_accepted
  intro n hn
  rcases h.exists_fix hn with ⟨fix, hfix, hvalue⟩
  exact hfix.speedKmh n hvalue

theorem networkType_accepted :
    (int name (report.get ReportField.networkType)).Accepted :=
  int_accepted (h.fields ReportField.networkType)

theorem member_accepted (f : ReportField) {member : f.Value -> Nat}
    (hmember : forall v, f.Bounded v -> member v < 2 ^ 31) :
    (int name ((report.get f).map member)).Accepted := by
  apply int_accepted
  intro n hn
  rcases Option.map_eq_some_iff.mp hn with ⟨v, hv, rfl⟩
  exact hmember v (h.fields f v hv)

theorem azimuth_accepted :
    (int name (report.primaryFix.bind GnssFix.azimuth)).Accepted := by
  apply int_accepted
  intro n hn
  rcases h.exists_fix hn with ⟨fix, hfix, hvalue⟩
  exact hfix.azimuth n hvalue

theorem satelliteCount_accepted : (int name ((report.primaryFix.bind
    GnssFix.satellites).map satelliteCount)).Accepted := by
  apply int_accepted
  intro n hn
  rcases Option.map_eq_some_iff.mp hn with ⟨satellites, hsatellites, rfl⟩
  rcases h.exists_fix hsatellites with ⟨fix, hfix, hvalue⟩
  exact hfix.satellites satellites hvalue

theorem mainPowerVoltageMv_accepted :
    (int name ((report.get ReportField.eventData).bind (fun block =>
      block.fields EventDataField.mainPowerVoltageMv))).Accepted := by
  apply int_accepted
  intro n hn
  rcases Option.bind_eq_some_iff.mp hn with ⟨block, hblock, hvalue⟩
  have hbounded := h.fields ReportField.eventData block hblock
  exact hbounded.right EventDataField.mainPowerVoltageMv n hvalue

/-- Every column behind the key takes its value. -/
theorem reportRow_accepted_iff
    (htime : forall date, parsed.header.generatedAt = some date ->
      ColumnType.timestamptz.Accepts (ColumnValue.date date)) :
    AllAccepted (reportRow parsed report).columns <->
      parsed.header.imei.length ≤ 20 := by
  unfold TrackerReport.columns
  rw [allAccepted_cons, required_accepted_iff]
  apply and_iff_left
  simp only [allAccepted_cons]
  refine ⟨required_accepted_iff.mpr (token_length _),
    varchar_some_accepted h.protocolVersion, int_some_accepted h.eventType,
    h.eventName_accepted, int_some_accepted h.eventState, h.altitudeM_accepted,
    h.speedKmh_accepted, h.azimuth_accepted, h.satelliteCount_accepted,
    h.member_accepted ReportField.battery fun _ hblock => hblock.left,
    h.member_accepted ReportField.battery fun _ hblock => hblock.right,
    h.mainPowerVoltageMv_accepted, h.networkType_accepted,
    h.member_accepted ReportField.cell fun _ hblock => hblock.left,
    h.member_accepted ReportField.cell fun _ hblock => hblock.right.left,
    h.member_accepted ReportField.cell fun _ hblock => hblock.right.right.left,
    ?cellId, h.member_accepted ReportField.cell fun _ hblock =>
      hblock.right.right.right.right,
    varchar_some_accepted (formatHexMask_length h.dataMask), ?eventDataMaskHex,
    optional_accepted htime, allAccepted_nil⟩
  case cellId =>
    apply optional_accepted
    intro text htext
    rcases Option.map_eq_some_iff.mp htext with ⟨block, hblock, rfl⟩
    have hlt : block.cellId < 2 ^ 32 :=
      (h.fields ReportField.cell block hblock).right.right.right.left
    exact ⟨block.cellId, rfl, by lia, by lia⟩
  case eventDataMaskHex =>
    apply varchar_accepted
    intro text htext
    rcases Option.map_eq_some_iff.mp htext with ⟨block, hblock, rfl⟩
    exact formatHexMask_length
      (h.fields ReportField.eventData block hblock).left

theorem reportPatch_accepted_iff {now : Int}
    (htime : forall date, parsed.header.generatedAt = some date ->
      ColumnType.timestamptz.Accepts (ColumnValue.date date))
    (hnow : ColumnType.timestamptz.Accepts
      (ColumnValue.date { time := some now })) :
    AllAccepted (reportPatch parsed.header report now).columns <->
      parsed.header.imei.length ≤ 20 := by
  unfold DevicePatch.columns
  rw [allAccepted_cons, required_accepted_iff]
  apply and_iff_left
  simp only [allAccepted_cons]
  refine ⟨?lastSeenAt, ?lastReportAt, varchar_some_accepted (token_length _),
    h.altitudeM_accepted, h.speedKmh_accepted, int_some_accepted h.eventType,
    h.eventName_accepted,
    h.member_accepted ReportField.battery fun _ hblock => hblock.right,
    h.member_accepted ReportField.battery fun _ hblock => hblock.left,
    h.networkType_accepted, allAccepted_nil⟩
  case lastSeenAt =>
    apply optional_accepted
    rintro date ⟨⟩
    exact hnow
  case lastReportAt =>
    apply optional_accepted
    rintro date ⟨⟩
    cases hgenerated : parsed.header.generatedAt with
    | none => exact hnow
    | some date => exact htime date hgenerated

end TrackerReportPayload.Bounded

theorem EnvelopeAt.imei_front {frame : Bytes} {colonIndex : Nat}
    (h : EnvelopeAt frame colonIndex) :
    h.parts.imei.take 7 = (frame.drop (colonIndex + 3)).take 7 := by
  have hend : colonIndex + 10 ≤ bodyEnd frame := by
    have hfixed := h.right.right
    rw [binarySection_length] at hfixed
    lia
  show ((((frame.take (bodyEnd frame)).drop (colonIndex + 1)).drop 2).take
    8).take 7 = _
  rw [List.drop_drop, List.take_take, List.drop_take, List.take_take]
  rw [Nat.min_eq_left (by lia), Nat.min_eq_left (by lia)]

/-- The columns of a bounded type take what {lit}`saveReport` writes for a frame
exactly if no more than five of the first seven bytes of its IMEI field are one
hundred or more.  Otherwise the database refuses the device row already, and
nothing in the data zone can make it refuse one of them. -/
theorem savedColumns_accepted_iff {frame : Bytes} {patch : DevicePatch}
    {row : TrackerReport} {now : Int}
    (hparsed : parseFrame frame = Except.ok parsed)
    (hsave : saveReport parsed now = some (patch, row))
    (hnow : ColumnType.timestamptz.Accepts
      (ColumnValue.date { time := some now })) :
    exists colonIndex, indexOf frame 0x3a = some colonIndex ∧
      (AllAccepted row.columns <->
        ((frame.drop (colonIndex + 3)).take 7).countP (fun b =>
          decide (100 ≤ b.toNat)) ≤ 5) ∧
      (AllAccepted patch.columns <-> AllAccepted row.columns) := by
  rcases exists_envelopeAt_of_parseFrame hparsed with ⟨colonIndex, henvelope⟩
  have hdescribes := henvelope.describes hparsed
  rcases Option.map_eq_some_iff.mp hsave with ⟨report, hreport, hpair⟩
  cases hpair
  have h := parseFrame_report_bounded hparsed hreport
  have htime : forall date, parsed.header.generatedAt = some date ->
      ColumnType.timestamptz.Accepts (ColumnValue.date date) := by
    intro date hdate
    apply decodeGTime_accepted
    rw [hdescribes.generatedAt, hdate]
  have hrow := h.reportRow_accepted_iff htime
  refine ⟨colonIndex, henvelope.left, ?_, ?_⟩
  · rw [hrow, length_decodeImei henvelope.parts.imei_length hdescribes.imei,
      henvelope.imei_front]
    lia
  · rw [hrow, h.reportPatch_accepted_iff htime hnow]

end Statements

/-- A report of a unit whose IMEI field is seven bytes of one hundred. -/
def refusedReport : Bytes :=
  [0x2b, 0x52, 0x50, 0x54, 0x3a, 0, 26, 100, 100, 100, 100, 100, 100, 100, 5,
    0x20, 11, 1, 2, 0, 0, 0, 0, 0, 0x07, 0xea, 7, 7, 4, 34, 56, 0, 1, 0x23]

theorem savedColumns_accepted_iff_refused :
    exists parsed patch row, parseFrame refusedReport = Except.ok parsed ∧
      saveReport parsed 0 = some (patch, row) ∧
        ¬ AllAccepted row.columns ∧ ¬ AllAccepted patch.columns := by
  have hsaved : ((parseFrame refusedReport).toOption.bind
      (fun parsed => saveReport parsed 0)).isSome = true := by
    decide +kernel
  rcases Option.isSome_iff_exists.mp hsaved with ⟨⟨patch, row⟩, hsome⟩
  rcases Option.bind_eq_some_iff.mp hsome with ⟨parsed, hparsed, hsave⟩
  have hframe := toOption_eq_some hparsed
  rcases savedColumns_accepted_iff hframe hsave ⟨0, rfl, by decide, by decide⟩
    with ⟨colonIndex, hcolon, hrow, hpatch⟩
  have hindex : colonIndex = 4 := by
    rw [show indexOf refusedReport 0x3a = some 4 by decide] at hcolon
    exact (Option.some.inj hcolon).symm
  subst hindex
  have hrefused : ¬ AllAccepted row.columns := by
    rw [hrow]
    decide
  refine ⟨parsed, patch, row, hframe, hsave, hrefused, ?_⟩
  rwa [hpatch]

end Tracker
end AvtTracker
