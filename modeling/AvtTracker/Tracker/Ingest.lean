import AvtTracker.Foundation.WireFormat
import AvtTracker.Tracker.BuiltFrames
import AvtTracker.Tracker.Envelope

/-!
# Ingesting a burst

Frames built from well-formed descriptions, sent in one write: the splitter
takes the burst apart into exactly those frames, and the parser reads back from
each of them what its description says.
-/

namespace AvtTracker
namespace Tracker

open Foundation TrackerFrameSplitter

/-- A frame to be built: a known kind, an IMEI of fifteen digits, a data zone
that fits the Length field, and a whole second of a four-digit year. -/
structure FrameDescription where
  kind : TrackerFrameKind
  imei : String
  deviceId : Option (Fin 256)
  dataZone : Bytes
  time : Int
  serialNumber : Fin 65536
  kind_known : kind ∈ TrackerFrameKind.known
  imei_length : imei.toList.length = 15
  imei_digits : forall c, c ∈ imei.toList -> c.isDigit
  dataZone_fits : 18 + dataZone.length < 65536
  time_fourDigit : FourDigitSecond time

namespace FrameDescription

def options (d : FrameDescription) : BuildFrameOptions where
  head := d.kind.token ++ ":"
  imei := d.imei
  deviceId := d.deviceId.map Fin.val
  dataZone := d.dataZone
  generatedAt := { time := some d.time }
  serialNumber := d.serialNumber

theorem head_token (d : FrameDescription) : HeadToken d.options.head := by
  have hall : forall kind, kind ∈ TrackerFrameKind.known ->
      HeadToken (kind.token ++ ":") := by decide
  exact hall d.kind d.kind_known

theorem resolveKind_token {kind : TrackerFrameKind}
    (h : kind ∈ TrackerFrameKind.known) :
    resolveKind (kind.token ++ ":") = kind := by
  revert kind
  decide

theorem asciiText_head (d : FrameDescription) :
    asciiText (asciiBytes d.options.head) = d.options.head := by
  rcases d.head_token with ⟨_, hlast, hname⟩
  rcases List.getLast?_eq_some_iff.mp hlast with ⟨name, hsplit⟩
  have hchars : forall c, c ∈ d.options.head.toList -> c.toNat < 128 := by
    intro c hc
    rw [hsplit] at hc hname
    rw [List.dropLast_concat] at hname
    rcases List.mem_append.mp hc with hc | hc
    · exact (hname c hc).left
    · rw [List.mem_singleton.mp hc]
      decide
  rw [asciiBytes, asciiText_chars hchars]
  exact String.ofList_toList

/-!
## Building the frame
-/

section Build

variable (d : FrameDescription)

def bytes : Bytes :=
  asciiBytes d.options.head ++ (beBytes 2 d.options.declaredLength ++
    (d.options.body ++ [frameTerminator]))

theorem buildFrame_options :
    buildFrame d.options = Except.ok d.bytes := by
  have himei : exists imei, encodeImei d.imei = Except.ok imei :=
    ⟨_, if_neg (not_not_intro d.imei_length)⟩
  have htime := encodeGTime_eq d.time_fourDigit
  rcases himei with ⟨imei, himei⟩
  have haccepts : exists bytes, buildFrame d.options = Except.ok bytes :=
    buildFrame_returns himei htime d.serialNumber.isLt d.dataZone_fits
  rcases haccepts with ⟨bytes, hbuilt⟩
  rw [hbuilt, (buildFrame_ok hbuilt).right.right.right.right]
  rfl

def frame : BuiltFrame where
  options := d.options
  bytes := d.bytes
  head_token := d.head_token
  built := d.buildFrame_options

theorem frame_truthful : d.frame.wire.Truthful :=
  d.frame.wire_truthful_iff.mpr rfl

/-!
## Parsing it back
-/

theorem asciiBytes_head_length :
    (asciiBytes d.options.head).length = d.options.head.toList.length :=
  List.length_map _

theorem indexOf_colon :
    exists colonIndex, indexOf d.bytes 0x3a = some colonIndex ∧
      colonIndex ≤ 7 ∧ colonIndex + 1 = d.options.head.toList.length := by
  have hhead := d.frame.wire_headLength
  have hbytes := d.frame.wire_bytes
  refine ⟨d.frame.wire.headName.length, ?_, d.frame.wire.headName_length,
    hhead⟩
  have hmore : d.bytes = d.frame.wire.bytes ++ [] := by
    rw [List.append_nil, hbytes]
    rfl
  rw [hmore]
  exact WireFrame.indexOf_headName _ _

theorem bytes_snoc : d.bytes = (asciiBytes d.options.head ++
    (beBytes 2 d.options.declaredLength ++ d.options.body)) ++
      [frameTerminator] := by
  simp [bytes]

theorem bytes_getLast : d.bytes.getLast? = some 0x23 := by
  rw [bytes_snoc, List.getLast?_concat]
  rfl

theorem binarySection_bytes :
    binarySection d.bytes d.options.head.toList.length =
      beBytes 2 d.options.declaredLength ++ d.options.body := by
  have hlast : binarySection d.bytes d.options.head.toList.length =
      d.bytes.dropLast.drop d.options.head.toList.length := by
    unfold binarySection
    rw [if_pos d.bytes_getLast, List.dropLast_eq_take]
  rw [hlast, bytes_snoc, List.dropLast_concat, ← asciiBytes_head_length,
    List.drop_left]

theorem holds_fields :
    let binary := beBytes 2 d.options.declaredLength ++ d.options.body
    Holds binary 0 (beBytes 2 d.options.declaredLength) ∧
      Holds binary 2 d.options.imeiBytes ∧
      Holds binary 10 [UInt8.ofNat (d.options.deviceId.getD 0x20)] ∧
      Holds binary 11 d.dataZone ∧
      Holds binary (11 + d.dataZone.length) d.options.gTimeField ∧
      Holds binary (18 + d.dataZone.length)
        (beBytes 2 d.options.serialNumber) := by
  intro binary
  rcases buildFrame_ok d.buildFrame_options with ⟨himei, htime, _⟩
  rcases holds_append_iff.mp (holds_self binary) with ⟨hlength, hbody⟩
  rcases holds_append_iff.mp hbody with ⟨hI, hrest⟩
  rcases holds_append_iff.mp hrest with ⟨hD, hrest⟩
  rcases holds_append_iff.mp hrest with ⟨hZ, hrest⟩
  rcases holds_append_iff.mp hrest with ⟨hT, hS⟩
  rw [beBytes_length] at hI hD hZ hT hS
  rw [himei] at hD hZ hT hS
  rw [List.length_singleton] at hZ hT hS
  rw [htime] at hS
  have hz : (d.options.dataZone).length = d.dataZone.length := rfl
  rw [hz] at hT hS
  refine ⟨hlength, hI, hD, hZ, hT, ?_⟩
  have hoffset : 0 + 2 + 8 + 1 + d.dataZone.length + 7 =
      18 + d.dataZone.length := by lia
  rwa [hoffset] at hS

theorem binary_length :
    (beBytes 2 d.options.declaredLength ++ d.options.body).length =
      20 + d.dataZone.length := by
  have hbody := d.frame.wire_body_length
  change d.options.body.length = d.options.actualLength at hbody
  rw [List.length_append, beBytes_length, hbody]
  simp only [BuildFrameOptions.actualLength, options]
  lia

def header : TrackerFrameHeader where
  kind := d.kind
  headToken := d.options.head
  declaredLength := 18 + d.dataZone.length
  computedDataZoneLength := d.dataZone.length
  imei := d.imei
  deviceId := d.options.deviceId.getD 0x20
  generatedAt := some { time := some d.time }
  serialNumberHex := toHex (beBytes 2 d.serialNumber)
  serialNumber := d.serialNumber

theorem decodeImei_imeiBytes :
    decodeImei d.options.imeiBytes = Except.ok d.imei := by
  cases hencode : encodeImei d.imei with
  | error e =>
      have hok : encodeImei d.imei = Except.ok _ :=
        if_neg (not_not_intro d.imei_length)
      rw [hok] at hencode
      cases hencode
  | ok imei =>
      have hfield : d.options.imeiBytes = imei := by
        simp only [BuildFrameOptions.imeiBytes, options, hencode]
        rfl
      rw [hfield]
      exact decodeImei_encodeImei d.imei_digits hencode

theorem decodeGTime_gTimeField :
    decodeGTime d.options.gTimeField =
      Except.ok (some { time := some d.time }) := by
  have hfield : d.options.gTimeField = gTimeBytes d.time := by
    have hencode := encodeGTime_eq d.time_fourDigit
    simp only [BuildFrameOptions.gTimeField, options, hencode]
    rfl
  rw [hfield]
  exact decodeGTime_gTimeBytes d.time_fourDigit

theorem deviceId_lt : d.options.deviceId.getD 0x20 < 256 := by
  cases hid : d.deviceId with
  | none => simp [options, hid]
  | some n =>
      simp only [options, hid, Option.map_some, Option.getD_some]
      exact n.isLt

theorem beNat_deviceId :
    beNat [UInt8.ofNat (d.options.deviceId.getD 0x20)] =
      d.options.deviceId.getD 0x20 := by
  have hlt : d.options.deviceId.getD 0x20 < 256 ^ 1 := d.deviceId_lt
  have hvalue := beNat_beBytes_of_lt hlt
  simpa [beBytes] using hvalue

theorem headerOf_binary :
    headerOf d.options.head d.kind
      (beBytes 2 d.options.declaredLength ++ d.options.body) = d.header := by
  rcases d.holds_fields with ⟨hL, hI, hD, _, hT, hS⟩
  rcases buildFrame_ok d.buildFrame_options with ⟨himeiLen, htimeLen, _⟩
  have hzoneLength : 20 + d.dataZone.length - 20 = d.dataZone.length := by lia
  have htimeOffset : 20 + d.dataZone.length - 9 = 11 + d.dataZone.length := by
    lia
  have hserialOffset : 20 + d.dataZone.length - 2 =
      18 + d.dataZone.length := by lia
  have hlength := hL.take_drop
  have himei := hI.take_drop
  have hdevice := hD.take_drop
  have htime := hT.take_drop
  have hserial := hS.take_drop
  rw [beBytes_length, List.drop_zero] at hlength
  rw [himeiLen] at himei
  rw [List.length_singleton] at hdevice
  rw [htimeLen] at htime
  rw [beBytes_length] at hserial
  have hserialValue :
      readUInt16BE (beBytes 2 d.options.serialNumber) 0 = d.serialNumber := by
    have hvalue := readUInt16BE_append [] d.serialNumber.isLt []
    rwa [List.nil_append, List.append_nil] at hvalue
  have hlengthValue : beNat (beBytes 2 d.options.declaredLength) =
      18 + d.dataZone.length := beNat_beBytes_of_lt d.dataZone_fits
  unfold headerOf header
  rw [d.binary_length, htimeOffset, hserialOffset, hzoneLength, hlength,
    himei, hdevice, htime, hserial, d.decodeImei_imeiBytes,
    d.decodeGTime_gTimeField, d.beNat_deviceId, hserialValue, hlengthValue]
  rfl

theorem dataZone_bytes :
    (d.bytes.drop (d.options.head.toList.length + headerPrefixBytes)).take
      d.dataZone.length = d.dataZone := by
  rcases buildFrame_ok d.buildFrame_options with ⟨himei, _⟩
  have hfront : (asciiBytes d.options.head ++
      (beBytes 2 d.options.declaredLength ++ (d.options.imeiBytes ++
        [UInt8.ofNat (d.options.deviceId.getD 0x20)]))).length =
      d.options.head.toList.length + headerPrefixBytes := by
    simp only [List.length_append, d.asciiBytes_head_length, beBytes_length,
      himei, List.length_singleton, headerPrefixBytes]
  have hbytes : d.bytes = (asciiBytes d.options.head ++
      (beBytes 2 d.options.declaredLength ++ (d.options.imeiBytes ++
        [UInt8.ofNat (d.options.deviceId.getD 0x20)]))) ++
      (d.dataZone ++ (d.options.gTimeField ++
        (beBytes 2 d.options.serialNumber ++ [frameTerminator]))) := by
    simp [bytes, BuildFrameOptions.body, options]
  rw [hbytes, ← hfront, List.drop_left, List.take_left]

theorem lengthWarnings_binary :
    lengthWarnings (beBytes 2 d.options.declaredLength ++ d.options.body) =
      [] := by
  have hlength := d.holds_fields.left.take_drop
  rw [beBytes_length, List.drop_zero] at hlength
  have hvalue : beNat (beBytes 2 d.options.declaredLength) =
      18 + d.dataZone.length := beNat_beBytes_of_lt d.dataZone_fits
  unfold lengthWarnings
  rw [d.binary_length, hlength, hvalue]
  exact if_neg (not_not_intro (by lia))

/-- What the parser makes of a built frame. -/
theorem parseFrame_bytes_eq :
    parseFrame d.bytes = Except.ok (parseDataZone d.kind d.dataZone
      { header := d.header
        report := none
        heartbeat := none
        ascii := none
        warnings := []
        rawHex := toHex d.bytes
        dataZoneHex := toHex d.dataZone }) := by
  rcases d.indexOf_colon with ⟨colonIndex, hcolon, hhead, hlength⟩
  have hsection := d.binarySection_bytes
  have hfixed : 20 ≤ (binarySection d.bytes (colonIndex + 1)).length := by
    rw [hlength, hsection, d.binary_length]
    exact Nat.le_add_right _ _
  have htoken : asciiText (d.bytes.take (colonIndex + 1)) =
      d.options.head := by
    rw [hlength, ← d.asciiBytes_head_length, bytes, List.take_left]
    exact d.asciiText_head
  have hkind : resolveKind d.options.head = d.kind :=
    resolveKind_token d.kind_known
  have hzone : 20 + d.dataZone.length - 20 = d.dataZone.length := by lia
  have hparse := parseFrame_of_envelope hcolon hhead hfixed
  rw [htoken, hkind, hlength, hsection, d.headerOf_binary,
    d.lengthWarnings_binary, d.binary_length, hzone, d.dataZone_bytes,
    terminatorWarnings, if_pos d.bytes_getLast] at hparse
  exact hparse

/-- Neither the terminator nor the Length field was found fault with. -/
def CleanEnvelope (parsed : ParsedTrackerFrame) : Prop :=
  Warning.missingTerminator ∉ parsed.warnings ∧
    forall declared expected,
      Warning.declaredLengthMismatch declared expected ∉ parsed.warnings

/-- The parser reads back what the description says. -/
theorem parseFrame_bytes :
    exists parsed, parseFrame d.bytes = Except.ok parsed ∧
      parsed.header = d.header ∧
      parsed.dataZoneHex = toHex d.dataZone ∧
      parsed.rawHex = toHex d.bytes ∧ CleanEnvelope parsed := by
  refine ⟨_, d.parseFrame_bytes_eq, parseDataZone_header _ _ _,
    parseDataZone_dataZoneHex _ _ _, parseDataZone_rawHex _ _ _, ?_⟩
  rcases parseDataZone_warnings d.kind d.dataZone _ with
    ⟨added, hadded, hinside⟩
  unfold CleanEnvelope
  rw [hadded]
  exact ⟨fun h => Bool.false_ne_true (hinside _ h),
    fun _ _ h => Bool.false_ne_true (hinside _ h)⟩

end Build

/-!
## Splitting the burst
-/

theorem push_flatten (descriptions : List FrameDescription)
    (maxBufferBytes : Nat) :
    (push { maxBufferBytes := maxBufferBytes }
        (descriptions.map bytes).flatten).1 =
      { frames := descriptions.map bytes, overflowed := false,
        pending := [] } := by
  have hbytes : (descriptions.map (fun d => d.frame.wire)).map
      WireFrame.bytes = descriptions.map bytes := by
    rw [List.map_map]
    exact List.map_congr_left (fun d _ => d.frame.wire_bytes)
  have hdrain := drain_stream_of_truthful
    (descriptions.map (fun d => d.frame.wire)) (by
      intro f hf
      rcases List.mem_map.mp hf with ⟨d, _, rfl⟩
      exact d.frame_truthful)
  rw [stream, hbytes] at hdrain
  exact push_of_drain hdrain (Nat.zero_le _)

end FrameDescription

/--
A burst of built frames is ingested exactly: nothing is refused, the splitter
returns one frame for each description in order, with nothing pending and no
overflow, and the parser reads back each description's header, data zone and
bytes with nothing to say about the envelope.
-/
theorem ingest_burst (descriptions : List FrameDescription)
    (maxBufferBytes : Nat) :
    exists frames, descriptions.mapM (fun d => buildFrame d.options) =
        Except.ok frames ∧
      (push { maxBufferBytes := maxBufferBytes } frames.flatten).1 =
        { frames := frames, overflowed := false, pending := [] } ∧
      List.Forall₂ (fun d frame => exists parsed,
        parseFrame frame = Except.ok parsed ∧
          parsed.header.kind = d.kind ∧
          parsed.header.imei = d.imei ∧
          parsed.header.deviceId = d.deviceId.elim 0x20 Fin.val ∧
          parsed.header.generatedAt = some { time := some d.time } ∧
          parsed.header.serialNumber = d.serialNumber ∧
          parsed.dataZoneHex = toHex d.dataZone ∧
          parsed.rawHex = toHex frame ∧
          FrameDescription.CleanEnvelope parsed) descriptions frames := by
  refine ⟨descriptions.map FrameDescription.bytes, ?_,
    FrameDescription.push_flatten descriptions maxBufferBytes, ?_⟩
  · induction descriptions with
    | nil => rfl
    | cons d rest ih =>
        rw [List.mapM_cons, d.buildFrame_options, ih]
        rfl
  · rw [List.forall₂_map_right_iff, List.forall₂_same]
    intro d _
    rcases d.parseFrame_bytes with ⟨parsed, hparse, hheader, hzone, hraw, hclean⟩
    refine ⟨parsed, hparse, ?_, ?_, ?_, ?_, ?_, hzone, hraw, hclean⟩
    all_goals rw [hheader]
    · rfl
    · rfl
    · unfold FrameDescription.header
      cases hid : d.deviceId <;> simp [FrameDescription.options, hid]
    · rfl
    · rfl

end Tracker
end AvtTracker
