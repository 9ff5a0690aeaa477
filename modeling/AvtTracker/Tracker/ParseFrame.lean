import AvtTracker.Tracker.AsciiFields
import AvtTracker.Tracker.Report

/-!
# Parsing a whole frame

{lit}`parseFrame` takes one delimited frame apart: head token, header, data
zone and trailer.  Only an unusable envelope makes it throw; whatever goes
wrong in the data zone becomes a warning.
-/

namespace AvtTracker
namespace Tracker

open Foundation BufferCursor

/-- {lit}`HEADER_PREFIX_BYTES`: Length, IMEI and device id. -/
def headerPrefixBytes : Nat := 2 + 8 + 1

/-- {lit}`TRAILER_FIXED_BYTES`: generated time and serial number. -/
def trailerFixedBytes : Nat := 7 + 2

structure HeartbeatPayload where
  protocolVersion : String
  deriving DecidableEq, Repr

structure TrackerFrameHeader where
  kind : TrackerFrameKind
  headToken : String
  declaredLength : Nat
  computedDataZoneLength : Nat
  imei : String
  deviceId : Nat
  generatedAt : Option Date
  serialNumberHex : String
  serialNumber : Nat
  deriving DecidableEq, Repr

structure ParsedTrackerFrame where
  header : TrackerFrameHeader
  report : Option TrackerReportPayload
  heartbeat : Option HeartbeatPayload
  ascii : Option AsciiFrameData
  warnings : List Warning
  rawHex : String
  dataZoneHex : String

def readHeadToken (frame : Bytes) : Except String Bytes :=
  match indexOf frame 0x3a with
  | some colonIndex =>
      if colonIndex > 7 then Except.error (noHeadToken frame)
      else Except.ok (frame.take (colonIndex + 1))
  | none => Except.error (noHeadToken frame)
where
  noHeadToken (frame : Bytes) : String :=
    "Could not locate a frame head token (expected e.g. \"+RPT:\" near the " ++
      "start): " ++ toHex (frame.take (min frame.length 8))

/-- The kind whose token is the head token without its colon. -/
def resolveKind (headToken : String) : TrackerFrameKind :=
  let withoutColon := if headToken.toList.getLast? = some ':' then
    String.ofList headToken.toList.dropLast else headToken
  (TrackerFrameKind.known.find? (fun kind => kind.token == withoutColon)).getD
    TrackerFrameKind.unknown

/-- Decode the header and the trailer around the data zone. -/
def parseHeader (headToken : String) (kind : TrackerFrameKind) :
    Decoder Warning TrackerFrameHeader := do
  let declaredLength ← readUInt16BE
  let imeiBytes ← readBytes 8
  let imei ← Decoder.ofExcept (decodeImei imeiBytes)
  let deviceId ← readUInt8
  let offset ← Decoder.position
  let length ← Decoder.size
  if length < offset + trailerFixedBytes then
    Decoder.ofExcept (Except.error
      (s!"{kind.token} frame is too short to contain its header and trailer " ++
        s!"(binary section is {length} bytes)"))
  else
    let computedDataZoneLength := length - offset - trailerFixedBytes
    let expectedDeclaredLength := length - 2
    Decoder.note (if declaredLength ≠ expectedDeclaredLength then
      [Warning.declaredLengthMismatch declaredLength expectedDeclaredLength]
      else [])
    skip computedDataZoneLength
    let gTimeBytes ← readBytes 7
    let generatedAt ← Decoder.ofExcept (decodeGTime gTimeBytes)
    let serialNumberBytes ← readBytes 2
    pure
      { kind := kind
        headToken := headToken
        declaredLength := declaredLength
        computedDataZoneLength := computedDataZoneLength
        imei := imei
        deviceId := deviceId
        generatedAt := generatedAt
        serialNumberHex := toHex serialNumberBytes
        serialNumber := Foundation.readUInt16BE serialNumberBytes 0 }

def parseHeartbeatDataZone (dataZone : Bytes) :
    Except Failure HeartbeatPayload :=
  if dataZone.length < 2 then
    Except.error (Failure.rejected
      ("+HBD data zone too short for protocol version " ++
        s!"({dataZone.length} bytes)"))
  else
    match formatProtocolVersion (dataZone.take 2) with
    | Except.error message => Except.error (Failure.rejected message)
    | Except.ok version => Except.ok { protocolVersion := version }

/-- The warning of a data zone that could not be decoded. -/
def failedDataZone {α : Type} : Except Failure α -> List Warning
  | Except.ok _ => []
  | Except.error error => [Warning.dataZoneFailed error]

/-- Decode a data zone by the kind of its frame. -/
def parseDataZone (kind : TrackerFrameKind) (dataZone : Bytes)
    (parsed : ParsedTrackerFrame) : ParsedTrackerFrame :=
  if kind = TrackerFrameKind.rpt ∨ kind = TrackerFrameKind.rptHistorical then
    let out := parseReportDataZone.run dataZone 0
    { parsed with
      report := out.result.toOption
      warnings := parsed.warnings ++ out.notes ++ failedDataZone out.result }
  else if kind = TrackerFrameKind.hbd then
    let heartbeat := parseHeartbeatDataZone dataZone
    { parsed with
      heartbeat := heartbeat.toOption
      warnings := parsed.warnings ++ failedDataZone heartbeat }
  else if kind ∈ TrackerFrameKind.hexEncoded then
    { parsed with
      warnings := parsed.warnings ++ [Warning.notImplemented kind] }
  else
    let ascii := parseAsciiDataZone dataZone
    { parsed with
      ascii := some ascii.1
      warnings := parsed.warnings ++ ascii.2 }

/-- The bytes between the head token and the final terminator, if it has one. -/
def binarySection (frame : Bytes) (headTokenLength : Nat) : Bytes :=
  let bodyEnd := if frame.getLast? = some 0x23 then frame.length - 1
    else frame.length
  (frame.take bodyEnd).drop headTokenLength

def parseFrame (frame : Bytes) : Except String ParsedTrackerFrame :=
  if frame.length = 0 then Except.error "Cannot parse an empty frame"
  else do
    let headBytes ← readHeadToken frame
    let headToken := asciiText headBytes
    let kind := resolveKind headToken
    let terminatorWarnings := if frame.getLast? = some 0x23 then []
      else [Warning.missingTerminator]
    let out := (parseHeader headToken kind).run
      (binarySection frame headBytes.length) 0
    match out.result with
    | Except.error error => Except.error (errorMessage error)
    | Except.ok header =>
        let dataZone := (frame.drop
          (headBytes.length + headerPrefixBytes)).take
            header.computedDataZoneLength
        pure (parseDataZone kind dataZone
          { header := header
            report := none
            heartbeat := none
            ascii := none
            warnings := terminatorWarnings ++ out.notes
            rawHex := toHex frame
            dataZoneHex := toHex dataZone })

/-!
## The header
-/

def headerOf (headToken : String) (kind : TrackerFrameKind)
    (binary : Bytes) : TrackerFrameHeader where
  kind := kind
  headToken := headToken
  declaredLength := beNat (binary.take 2)
  computedDataZoneLength := binary.length - 20
  imei := (decodeImei ((binary.drop 2).take 8)).toOption.getD ""
  deviceId := beNat ((binary.drop 10).take 1)
  generatedAt := (decodeGTime
    ((binary.drop (binary.length - 9)).take 7)).toOption.join
  serialNumberHex := toHex ((binary.drop (binary.length - 2)).take 2)
  serialNumber := Foundation.readUInt16BE
    ((binary.drop (binary.length - 2)).take 2) 0

/-- The warning about a Length field that is wrong. -/
def lengthWarnings (binary : Bytes) : List Warning :=
  if beNat (binary.take 2) ≠ binary.length - 2 then
    [Warning.declaredLengthMismatch (beNat (binary.take 2))
      (binary.length - 2)]
  else []

theorem run_parseHeader (headToken : String) (kind : TrackerFrameKind)
    {binary : Bytes} (h : 20 ≤ binary.length) :
    (parseHeader headToken kind).run binary 0 =
      ⟨Except.ok (headerOf headToken kind binary), binary.length,
        lengthWarnings binary⟩ := by
  have h0 : 2 ≤ binary.length - 0 := by lia
  have h2 : 8 ≤ binary.length - 2 := by lia
  have h10 : 1 ≤ binary.length - 10 := by lia
  have hrest : binary.length - (10 + 1) - trailerFixedBytes =
      binary.length - 20 := by
    simp only [trailerFixedBytes]
    lia
  have hzone : binary.length - 20 ≤ binary.length - (10 + 1) := by lia
  have htime : 10 + 1 + (binary.length - 20) = binary.length - 9 := by lia
  have h7 : 7 ≤ binary.length - (binary.length - 9) := by lia
  have hserial : binary.length - 9 + 7 = binary.length - 2 := by lia
  have hs2 : 2 ≤ binary.length - (binary.length - 2) := by lia
  have hend : binary.length - 2 + 2 = binary.length := by lia
  have himeiLen : ((binary.drop 2).take 8).length = 8 := by
    rw [List.length_take, List.length_drop]
    lia
  have htimeLen : ((binary.drop (binary.length - 9)).take 7).length = 7 := by
    rw [List.length_take, List.length_drop]
    lia
  rcases decodeImei_accepts himeiLen with ⟨imei, himei⟩
  rcases decodeGTime_accepts htimeLen with ⟨time, htimeOk⟩
  have hshort : ¬ binary.length < 10 + 1 + trailerFixedBytes := by
    simp only [trailerFixedBytes]
    lia
  unfold parseHeader BufferCursor.readUInt16BE readUInt8 readBytes
  rw [Decoder.run_bind_quiet (Decoder.run_unsigned_ok h0),
    Decoder.run_bind_quiet (Decoder.run_take_ok h2), himei,
    Decoder.run_bind_quiet rfl,
    Decoder.run_bind_quiet (Decoder.run_unsigned_ok h10),
    Decoder.run_bind_quiet rfl, Decoder.run_bind_quiet rfl,
    if_neg hshort]
  refine Decoder.run_note_bind ?_
  rw [hrest, Decoder.run_bind_quiet (run_skip_ok hzone), htime,
    Decoder.run_bind_quiet (Decoder.run_take_ok h7), htimeOk,
    Decoder.run_bind_quiet rfl, hserial,
    Decoder.run_bind_quiet (Decoder.run_take_ok hs2), hend]
  simp only [headerOf, himei, htimeOk, Decoder.run_pure]
  rfl

end Tracker
end AvtTracker
