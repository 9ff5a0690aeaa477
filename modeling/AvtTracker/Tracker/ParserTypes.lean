import AvtTracker.Foundation.NumberText
import AvtTracker.Foundation.Numerals
import AvtTracker.Tracker.BinaryCodec

/-!
# Frame kinds and warnings

What the parser may note while it decodes a frame.  A warning is kept as data;
{lit}`Warning.text` is the string the service pushes on its list.
-/

namespace AvtTracker
namespace Tracker

open Foundation

/-- {lit}`TrackerFrameKind` -/
inductive TrackerFrameKind where
  | rpt | rptHistorical | hbd | ack | nack | qry | all | ver | qni | gsv | lsv
  | bsv | gav | cvs | cmi | dfi | ldp | ldpHistorical | bmr | bmrHistorical
  | scf | tcf | bcd | unknown
  deriving DecidableEq, Repr

namespace TrackerFrameKind

def token : TrackerFrameKind -> String
  | rpt => "+RPT"
  | rptHistorical => "-RPT"
  | hbd => "+HBD"
  | ack => "+ACK"
  | nack => "+NACK"
  | qry => "+QRY"
  | all => "+ALL"
  | ver => "+VER"
  | qni => "+QNI"
  | gsv => "+GSV"
  | lsv => "+LSV"
  | bsv => "+BSV"
  | gav => "+GAV"
  | cvs => "+CVS"
  | cmi => "+CMI"
  | dfi => "+DFI"
  | ldp => "+LDP"
  | ldpHistorical => "-LDP"
  | bmr => "+BMR"
  | bmrHistorical => "-BMR"
  | scf => "+SCF"
  | tcf => "+TCF"
  | bcd => "+BCD"
  | unknown => "UNKNOWN"

/-- {lit}`ALL_FRAME_KIND_TOKENS`: every kind with a token of its own. -/
def known : List TrackerFrameKind :=
  [rpt, rptHistorical, hbd, ack, nack, qry, all, ver, qni, gsv, lsv, bsv, gav,
    cvs, cmi, dfi, ldp, ldpHistorical, bmr, bmrHistorical, scf, tcf, bcd]

/-- {lit}`HEX_ENCODED_FRAME_KINDS`: the kinds with a binary data zone. -/
def hexEncoded : List TrackerFrameKind :=
  [rpt, rptHistorical, hbd, ldp, ldpHistorical, bmr, bmrHistorical]

end TrackerFrameKind

/-- The masks of a report. -/
inductive MaskKind where
  | dataMask
  | eventDataMask
  | canInfoMask1
  | canInfoMask2
  | electricInfoMask1
  | canInfoMask3
  | canAdvancedInfoMask1
  deriving DecidableEq, Repr

def MaskKind.label : MaskKind -> String
  | dataMask => "Data Mask"
  | eventDataMask => "Event Data Mask"
  | canInfoMask1 => "CAN Info Mask 1"
  | canInfoMask2 => "CAN Info Mask 2"
  | electricInfoMask1 => "Electric Info Mask 1"
  | canInfoMask3 => "CAN Info Mask 3"
  | canAdvancedInfoMask1 => "CAN Advanced Info Mask 1"

/-- The message of a failed read: {lit}`TrackerFrameTruncatedError`, or the
error of the codec that threw. -/
def errorMessage : Failure -> String
  | Failure.truncated requested remaining offset =>
      s!"Truncated frame: needed {requested} more byte(s) at offset {offset}" ++
        s!", only {remaining} available"
  | Failure.rejected message => message

inductive Warning where
  | missingTerminator
  | declaredLengthMismatch (declared expected : Nat)
  | notImplemented (kind : TrackerFrameKind)
  | dataZoneFailed (error : Failure)
  | stoppedDecoding (mask : MaskKind) (bit : Nat) (error : Failure)
  | bitsNotDecoded (mask : MaskKind) (bits : List Nat)
  | malformedFence (field : Nat)
  | fenceCoordinatesTruncated (peoId : Rat) (field : Nat)
  | fenceTrailerTruncated (peoId : Rat) (field : Nat)
  deriving DecidableEq, Repr

namespace Warning

/-- What follows the list of skipped bits. -/
def notDecodedTail : MaskKind -> String
  | MaskKind.dataMask => "]. TODO: CAN bus / tachograph / BLE / NMEA2000 " ++
      "blocks - see protocol PDF."
  | MaskKind.eventDataMask => "]. TODO."
  | MaskKind.electricInfoMask1 =>
      "]; any further Data Mask bits in this frame may be misaligned."
  | MaskKind.canInfoMask3 =>
      "]; any further Data Mask bits in this frame may be misaligned."
  | _ => "]."

/-- The text pushed on the list of warnings. -/
def text : Warning -> String
  | missingTerminator =>
      "Frame did not end with the expected '#' (0x23) terminator; " ++
        "attempting to parse it anyway."
  | declaredLengthMismatch declared expected =>
      s!"Declared Length ({declared}) does not match the actual frame " ++
        s!"size ({expected}); trusting actual bytes."
  | notImplemented kind =>
      s!"Structured decoding for {kind.token} frames is not implemented yet " ++
        "(TODO); rawHex/dataZoneHex are still available for reprocessing."
  | dataZoneFailed error =>
      s!"Failed to decode data zone: {errorMessage error}"
  | stoppedDecoding MaskKind.dataMask bit error =>
      s!"Stopped decoding Data Mask at bit {bit}: {errorMessage error}" ++
        ". Remaining fields (if any) are only available via dataZoneHex."
  | stoppedDecoding MaskKind.canAdvancedInfoMask1 bit error =>
      s!"Stopped decoding CAN Advanced Info Mask 1 at AdvCAN PID {bit + 1}" ++
        s!": {errorMessage error}."
  | stoppedDecoding mask bit error =>
      s!"Stopped decoding {mask.label} at bit {bit}: {errorMessage error}."
  | bitsNotDecoded mask bits =>
      s!"{mask.label} bits not decoded: [" ++
        ", ".intercalate (bits.map toString) ++ notDecodedTail mask
  | malformedFence field =>
      s!"Could not parse PEO fence record at ASCII field {field}" ++
        ": malformed id/mode/start/end."
  | fenceCoordinatesTruncated peoId field =>
      s!"PEO fence {numberText peoId} coordinates truncated at ASCII field " ++
        s!"{field}" ++
        "; only the fully received points are included."
  | fenceTrailerTruncated peoId field =>
      s!"PEO fence {numberText peoId} check-interval/over-speed fields " ++
        s!"truncated at ASCII field {field}."

/-- Warnings about the contents of the data zone, not about its envelope. -/
def inDataZone : Warning -> Bool
  | missingTerminator => false
  | declaredLengthMismatch _ _ => false
  | _ => true

/-- The stops a list of warnings reports for one mask. -/
def stopsOf (mask : MaskKind) (warnings : List Warning) :
    List (Nat × Failure) :=
  warnings.filterMap (fun w =>
    match w with
    | stoppedDecoding kind bit error =>
        if kind = mask then some (bit, error) else none
    | _ => none)

@[simp] theorem stopsOf_append (mask : MaskKind) (ws vs : List Warning) :
    stopsOf mask (ws ++ vs) = stopsOf mask ws ++ stopsOf mask vs :=
  List.filterMap_append

end Warning

end Tracker
end AvtTracker
