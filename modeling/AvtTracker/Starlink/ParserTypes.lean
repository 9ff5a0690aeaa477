import AvtTracker.Foundation.Calendar
import AvtTracker.Foundation.Numerals
import AvtTracker.Foundation.NumberText
import AvtTracker.Foundation.Utf8
import Mathlib.Data.List.AList

/-!
# StarLink messages

What an SLU line is parsed into.  A warning is kept as data;
{lit}`StarlinkWarning.text` is the string the service pushes on its list.
-/

namespace AvtTracker
namespace Starlink

open Foundation

/-- {lit}`STARLINK_EVENT_REPORT_MESSAGE_TYPE` -/
def starlinkEventReportMessageType : JsNumber := 6

/-- {lit}`DEFAULT_STARLINK_FORMAT_TAGS` -/
def defaultStarlinkFormatTags : List String :=
  ["#EDT#", "#EID#", "#PDT#", "#LAT#", "#LONG#", "#SPD#", "#HEAD#", "#ODO#",
    "#IN1#", "#IN2#", "#IN3#", "#IN4#", "#OUT1#", "#OUT2#", "#OUT3#", "#OUT4#",
    "#LAC#", "#CID#", "#VIN#", "#VBAT#", "#DEST#", "#IGN#", "#ENG#"]

/-- {lit}`StarlinkFrameHeader`.  The head is any code unit, or none. -/
structure StarlinkFrameHeader where
  head : Utf16
  deviceId : String
  messageType : JsNumber
  messageIndex : JsNumber
  checksumHex : String
  deriving DecidableEq, Repr

abbrev DigitalLines : Type := AList (fun _ : String => JsNumber)

/-- {lit}`StarlinkReportPayload`.  A time that is present may be {lit}`null`. -/
structure StarlinkReportPayload where
  eventId : Option JsNumber := none
  eventName : Option String := none
  alarm : Option String := none
  deviceTime : Option (Option Date) := none
  fixTime : Option (Option Date) := none
  latitude : Option JsNumber := none
  longitude : Option JsNumber := none
  altitudeM : Option JsNumber := none
  speedKnots : Option JsNumber := none
  speedKmh : Option JsNumber := none
  course : Option JsNumber := none
  odometerM : Option JsNumber := none
  digitalInputs : DigitalLines := ∅
  digitalOutputs : DigitalLines := ∅
  lac : Option JsNumber := none
  cid : Option JsNumber := none
  mainPowerVoltage : Option JsNumber := none
  batteryVoltage : Option JsNumber := none
  destination : Option Utf16 := none
  ignition : Option Bool := none
  satellites : Option JsNumber := none
  pdop : Option JsNumber := none
  unsupportedTags : List String := []

/-- Why a value of a tag is refused. -/
inductive TagError where
  | notAnInteger (value : Utf16)
  | notANumber (value : Utf16)
  | noDecimalPoint (value : Utf16)
  | tooShort (value : Utf16)
  | notNumeric (value : Utf16)
  deriving DecidableEq, Repr

def TagError.text : TagError -> Utf16
  | notAnInteger value => utf16 "Not an integer: \"" ++ value ++ utf16 "\""
  | notANumber value => utf16 "Not a number: \"" ++ value ++ utf16 "\""
  | noDecimalPoint value =>
      utf16 "Coordinate has no decimal point: \"" ++ value ++ utf16 "\""
  | tooShort value =>
      utf16 "Coordinate is too short to contain degrees: \"" ++ value ++
        utf16 "\""
  | notNumeric value =>
      utf16 "Coordinate is not numeric: \"" ++ value ++ utf16 "\""

inductive StarlinkWarning where
  | notDecodedYet (messageType : JsNumber)
  | tagFailed (tag : String) (value : Utf16) (error : TagError)
  | extraFields (fields tags : Nat)
  | unsupportedTags (tags : List String)
  deriving DecidableEq, Repr

def StarlinkWarning.text : StarlinkWarning -> Utf16
  | notDecodedYet messageType =>
      utf16 ("Message type " ++ messageType.text ++ " is not decoded yet " ++
        "(only type 6/event-report is implemented); rawData is still " ++
        "available for reprocessing.")
  | tagFailed tag value error =>
      utf16 ("Failed to decode tag " ++ tag ++ " (value \"") ++ value ++
        utf16 "\"): " ++ error.text
  | extraFields fields tags =>
      utf16 (s!"Data has {fields} fields but the configured format only has " ++
        s!"{tags}; extra fields ignored.")
  | unsupportedTags tags =>
      utf16 ("Unsupported tags left undecoded: [" ++
        String.intercalate ", " tags ++ "]. TODO.")

structure ParsedStarlinkFrame where
  header : StarlinkFrameHeader
  report : Option StarlinkReportPayload
  warnings : List StarlinkWarning
  rawLine : Utf16
  rawData : Utf16

/-!
## Event names and alarms
-/

/-- {lit}`getStarlinkEventName` -/
def getStarlinkEventName (eventId : JsNumber) : String :=
  if eventId = 6 then "Overspeed Alarm"
  else if eventId = 7 then "Geofence Enter"
  else if eventId = 8 then "Geofence Exit"
  else if eventId = 9 then "Power Cut"
  else if eventId = 11 then "Low Battery"
  else if eventId = 24 then "Ignition On"
  else if eventId = 25 then "Ignition Off"
  else if eventId = 26 then "Tow Alarm"
  else if eventId = 36 then "SOS Alarm"
  else if eventId = 42 then "Jamming Alarm"
  else "Unknown Event (" ++ eventId.text ++ ")"

/-- {lit}`getStarlinkAlarm` -/
def getStarlinkAlarm (eventId : JsNumber) : Option String :=
  if eventId = 6 then some "overspeed"
  else if eventId = 7 then some "geofenceEnter"
  else if eventId = 8 then some "geofenceExit"
  else if eventId = 9 then some "powerCut"
  else if eventId = 11 then some "lowBattery"
  else if eventId = 26 then some "tow"
  else if eventId = 36 then some "sos"
  else if eventId = 42 then some "jamming"
  else none

end Starlink
end AvtTracker
