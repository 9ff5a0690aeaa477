import AvtTracker.Starlink.FramePattern
import AvtTracker.Starlink.ParserTypes

/-!
# Parsing a StarLink line

{lit}`StarlinkParserService.parseFrame` matches a trimmed line against the frame
pattern and decodes the data of event reports tag by tag.  Only a line of another
shape makes it throw; a value that cannot be decoded becomes a warning.
-/

namespace AvtTracker
namespace Starlink

open Foundation

/-- The characters of a string, for the functions that read numbers. -/
def chars (text : Utf16) : List Char :=
  text.map charOf

/-- A string of digits and letters. -/
def asciiString (text : Utf16) : String :=
  String.ofList (chars text)

/-- {lit}`trim` -/
def trimUnits (text : Utf16) : Utf16 :=
  ((text.dropWhile isSpaceUnit).reverse.dropWhile isSpaceUnit).reverse

/-!
## Values
-/

def parseStrictInt (value : Utf16) : Except TagError JsNumber :=
  let result := parseIntNumber (chars value)
  if result = JsNumber.nan then Except.error (TagError.notAnInteger value)
  else Except.ok result

def parseStrictFloat (value : Utf16) : Except TagError JsNumber :=
  let result := parseFloat (chars value)
  if result = JsNumber.nan then Except.error (TagError.notANumber value)
  else Except.ok result

/-- Two digits of a timestamp. -/
def twoDigits (value : Utf16) (start : Nat) : Int :=
  digitsValue (chars ((value.drop start).take 2))

def parseStarlinkDateTime (value : Utf16) : Option Date :=
  if value.length = 12 ∧ value.all isDigitUnit then
    some
      { time := Date.utc (2000 + twoDigits value 0) (twoDigits value 2 - 1)
          (twoDigits value 4) (twoDigits value 6) (twoDigits value 8)
          (twoDigits value 10) }
  else none

def parseStarlinkCoordinate (value : Utf16) : Except TagError JsNumber :=
  match value.findIdx? (fun unit => unit == 0x2e) with
  | none => Except.error (TagError.noDecimalPoint value)
  | some dotIndex =>
      if dotIndex < 3 then Except.error (TagError.tooShort value)
      else
        let minutesIndex := dotIndex - 2
        let degrees := parseFloat (chars ((value.take minutesIndex).drop 1))
        let minutes := parseFloat (chars (value.drop minutesIndex))
        if degrees = JsNumber.nan ∨ minutes = JsNumber.nan then
          Except.error (TagError.notNumeric value)
        else
          let result := degrees.add (minutes.scale (1 / 60))
          Except.ok (if value.head? = some 0x2b then result else result.neg)

/-!
## Event reports
-/

def applyEventId (eventId : JsNumber) (payload : StarlinkReportPayload) :
    StarlinkReportPayload :=
  { payload with
    eventId := some eventId
    eventName := some (getStarlinkEventName eventId)
    alarm := getStarlinkAlarm eventId
    ignition := if eventId = 24 then some true
      else if eventId = 25 then some false
      else payload.ignition }

/-- A digital line is filed under its tag without the hash signs. -/
def lineName (tag : String) : String :=
  String.ofList (tag.toList.tail.dropLast)

def applyTag (tag : String) (value : Utf16)
    (payload : StarlinkReportPayload) :
    Except TagError StarlinkReportPayload :=
  match tag with
  | "#EDT#" =>
      Except.ok { payload with
        deviceTime := some (parseStarlinkDateTime value) }
  | "#EID#" => do
      let eventId ← parseStrictInt value
      pure (applyEventId eventId payload)
  | "#PDT#" =>
      Except.ok { payload with fixTime := some (parseStarlinkDateTime value) }
  | "#LAT#" => do
      let latitude ← parseStarlinkCoordinate value
      pure { payload with latitude := some latitude }
  | "#LONG#" => do
      let longitude ← parseStarlinkCoordinate value
      pure { payload with longitude := some longitude }
  | "#SPD#" => do
      let speed ← parseStrictFloat value
      pure { payload with speedKnots := some speed }
  | "#HEAD#" => do
      let course ← parseStrictInt value
      pure { payload with course := some course }
  | "#ODO#" => do
      let kilometers ← parseStrictFloat value
      pure { payload with odometerM := some (kilometers.scale 1000).round }
  | "#IN1#" | "#IN2#" | "#IN3#" | "#IN4#" => do
      let level ← parseStrictInt value
      pure { payload with
        digitalInputs := payload.digitalInputs.insert (lineName tag) level }
  | "#OUT1#" | "#OUT2#" | "#OUT3#" | "#OUT4#" => do
      let level ← parseStrictInt value
      pure { payload with
        digitalOutputs := payload.digitalOutputs.insert (lineName tag) level }
  | "#LAC#" => do
      let lac ← parseStrictInt value
      pure { payload with lac := some lac }
  | "#CID#" => do
      let cid ← parseStrictInt value
      pure { payload with cid := some cid }
  | "#VIN#" => do
      let voltage ← parseStrictFloat value
      pure { payload with mainPowerVoltage := some voltage }
  | "#VBAT#" => do
      let voltage ← parseStrictFloat value
      pure { payload with batteryVoltage := some voltage }
  | "#DEST#" => Except.ok { payload with destination := some value }
  | "#IGN#" | "#ENG#" => do
      let level ← parseStrictInt value
      pure { payload with ignition := some level.isPositive }
  | _ =>
      Except.ok { payload with
        unsupportedTags := payload.unsupportedTags ++ [tag] }

/-- One field of the data: an empty one is skipped, and a value that is refused
leaves the payload as it is. -/
def applyField (decoded : StarlinkReportPayload × List StarlinkWarning)
    (field : String × Utf16) :
    StarlinkReportPayload × List StarlinkWarning :=
  if field.2 = [] then decoded
  else
    match applyTag field.1 field.2 decoded.1 with
    | Except.ok payload => (payload, decoded.2)
    | Except.error error =>
        (decoded.1,
          decoded.2 ++ [StarlinkWarning.tagFailed field.1 field.2 error])

/-- Fields are paired with tags as far as there are both. -/
def parseEventReport (data : Utf16) (formatTags : List String) :
    StarlinkReportPayload × List StarlinkWarning :=
  let fields := data.splitOn comma
  let decoded := (formatTags.zip fields).foldl applyField ({}, [])
  let extra := if fields.length > formatTags.length then
    [StarlinkWarning.extraFields fields.length formatTags.length] else []
  let unsupported := if decoded.1.unsupportedTags.length > 0 then
    [StarlinkWarning.unsupportedTags decoded.1.unsupportedTags] else []
  (decoded.1, decoded.2 ++ extra ++ unsupported)

/-!
## Frames
-/

/-- The text of a group; one that took no part is {lit}`undefined`. -/
def groupText (captures : Captures UInt16) (index : Nat) : Utf16 :=
  (captures.lookup index).getD []

def headerOf (captures : Captures UInt16) : StarlinkFrameHeader where
  head := groupText captures 1
  deviceId := asciiString (groupText captures 2)
  messageType := parseIntNumber (chars (groupText captures 3))
  messageIndex := parseIntNumber (chars (groupText captures 4))
  checksumHex := asciiString (groupText captures 6)

def noMatch (trimmed : Utf16) : Utf16 :=
  utf16 ("Line does not match the \"SLU\" frame format (expected " ++
    "\"[<head>]SLU<id>,<type>,<index>,<data>*<XX>\"): ") ++ trimmed.take 80

/-- Decoding an event report cannot throw, so its handler has nothing to
catch. -/
def parseFrame (line : Utf16) (formatTags : List String) :
    Except Utf16 ParsedStarlinkFrame :=
  let trimmed := trimUnits line
  if trimmed.length = 0 then Except.error (utf16 "Cannot parse an empty line")
  else
    match framePattern.exec trimmed with
    | none => Except.error (noMatch trimmed)
    | some captures =>
        let header := headerOf captures
        let data := groupText captures 5
        if header.messageType = starlinkEventReportMessageType then
          let decoded := parseEventReport data formatTags
          Except.ok
            { header := header
              report := some decoded.1
              warnings := decoded.2
              rawLine := trimmed
              rawData := data }
        else
          Except.ok
            { header := header
              report := none
              warnings := [StarlinkWarning.notDecodedYet header.messageType]
              rawLine := trimmed
              rawData := data }

/-!
## Reading digits
-/

theorem toNat_charOf {unit : UInt16} (h : unit.toNat < 0xd800) :
    (charOf unit).toNat = unit.toNat := by
  have hvalid : unit.toNat.isValidChar := Or.inl h
  rw [charOf, Char.ofNat, dif_pos hvalid]
  rfl

theorem isDigitUnit_iff {unit : UInt16} :
    isDigitUnit unit = true <-> 48 ≤ unit.toNat ∧ unit.toNat ≤ 57 := by
  simp [isDigitUnit, UInt16.le_iff_toNat_le]

theorem isDigit_charOf {unit : UInt16} (h : isDigitUnit unit = true) :
    (charOf unit).isDigit = true := by
  have hbounds := isDigitUnit_iff.mp h
  rw [isDigit_iff, toNat_charOf (by lia)]
  exact hbounds

theorem isDigit_of_mem_chars {digits : Utf16}
    (h : digits.all isDigitUnit = true) :
    forall c, c ∈ chars digits -> c.isDigit = true := by
  intro c hc
  rcases List.mem_map.mp hc with ⟨unit, hunit, rfl⟩
  exact isDigit_charOf (List.all_eq_true.mp h unit hunit)

theorem parseIntNumber_digits {digits : Utf16} (hne : digits ≠ [])
    (h : digits.all isDigitUnit = true) :
    parseIntNumber (chars digits) =
      JsNumber.ofInt (digitsValue (chars digits) : Int) := by
  have hchars : chars digits ≠ [] := by
    simpa [chars] using hne
  have hall : (chars digits).all Char.isDigit = true :=
    List.all_eq_true.mpr (isDigit_of_mem_chars h)
  rw [parseIntNumber, parseInt_digits hchars hall]

/-!
## Which lines are accepted
-/

section Accepted

variable {line : Utf16} {formatTags : List String}

/-- The header of the parts of a line; type and index are read in base ten. -/
def SluLine.header (l : SluLine) : StarlinkFrameHeader where
  head := l.head.toList
  deviceId := asciiString l.deviceId
  messageType := JsNumber.ofInt (digitsValue (chars l.messageType) : Int)
  messageIndex := JsNumber.ofInt (digitsValue (chars l.messageIndex) : Int)
  checksumHex := asciiString l.checksum

theorem headerOf_captures (l : SluLine) : headerOf l.captures = l.header := by
  have htype := parseIntNumber_digits l.messageType_valid.left
    l.messageType_valid.right
  have hindex := parseIntNumber_digits l.messageIndex_valid.left
    l.messageIndex_valid.right
  rw [SluLine.header, ← htype, ← hindex]
  rcases l with ⟨head, id, messageType, messageIndex, data, checksum⟩
  cases head <;> rfl

theorem groupText_data (l : SluLine) : groupText l.captures 5 = l.data := by
  rcases l with ⟨head, id, messageType, messageIndex, data, checksum⟩
  cases head <;> rfl

theorem SluLine.text_ne_nil (l : SluLine) : l.text ≠ [] := by
  simp [SluLine.text, slu]

theorem parseFrame_of_text {l : SluLine} (h : trimUnits line = l.text) :
    exists parsed, parseFrame line formatTags = Except.ok parsed ∧
      parsed.header = l.header ∧ parsed.rawData = l.data ∧
        parsed.rawLine = l.text := by
  have hpos : ¬ l.text.length = 0 := by
    rw [List.length_eq_zero_iff]
    exact l.text_ne_nil
  simp only [parseFrame, h, if_neg hpos, exec_text, headerOf_captures,
    groupText_data]
  by_cases htype : l.header.messageType = starlinkEventReportMessageType
  · rw [if_pos htype]
    exact ⟨_, rfl, rfl, rfl, rfl⟩
  · rw [if_neg htype]
    exact ⟨_, rfl, rfl, rfl, rfl⟩

theorem exists_text_of_parseFrame {parsed : ParsedStarlinkFrame}
    (h : parseFrame line formatTags = Except.ok parsed) :
    exists l : SluLine, trimUnits line = l.text := by
  simp only [parseFrame] at h
  rcases ite_eq_iff.mp h with ⟨_, hc⟩ | ⟨_, h⟩
  · cases hc
  · cases hexec : framePattern.exec (trimUnits line) with
    | none =>
        rw [hexec] at h
        cases h
    | some captures =>
        rcases exec_eq_some_iff.mp hexec with ⟨l, htext, _⟩
        exact ⟨l, htext⟩

end Accepted

end Starlink
end AvtTracker
