import AvtTracker.Starlink.BuiltLines
import AvtTracker.Starlink.FieldIsolation
import AvtTracker.Starlink.ReportValues

/-!
# Event reports read back

A unit writes the values of its report in the order of its format, leaving a field
empty where it has none.  A server with the same format reads from the line what
was written, and nothing else.
-/

namespace AvtTracker
namespace Starlink

open Foundation

/-!
## Building the data
-/

structure BuildEventReportDataFields where
  edt : Option Utf16 := none
  eid : Option Utf16 := none
  pdt : Option Utf16 := none
  lat : Option Utf16 := none
  long : Option Utf16 := none
  spd : Option Utf16 := none
  head : Option Utf16 := none
  odo : Option Utf16 := none
  in1 : Option Utf16 := none
  in2 : Option Utf16 := none
  in3 : Option Utf16 := none
  in4 : Option Utf16 := none
  out1 : Option Utf16 := none
  out2 : Option Utf16 := none
  out3 : Option Utf16 := none
  out4 : Option Utf16 := none
  lac : Option Utf16 := none
  cid : Option Utf16 := none
  vin : Option Utf16 := none
  vbat : Option Utf16 := none
  dest : Option Utf16 := none
  ign : Option Utf16 := none
  eng : Option Utf16 := none

def buildEventReportData (fields : BuildEventReportDataFields) : Utf16 :=
  [comma].intercalate
    [fields.edt.getD [], fields.eid.getD [], fields.pdt.getD [],
      fields.lat.getD [], fields.long.getD [], fields.spd.getD [],
      fields.head.getD [], fields.odo.getD [], fields.in1.getD [],
      fields.in2.getD [], fields.in3.getD [], fields.in4.getD [],
      fields.out1.getD [], fields.out2.getD [], fields.out3.getD [],
      fields.out4.getD [], fields.lac.getD [], fields.cid.getD [],
      fields.vin.getD [], fields.vbat.getD [], fields.dest.getD [],
      fields.ign.getD [], fields.eng.getD []]

/-!
## Reports
-/

/-- What a unit has to report. -/
structure EventReport where
  edt : Option Timestamp := none
  eid : Option IntegerNumeral := none
  pdt : Option Timestamp := none
  lat : Option Coordinate := none
  long : Option Coordinate := none
  spd : Option DecimalNumeral := none
  head : Option IntegerNumeral := none
  odo : Option DecimalNumeral := none
  in1 : Option IntegerNumeral := none
  in2 : Option IntegerNumeral := none
  in3 : Option IntegerNumeral := none
  in4 : Option IntegerNumeral := none
  out1 : Option IntegerNumeral := none
  out2 : Option IntegerNumeral := none
  out3 : Option IntegerNumeral := none
  out4 : Option IntegerNumeral := none
  lac : Option IntegerNumeral := none
  cid : Option IntegerNumeral := none
  vin : Option DecimalNumeral := none
  vbat : Option DecimalNumeral := none
  dest : Option FieldText := none
  ign : Option IntegerNumeral := none
  eng : Option IntegerNumeral := none

namespace EventReport

def fields (r : EventReport) : BuildEventReportDataFields where
  edt := r.edt.map Timestamp.text
  eid := r.eid.map IntegerNumeral.text
  pdt := r.pdt.map Timestamp.text
  lat := r.lat.map Coordinate.text
  long := r.long.map Coordinate.text
  spd := r.spd.map DecimalNumeral.text
  head := r.head.map IntegerNumeral.text
  odo := r.odo.map DecimalNumeral.text
  in1 := r.in1.map IntegerNumeral.text
  in2 := r.in2.map IntegerNumeral.text
  in3 := r.in3.map IntegerNumeral.text
  in4 := r.in4.map IntegerNumeral.text
  out1 := r.out1.map IntegerNumeral.text
  out2 := r.out2.map IntegerNumeral.text
  out3 := r.out3.map IntegerNumeral.text
  out4 := r.out4.map IntegerNumeral.text
  lac := r.lac.map IntegerNumeral.text
  cid := r.cid.map IntegerNumeral.text
  vin := r.vin.map DecimalNumeral.text
  vbat := r.vbat.map DecimalNumeral.text
  dest := r.dest.map FieldText.text
  ign := r.ign.map IntegerNumeral.text
  eng := r.eng.map IntegerNumeral.text

/-- The field a tag of a format stands for; it is empty where nothing is
reported, and for a tag the decoder does not know. -/
def field (r : EventReport) (tag : String) : Utf16 :=
  match tag with
  | "#EDT#" => r.fields.edt.getD []
  | "#EID#" => r.fields.eid.getD []
  | "#PDT#" => r.fields.pdt.getD []
  | "#LAT#" => r.fields.lat.getD []
  | "#LONG#" => r.fields.long.getD []
  | "#SPD#" => r.fields.spd.getD []
  | "#HEAD#" => r.fields.head.getD []
  | "#ODO#" => r.fields.odo.getD []
  | "#IN1#" => r.fields.in1.getD []
  | "#IN2#" => r.fields.in2.getD []
  | "#IN3#" => r.fields.in3.getD []
  | "#IN4#" => r.fields.in4.getD []
  | "#OUT1#" => r.fields.out1.getD []
  | "#OUT2#" => r.fields.out2.getD []
  | "#OUT3#" => r.fields.out3.getD []
  | "#OUT4#" => r.fields.out4.getD []
  | "#LAC#" => r.fields.lac.getD []
  | "#CID#" => r.fields.cid.getD []
  | "#VIN#" => r.fields.vin.getD []
  | "#VBAT#" => r.fields.vbat.getD []
  | "#DEST#" => r.fields.dest.getD []
  | "#IGN#" => r.fields.ign.getD []
  | "#ENG#" => r.fields.eng.getD []
  | _ => []

def data (r : EventReport) (formatTags : List String) : Utf16 :=
  [comma].intercalate (formatTags.map r.field)

theorem data_default (r : EventReport) :
    r.data defaultStarlinkFormatTags = buildEventReportData r.fields :=
  rfl

/-!
## What is reported
-/

/-- A line that has a level is filed under its name. -/
def setLine (line : String) (level : Option IntegerNumeral)
    (lines : DigitalLines) : DigitalLines :=
  level.elim lines (fun n => lines.insert line n.number)

/-- What an event says of the ignition. -/
def turned (n : IntegerNumeral) : Option Bool :=
  if n.number = 24 then some true
  else if n.number = 25 then some false
  else none

/-- The payload a report stands for.  The engine is asked before the ignition
line, and both before the event. -/
def payload (r : EventReport) : StarlinkReportPayload where
  eventId := r.eid.map IntegerNumeral.number
  eventName := r.eid.map (fun n => getStarlinkEventName n.number)
  alarm := r.eid.bind (fun n => getStarlinkAlarm n.number)
  deviceTime := r.edt.map (fun t => some { time := some t.time })
  fixTime := r.pdt.map (fun t => some { time := some t.time })
  latitude := r.lat.map Coordinate.number
  longitude := r.long.map Coordinate.number
  speedKnots := r.spd.map DecimalNumeral.number
  course := r.head.map IntegerNumeral.number
  odometerM := r.odo.map DecimalNumeral.thousandfold
  digitalInputs := setLine "IN4" r.in4 (setLine "IN3" r.in3
    (setLine "IN2" r.in2 (setLine "IN1" r.in1 ∅)))
  digitalOutputs := setLine "OUT4" r.out4 (setLine "OUT3" r.out3
    (setLine "OUT2" r.out2 (setLine "OUT1" r.out1 ∅)))
  lac := r.lac.map IntegerNumeral.number
  cid := r.cid.map IntegerNumeral.number
  mainPowerVoltage := r.vin.map DecimalNumeral.number
  batteryVoltage := r.vbat.map DecimalNumeral.number
  destination := r.dest.map FieldText.text
  ignition := (r.eng.map (fun n => n.number.isPositive)).or
    ((r.ign.map (fun n => n.number.isPositive)).or (r.eid.bind turned))

/-- What the field of a tag changes in a payload. -/
def write (r : EventReport) (tag : String) (p : StarlinkReportPayload) :
    StarlinkReportPayload :=
  match tag with
  | "#EDT#" => { p with
      deviceTime := (r.payload.deviceTime).or p.deviceTime }
  | "#EID#" => { p with
      eventId := r.payload.eventId.or p.eventId
      eventName := r.payload.eventName.or p.eventName
      alarm := r.eid.elim p.alarm (fun n => getStarlinkAlarm n.number)
      ignition := (r.eid.bind turned).or p.ignition }
  | "#PDT#" => { p with fixTime := r.payload.fixTime.or p.fixTime }
  | "#LAT#" => { p with latitude := r.payload.latitude.or p.latitude }
  | "#LONG#" => { p with longitude := r.payload.longitude.or p.longitude }
  | "#SPD#" => { p with speedKnots := r.payload.speedKnots.or p.speedKnots }
  | "#HEAD#" => { p with course := r.payload.course.or p.course }
  | "#ODO#" => { p with odometerM := r.payload.odometerM.or p.odometerM }
  | "#IN1#" => { p with digitalInputs := setLine "IN1" r.in1 p.digitalInputs }
  | "#IN2#" => { p with digitalInputs := setLine "IN2" r.in2 p.digitalInputs }
  | "#IN3#" => { p with digitalInputs := setLine "IN3" r.in3 p.digitalInputs }
  | "#IN4#" => { p with digitalInputs := setLine "IN4" r.in4 p.digitalInputs }
  | "#OUT1#" => { p with
      digitalOutputs := setLine "OUT1" r.out1 p.digitalOutputs }
  | "#OUT2#" => { p with
      digitalOutputs := setLine "OUT2" r.out2 p.digitalOutputs }
  | "#OUT3#" => { p with
      digitalOutputs := setLine "OUT3" r.out3 p.digitalOutputs }
  | "#OUT4#" => { p with
      digitalOutputs := setLine "OUT4" r.out4 p.digitalOutputs }
  | "#LAC#" => { p with lac := r.payload.lac.or p.lac }
  | "#CID#" => { p with cid := r.payload.cid.or p.cid }
  | "#VIN#" => { p with
      mainPowerVoltage := r.payload.mainPowerVoltage.or p.mainPowerVoltage }
  | "#VBAT#" => { p with
      batteryVoltage := r.payload.batteryVoltage.or p.batteryVoltage }
  | "#DEST#" => { p with destination := r.payload.destination.or p.destination }
  | "#IGN#" => { p with
      ignition := (r.ign.map (fun n => n.number.isPositive)).or p.ignition }
  | "#ENG#" => { p with
      ignition := (r.eng.map (fun n => n.number.isPositive)).or p.ignition }
  | _ => p

/-- The payload a report stands for in any format: its fields are written one
behind the other, and the last one that writes a member counts. -/
def payloadIn (r : EventReport) (formatTags : List String) :
    StarlinkReportPayload :=
  formatTags.foldl (fun p tag => r.write tag p) {}

theorem payloadIn_default (r : EventReport) :
    r.payloadIn defaultStarlinkFormatTags = r.payload := by
  have halarm : r.eid.elim none (fun n => getStarlinkAlarm n.number) =
      r.payload.alarm := by
    unfold payload
    cases r.eid <;> rfl
  simp only [payloadIn, defaultStarlinkFormatTags, List.foldl_cons,
    List.foldl_nil, write, Option.or_none, halarm]
  rfl

end EventReport

/-!
## Fields
-/

section Fields

variable (r : EventReport)

theorem isFieldUnit_iff {unit : UInt16} :
    isFieldUnit unit = true <-> isDot unit = true ∧ unit ≠ comma := by
  rw [isFieldUnit, Bool.and_eq_true, bne_iff_ne]

theorem field_cases (tag : String) :
    r.field tag = [] ∨ WellWritten (r.field tag) := by
  have hgiven : forall {α : Type} (text : α -> Utf16),
      (forall a, WellWritten (text a)) -> forall value : Option α,
        (value.map text).getD [] = [] ∨
          WellWritten ((value.map text).getD []) := by
    intro α text htext value
    cases value with
    | none => exact Or.inl rfl
    | some a => exact Or.inr (htext a)
  unfold EventReport.field EventReport.fields
  split
  all_goals first
    | exact hgiven _ Timestamp.wellWritten _
    | exact hgiven _ IntegerNumeral.wellWritten _
    | exact hgiven _ DecimalNumeral.wellWritten _
    | exact hgiven _ Coordinate.wellWritten _
    | exact hgiven _ FieldText.wellWritten _
    | exact Or.inl rfl

theorem applyField_given {α : Type} {tag : String} {text : α -> Utf16}
    {decoded : StarlinkReportPayload × List StarlinkWarning}
    {value : Option α} {q : StarlinkReportPayload}
    (htext : forall a, WellWritten (text a))
    (hnone : value = none -> q = decoded.1)
    (hsome : forall a, value = some a ->
      applyTag tag (text a) decoded.1 = Except.ok q) :
    applyField decoded (tag, (value.map text).getD []) = (q, decoded.2) := by
  cases hvalue : value with
  | none =>
      rw [hnone hvalue]
      exact if_pos rfl
  | some a =>
      unfold applyField
      dsimp only [Option.map_some, Option.getD_some]
      rw [if_neg (htext a).ne_nil, hsome a hvalue]

theorem applyEventId_eq (n : IntegerNumeral) (p : StarlinkReportPayload) :
    applyEventId n.number p = { p with
      eventId := some n.number
      eventName := some (getStarlinkEventName n.number)
      alarm := getStarlinkAlarm n.number
      ignition := (EventReport.turned n).or p.ignition } := by
  unfold applyEventId EventReport.turned
  split_ifs <;> rfl

theorem applyField_field (tag : String)
    (decoded : StarlinkReportPayload × List StarlinkWarning) :
    applyField decoded (tag, r.field tag) =
      (r.write tag decoded.1, decoded.2) := by
  unfold EventReport.field EventReport.write EventReport.fields
    EventReport.payload
  split
  all_goals first
    | refine applyField_given Timestamp.wellWritten ?_ ?_
    | refine applyField_given IntegerNumeral.wellWritten ?_ ?_
    | refine applyField_given DecimalNumeral.wellWritten ?_ ?_
    | refine applyField_given Coordinate.wellWritten ?_ ?_
    | refine applyField_given FieldText.wellWritten ?_ ?_
    | exact if_pos rfl
  all_goals
    intros
    simp only [*]
  all_goals first
    | rfl
    | simp only [applyTag, parseStarlinkDateTime_text]
      rfl
    | simp only [applyTag, parseStrictInt_text]
      rfl
    | simp only [applyTag, parseStrictFloat_text]
      rfl
    | simp only [applyTag, parseStarlinkCoordinate_text]
      rfl
    | simp only [applyTag, parseStrictInt_text]
      exact congrArg Except.ok (applyEventId_eq _ _)

theorem foldl_applyField (formatTags : List String)
    (decoded : StarlinkReportPayload × List StarlinkWarning) :
    (formatTags.zip (formatTags.map r.field)).foldl applyField decoded =
      (formatTags.foldl (fun p tag => r.write tag p) decoded.1, decoded.2) := by
  induction formatTags generalizing decoded with
  | nil => rfl
  | cons tag tags ih =>
      rw [List.map_cons, List.zip_cons_cons, List.foldl_cons, List.foldl_cons,
        applyField_field, ih]

theorem unsupportedTags_foldl (formatTags : List String)
    (p : StarlinkReportPayload) :
    (formatTags.foldl (fun p tag => r.write tag p) p).unsupportedTags =
      p.unsupportedTags := by
  induction formatTags generalizing p with
  | nil => rfl
  | cons tag tags ih =>
      have hwrite : (r.write tag p).unsupportedTags = p.unsupportedTags := by
        unfold EventReport.write
        split <;> rfl
      rw [List.foldl_cons, ih, hwrite]

theorem comma_not_mem_field (tag : String) : comma ∉ r.field tag := by
  intro hmem
  rcases field_cases r tag with hnil | hwritten
  · rw [hnil] at hmem
    cases hmem
  · have hunit := List.all_eq_true.mp hwritten.units comma hmem
    exact (isFieldUnit_iff.mp hunit).right rfl

theorem splitOn_data {formatTags : List String} (h : formatTags ≠ []) :
    (r.data formatTags).splitOn comma = formatTags.map r.field := by
  apply List.splitOn_intercalate
  · intro field hfield
    rcases List.mem_map.mp hfield with ⟨tag, _, rfl⟩
    exact comma_not_mem_field r tag
  · exact fun hnil => h (List.map_eq_nil_iff.mp hnil)

/-- A report is read back from its data, and nothing has to be said about it. -/
theorem parseEventReport_data {formatTags : List String}
    (h : formatTags ≠ []) :
    parseEventReport (r.data formatTags) formatTags =
      (r.payloadIn formatTags, []) := by
  have hfold : (formatTags.zip (formatTags.map r.field)).foldl applyField
      ({}, []) = (r.payloadIn formatTags, []) := foldl_applyField r formatTags _
  have htags : (r.payloadIn formatTags).unsupportedTags = [] :=
    unsupportedTags_foldl r formatTags {}
  simp only [parseEventReport, splitOn_data r h, hfold, htags]
  simp

/-- What holds of fields and commas, and of texts put together, holds of the
data. -/
theorem data_induction {motive : Utf16 -> Prop} (hnil : motive [])
    (hcomma : motive [comma])
    (hfield : forall text, WellWritten text -> motive text)
    (happend : forall front back, motive front -> motive back ->
      motive (front ++ back)) (formatTags : List String) :
    motive (r.data formatTags) := by
  have htag : forall tag, motive (r.field tag) := by
    intro tag
    rcases field_cases r tag with hempty | hwritten
    · rw [hempty]
      exact hnil
    · exact hfield _ hwritten
  unfold EventReport.data
  induction formatTags with
  | nil => exact hnil
  | cons tag tags ih =>
      by_cases htags : tags.map r.field = []
      · rw [List.map_cons, htags, List.intercalate_singleton]
        exact htag tag
      · rw [List.map_cons, List.intercalate_cons_of_ne_nil htags]
        exact happend _ _ (happend _ _ (htag tag) hcomma) ih

theorem all_isDot_data (formatTags : List String) :
    (r.data formatTags).all isDot = true := by
  refine data_induction (motive := fun text => text.all isDot = true) r rfl
    (by decide) ?_ ?_ formatTags
  · intro text hwritten
    rw [List.all_eq_true]
    intro unit hunit
    exact (isFieldUnit_iff.mp
      (List.all_eq_true.mp hwritten.units unit hunit)).left
  · intro front back hfront hback
    rw [List.all_append, hfront, hback]
    rfl

theorem wellFormed_data (formatTags : List String) :
    wellFormed (r.data formatTags) = true := by
  refine data_induction (motive := fun text => wellFormed text = true) r rfl
    (by decide) ?_ ?_ formatTags
  · intro text hwritten
    exact hwritten.noLoneSurrogate
  · intro front back hfront hback
    rw [wellFormed_append hfront]
    exact hback

theorem formatTags_ne_nil {formatTags : List String}
    (h : r.data formatTags ≠ []) : formatTags ≠ [] := by
  rintro rfl
  exact h rfl

end Fields

/-!
## Lines
-/

/-- An event report as a unit sends it in a format, with or without a head. -/
structure ReportLine (formatTags : List String) where
  head : Option UInt16
  deviceId : String
  messageIndex : Nat
  report : EventReport
  checksumHex : String
  head_valid : forall unit, unit ∈ head ->
    isSpaceUnit unit = false ∧ isSurrogate unit = false
  deviceId_valid : IsDeviceId (utf16 deviceId)
  messageIndex_lt : messageIndex < 2 ^ 53
  checksum_valid : (utf16 checksumHex).length = 2 ∧
    (utf16 checksumHex).all isHexDigitUnit = true
  data_ne_nil : report.data formatTags ≠ []

namespace ReportLine

variable {formatTags : List String} (l : ReportLine formatTags)

def options : BuildStarlinkLineOptions where
  head := some l.head.toList
  deviceId := l.deviceId
  messageType := starlinkEventReportMessageType
  messageIndex := JsNumber.finite l.messageIndex
  data := l.report.data formatTags
  checksumHex := some l.checksumHex

def text : Utf16 :=
  buildStarlinkLine l.options

def parsed : ParsedStarlinkFrame where
  header :=
    { head := l.head.toList
      deviceId := l.deviceId
      messageType := starlinkEventReportMessageType
      messageIndex := JsNumber.finite l.messageIndex
      checksumHex := l.checksumHex }
  report := some (l.report.payloadIn formatTags)
  warnings := []
  rawLine := l.text
  rawData := l.report.data formatTags

theorem options_valid : l.options.Valid where
  head := by
    cases hhead : l.head with
    | none =>
        apply Or.inl
        simp [BuildStarlinkLineOptions.headText, options, hhead]
    | some unit =>
        apply Or.inr
        refine ⟨unit, ?_, (l.head_valid unit hhead).left⟩
        simp [BuildStarlinkLineOptions.headText, options, hhead]
  deviceId := l.deviceId_valid
  messageType := ⟨6, by decide, rfl⟩
  messageIndex := ⟨l.messageIndex, l.messageIndex_lt, rfl⟩
  data := ⟨l.data_ne_nil, all_isDot_data l.report formatTags⟩
  checksum := l.checksum_valid

end ReportLine

theorem parseFrame_report {line : Utf16} {l : SluLine}
    {formatTags : List String} (h : trimUnits line = l.text)
    (htype : l.header.messageType = starlinkEventReportMessageType) :
    parseFrame line formatTags = Except.ok
      { header := l.header
        report := some (parseEventReport l.data formatTags).1
        warnings := (parseEventReport l.data formatTags).2
        rawLine := l.text
        rawData := l.data } := by
  have hpos : ¬ l.text.length = 0 := by
    rw [List.length_eq_zero_iff]
    exact l.text_ne_nil
  simp only [parseFrame, h, if_neg hpos, exec_text, headerOf_captures,
    groupText_data, if_pos htype]

theorem ReportLine.parseFrame_text {formatTags : List String}
    (l : ReportLine formatTags) :
    parseFrame l.text formatTags = Except.ok l.parsed := by
  have hvalid := l.options_valid
  have htext : trimUnits l.text = hvalid.line.text := by
    rw [text, trimUnits_buildStarlinkLine hvalid, buildStarlinkLine_eq hvalid]
  have hheader : hvalid.line.header = l.parsed.header := by
    rcases @parseFrame_of_text l.text formatTags hvalid.line htext with
      ⟨parsed, hparsed, hline, _⟩
    rcases parseFrame_buildStarlinkLine hvalid formatTags with
      ⟨parsed', hparsed', hoptions, _⟩
    have hsame := hparsed.symm.trans hparsed'
    rw [← hline, Except.ok.inj hsame, hoptions]
    rfl
  have hreport : parseEventReport hvalid.line.data formatTags =
      (l.report.payloadIn formatTags, []) :=
    parseEventReport_data l.report (formatTags_ne_nil l.report l.data_ne_nil)
  rw [parseFrame_report htext (congrArg StarlinkFrameHeader.messageType hheader),
    hheader, hreport, ← buildStarlinkLine_eq hvalid]
  rfl

/--
What a unit writes in the format the server is configured with is read back from
its line, with nothing to warn of: each field is written to the members of its
tag.  In the default format, which is the order of the builder, these are all
values of the report.
-/
theorem eventReport_roundTrip :
    (forall (formatTags : List String) (l : ReportLine formatTags),
      parseFrame l.text formatTags = Except.ok l.parsed) ∧
    forall l : ReportLine defaultStarlinkFormatTags,
      l.text = buildStarlinkLine { l.options with
        data := buildEventReportData l.report.fields } ∧
      l.parsed.report = some l.report.payload := by
  constructor
  · intro formatTags l
    exact l.parseFrame_text
  · intro l
    constructor
    · rw [ReportLine.text, ReportLine.options, EventReport.data_default]
    · rw [ReportLine.parsed, EventReport.payloadIn_default]

end Starlink
end AvtTracker
