import AvtTracker.Tracker.Accounting
import AvtTracker.Tracker.ParseFrame

/-!
# The envelope of a frame

What {lit}`parseFrame` returns for a frame with a usable envelope, and that
decoding the data zone neither touches the header and the hexadecimal dumps
nor adds a warning about the envelope.
-/

namespace AvtTracker
namespace Tracker

open Foundation

/-!
## Warnings of the data zone
-/

theorem inDataZone_stopNotes (kind : MaskKind) (stop : Option (Nat × Failure)) :
    forall w, w ∈ stopNotes (Warning.stoppedDecoding kind) stop ->
      w.inDataZone := by
  intro w hw
  cases stop with
  | none => cases hw
  | some s =>
      rw [List.mem_singleton.mp hw]
      rfl

theorem inDataZone_skippedNotes {L : MaskLayout Warning} {kind : MaskKind}
    (h : L.notDecoded = Warning.bitsNotDecoded kind) (block : MaskBlock L) :
    forall w, w ∈ L.skippedNotes block -> w.inDataZone := by
  intro w hw
  unfold MaskLayout.skippedNotes at hw
  rw [h] at hw
  by_cases hskipped : block.unsupportedBits.length > 0
  · rw [if_pos hskipped] at hw
    rw [List.mem_singleton.mp hw]
    rfl
  · rw [if_neg hskipped] at hw
    cases hw

theorem inDataZone_parseBlock {L : MaskLayout Warning} {kind : MaskKind}
    (hwarns : WarnsOf L kind) (zone : Bytes) (offset : Nat) :
    forall w, w ∈ (L.parseBlock.run zone offset).notes -> w.inDataZone := by
  intro w hw
  by_cases hlen : zone.length - offset < 4
  · rw [run_parseBlock_short hlen] at hw
    cases hw
  · rw [run_parseBlock (Nat.not_lt.mp hlen), L.run_parseFields,
      walkMask_notes_of_quiet hwarns.quiet, hwarns.stopped,
      List.nil_append] at hw
    rcases List.mem_append.mp hw with hw | hw
    · exact inDataZone_stopNotes _ _ w hw
    · exact inDataZone_skippedNotes hwarns.notDecoded _ w hw

theorem inDataZone_canAdvanced (zone : Bytes) (offset : Nat) :
    forall w, w ∈ (parseCanAdvancedInfoMask1Block.run zone offset).notes ->
      w.inDataZone := by
  intro w hw
  by_cases hlen : zone.length - offset < 4
  · rw [run_canAdvanced_short hlen] at hw
    cases hw
  · rw [run_canAdvanced (Nat.not_lt.mp hlen)] at hw
    exact inDataZone_stopNotes _ _ w hw

theorem inDataZone_of_quiet {α : Type} (d : Decoder Warning α)
    [Decoder.Lawful d] (zone : Bytes) (offset : Nat) :
    forall w, w ∈ (d.run zone offset).notes -> w.inDataZone := by
  intro w hw
  rw [Decoder.Lawful.quiet] at hw
  cases hw

theorem inDataZone_read (f : ReportField) (zone : Bytes) (offset : Nat) :
    forall w, w ∈ (f.read.run zone offset).notes -> w.inDataZone := by
  cases f
  case eventData => exact inDataZone_parseBlock warnsOf_eventData zone offset
  case canInfo1 => exact inDataZone_parseBlock warnsOf_canInfo1 zone offset
  case canInfo2 => exact inDataZone_parseBlock warnsOf_canInfo2 zone offset
  case electricInfo1 =>
    exact inDataZone_parseBlock warnsOf_electricInfo1 zone offset
  case canInfo3 => exact inDataZone_parseBlock warnsOf_canInfo3 zone offset
  case canAdvancedInfo1 =>
    intro w hw
    have hw' : w ∈ (readCanAdvancedFields.run zone offset).notes := hw
    rw [ReportField.run_readCanAdvancedFields_notes] at hw'
    exact inDataZone_canAdvanced zone offset w hw'
  case frame => exact inDataZone_of_quiet readFrameBlock zone offset
  case networkType =>
    exact inDataZone_of_quiet BufferCursor.readUInt8 zone offset
  case battery => exact inDataZone_of_quiet readBatteryBlock zone offset
  case gnss => exact inDataZone_of_quiet parseGnssBlock zone offset
  case cell => exact inDataZone_of_quiet readCellBlock zone offset
  case upgrade => exact inDataZone_of_quiet readUpgradeBlock zone offset

theorem inDataZone_parseFields (mask : Nat) (zone : Bytes) (offset : Nat) :
    forall w, w ∈ ((reportLayout.parseFields mask).run zone offset).notes ->
      w.inDataZone := by
  intro w hw
  rw [reportLayout.run_parseFields, MaskLayout.walkMask_notes] at hw
  rcases List.mem_append.mp hw with hw | hw
  · rcases List.mem_append.mp hw with hw | hw
    · rcases List.mem_flatMap.mp hw with ⟨visit, _, hw⟩
      unfold MaskLayout.advance at hw
      cases hcase : reportLayout.bitCase visit.1 with
      | field f =>
          rw [hcase] at hw
          exact inDataZone_read f zone visit.2 w hw
      | reserved => rw [hcase] at hw; cases hw
      | unsupported => rw [hcase] at hw; cases hw
    · exact inDataZone_stopNotes _ _ w hw
  · exact inDataZone_skippedNotes rfl _ w hw

theorem inDataZone_bind {α β : Type} {d : Decoder Warning α}
    {next : α -> Decoder Warning β} [Decoder.Lawful d] {zone : Bytes}
    {offset : Nat} (h : forall a o w, w ∈ ((next a).run zone o).notes ->
      w.inDataZone) :
    forall w, w ∈ ((d >>= next).run zone offset).notes -> w.inDataZone := by
  intro w hw
  cases hres : (d.run zone offset).result with
  | error e =>
      rw [Decoder.run_bind_error hres, Decoder.Lawful.quiet] at hw
      cases hw
  | ok a =>
      rw [Decoder.run_bind_ok hres, Decoder.Lawful.quiet,
        List.nil_append] at hw
      exact h a _ w hw

instance : Decoder.Lawful readProtocolVersion :=
  Decoder.lawful_take_ofExcept
    (fun _ h => formatProtocolVersion_accepts h)

theorem inDataZone_report (zone : Bytes) (offset : Nat) :
    forall w, w ∈ (parseReportDataZone.run zone offset).notes ->
      w.inDataZone := by
  unfold parseReportDataZone
  refine inDataZone_bind fun _ _ => inDataZone_bind fun _ _ =>
    inDataZone_bind fun _ _ => inDataZone_bind fun mask o => ?_
  intro w hw
  rw [Decoder.run_bind_ok (by rw [reportLayout.run_parseFields]),
    Decoder.run_pure, List.append_nil] at hw
  exact inDataZone_parseFields mask zone o w hw

theorem inDataZone_parsePeoFence {i : Nat} {fields : List String}
    {w : Warning} (h : parsePeoFence i fields = Except.error w) :
    w.inDataZone := by
  unfold parsePeoFence at h
  split at h
  · rcases ite_eq_iff.mp h with ⟨_, h⟩ | ⟨_, h⟩
    · injection h with h
      rw [← h]
      rfl
    · split at h
      · injection h with h
        rw [← h]
        rfl
      · dsimp only at h
        split at h
        · cases h
        · injection h with h
          rw [← h]
          rfl
  · injection h with h
    rw [← h]
    rfl

theorem inDataZone_scanPeoFences (i skip : Nat) (fields : List String) :
    forall w, w ∈ (scanPeoFences i skip fields).2 -> w.inDataZone := by
  induction fields generalizing i skip with
  | nil =>
      intro w hw
      cases skip <;> cases hw
  | cons field fields ih =>
      cases skip with
      | succ skip => exact ih (i + 1) skip
      | zero =>
          unfold scanPeoFences
          by_cases hfield : field ≠ "PEO"
          · rw [if_pos hfield]
            exact ih (i + 1) 0
          · rw [if_neg hfield]
            intro w hw
            cases hfence : parsePeoFence i fields with
            | error warning =>
                rw [hfence] at hw
                rw [List.mem_singleton.mp hw]
                exact inDataZone_parsePeoFence hfence
            | ok fence =>
                rw [hfence] at hw
                exact ih _ _ w hw

/-!
## Frames with a usable envelope
-/

section DataZone

variable (kind : TrackerFrameKind) (dataZone : Bytes)
variable (parsed : ParsedTrackerFrame)

@[simp] theorem parseDataZone_header :
    (parseDataZone kind dataZone parsed).header = parsed.header := by
  unfold parseDataZone
  split_ifs <;> rfl

@[simp] theorem parseDataZone_rawHex :
    (parseDataZone kind dataZone parsed).rawHex = parsed.rawHex := by
  unfold parseDataZone
  split_ifs <;> rfl

@[simp] theorem parseDataZone_dataZoneHex :
    (parseDataZone kind dataZone parsed).dataZoneHex =
      parsed.dataZoneHex := by
  unfold parseDataZone
  split_ifs <;> rfl

theorem inDataZone_failedDataZone {α : Type} (result : Except Failure α) :
    forall w, w ∈ failedDataZone result -> w.inDataZone := by
  intro w hw
  cases result with
  | ok a => cases hw
  | error e =>
      rw [List.mem_singleton.mp hw]
      rfl

theorem parseDataZone_warnings :
    exists added, (parseDataZone kind dataZone parsed).warnings =
      parsed.warnings ++ added ∧ forall w, w ∈ added -> w.inDataZone := by
  unfold parseDataZone
  split_ifs
  · refine ⟨_, List.append_assoc _ _ _, ?_⟩
    intro w hw
    rcases List.mem_append.mp hw with hw | hw
    · exact inDataZone_report dataZone 0 w hw
    · exact inDataZone_failedDataZone _ w hw
  · exact ⟨_, rfl, inDataZone_failedDataZone _⟩
  · refine ⟨_, rfl, ?_⟩
    intro w hw
    rw [List.mem_singleton.mp hw]
    rfl
  · exact ⟨_, rfl, inDataZone_scanPeoFences 0 0 _⟩

end DataZone

def terminatorWarnings (frame : Bytes) : List Warning :=
  if frame.getLast? = some 0x23 then [] else [Warning.missingTerminator]

/-- What the parser returns for a frame whose head token ends at a colon and
whose binary section holds all fixed-size fields. -/
theorem parseFrame_of_envelope {frame : Bytes} {colonIndex : Nat}
    (hcolon : indexOf frame 0x3a = some colonIndex) (hhead : colonIndex ≤ 7)
    (hfixed : 20 ≤ (binarySection frame (colonIndex + 1)).length) :
    parseFrame frame = Except.ok (parseDataZone
      (resolveKind (asciiText (frame.take (colonIndex + 1))))
      ((frame.drop (colonIndex + 1 + headerPrefixBytes)).take
        ((binarySection frame (colonIndex + 1)).length - 20))
      { header := headerOf (asciiText (frame.take (colonIndex + 1)))
          (resolveKind (asciiText (frame.take (colonIndex + 1))))
          (binarySection frame (colonIndex + 1))
        report := none
        heartbeat := none
        ascii := none
        warnings := terminatorWarnings frame ++
          lengthWarnings (binarySection frame (colonIndex + 1))
        rawHex := toHex frame
        dataZoneHex := toHex ((frame.drop
          (colonIndex + 1 + headerPrefixBytes)).take
            ((binarySection frame (colonIndex + 1)).length - 20)) }) := by
  have hlt := lt_length_of_getElem?_eq_some
    (indexOf_eq_some_iff.mp hcolon).left
  have hnonempty : ¬ frame.length = 0 := by lia
  have htoken : readHeadToken frame =
      Except.ok (frame.take (colonIndex + 1)) := by
    unfold readHeadToken
    rw [hcolon]
    exact if_neg (by lia)
  have hlen : (frame.take (colonIndex + 1)).length = colonIndex + 1 := by
    rw [List.length_take]
    lia
  have hheader := run_parseHeader (asciiText (frame.take (colonIndex + 1)))
    (resolveKind (asciiText (frame.take (colonIndex + 1)))) hfixed
  unfold parseFrame
  rw [if_neg hnonempty, htoken]
  simp only [bind, Except.bind, hlen, hheader]
  rfl

/-- The frame has a head token, and a binary section that holds all fixed-size
fields; the index is that of the colon. -/
def EnvelopeAt (frame : Bytes) (colonIndex : Nat) : Prop :=
  indexOf frame 0x3a = some colonIndex ∧ colonIndex ≤ 7 ∧
    20 ≤ (binarySection frame (colonIndex + 1)).length

theorem run_parseHeader_short (headToken : String) (kind : TrackerFrameKind)
    {binary : Bytes} (h : binary.length < 20) :
    exists error, ((parseHeader headToken kind).run binary 0).result =
      Except.error error := by
  unfold parseHeader BufferCursor.readUInt16BE BufferCursor.readUInt8
    BufferCursor.readBytes
  by_cases h2 : 2 ≤ binary.length - 0
  · rw [Decoder.run_bind_quiet (Decoder.run_unsigned_ok h2)]
    by_cases h10 : 8 ≤ binary.length - 2
    · have himeiLen : ((binary.drop 2).take 8).length = 8 := by
        rw [List.length_take, List.length_drop]
        lia
      rcases decodeImei_accepts himeiLen with ⟨imei, himei⟩
      rw [Decoder.run_bind_quiet (Decoder.run_take_ok h10), himei,
        Decoder.run_bind_quiet rfl]
      by_cases h11 : 1 ≤ binary.length - 10
      · have htrailer : binary.length < 10 + 1 + trailerFixedBytes := h
        rw [Decoder.run_bind_quiet (Decoder.run_unsigned_ok h11),
          Decoder.run_bind_quiet rfl, Decoder.run_bind_quiet rfl,
          if_pos htrailer]
        exact ⟨_, rfl⟩
      · have hread := Decoder.run_unsigned_short (ω := Warning)
          (Nat.not_le.mp h11)
        rw [Decoder.run_bind_error (by rw [hread])]
        exact ⟨_, rfl⟩
    · have hread := Decoder.run_take_short (ω := Warning) (Nat.not_le.mp h10)
      rw [Decoder.run_bind_error (by rw [hread])]
      exact ⟨_, rfl⟩
  · have hread := Decoder.run_unsigned_short (ω := Warning) (Nat.not_le.mp h2)
    rw [Decoder.run_bind_error (by rw [hread])]
    exact ⟨_, rfl⟩

/-- Only a usable envelope is accepted. -/
theorem exists_envelopeAt_of_parseFrame {frame : Bytes}
    {parsed : ParsedTrackerFrame} (h : parseFrame frame = Except.ok parsed) :
    exists colonIndex, EnvelopeAt frame colonIndex := by
  unfold parseFrame readHeadToken at h
  by_cases hempty : frame.length = 0
  · rw [if_pos hempty] at h
    cases h
  · rw [if_neg hempty] at h
    cases hcolon : indexOf frame 0x3a with
    | none =>
        rw [hcolon] at h
        cases h
    | some colonIndex =>
        by_cases hfar : colonIndex > 7
        · simp only [hcolon, if_pos hfar] at h
          cases h
        · refine ⟨colonIndex, hcolon, Nat.not_lt.mp hfar, ?_⟩
          by_contra hshort
          have hlt := lt_length_of_getElem?_eq_some
            (indexOf_eq_some_iff.mp hcolon).left
          have hlen : (frame.take (colonIndex + 1)).length =
              colonIndex + 1 := by
            rw [List.length_take]
            lia
          rcases run_parseHeader_short
              (asciiText (frame.take (colonIndex + 1)))
              (resolveKind (asciiText (frame.take (colonIndex + 1))))
              (Nat.not_le.mp hshort) with ⟨error, herror⟩
          simp only [hcolon, if_neg hfar, bind, Except.bind, hlen,
            herror] at h
          cases h

/-- The parser throws unless the envelope of the frame is usable. -/
theorem parseFrame_accepts_iff {frame : Bytes} :
    (exists parsed, parseFrame frame = Except.ok parsed) <->
      exists colonIndex, EnvelopeAt frame colonIndex := by
  constructor
  · rintro ⟨parsed, h⟩
    exact exists_envelopeAt_of_parseFrame h
  · rintro ⟨colonIndex, hcolon, hhead, hfixed⟩
    exact ⟨_, parseFrame_of_envelope hcolon hhead hfixed⟩

theorem parseFrame_header {frame : Bytes} {parsed : ParsedTrackerFrame}
    {colonIndex : Nat} (h : parseFrame frame = Except.ok parsed)
    (henvelope : EnvelopeAt frame colonIndex) :
    parsed.header = headerOf (asciiText (frame.take (colonIndex + 1)))
      (resolveKind (asciiText (frame.take (colonIndex + 1))))
      (binarySection frame (colonIndex + 1)) := by
  rcases henvelope with ⟨hcolon, hhead, hfixed⟩
  rw [parseFrame_of_envelope hcolon hhead hfixed] at h
  rw [← Except.ok.inj h, parseDataZone_header]

theorem decodeImei_ne_empty {bytes : Bytes} {imei : String}
    (h : decodeImei bytes = Except.ok imei) : imei ≠ "" := by
  unfold decodeImei at h
  rcases ite_eq_iff.mp h with ⟨_, h⟩ | ⟨_, h⟩
  · cases h
  · rw [← Except.ok.inj h, Ne, ← String.toList_eq_nil_iff,
      String.toList_ofList, List.append_eq_nil_iff]
    rintro ⟨_, hdigits⟩
    exact Nat.toDigits_ne_nil hdigits

theorem parseFrame_imei_ne_empty {frame : Bytes} {parsed : ParsedTrackerFrame}
    (h : parseFrame frame = Except.ok parsed) : parsed.header.imei ≠ "" := by
  rcases exists_envelopeAt_of_parseFrame h with ⟨colonIndex, henvelope⟩
  rw [parseFrame_header h henvelope]
  have hfield : (((binarySection frame (colonIndex + 1)).drop 2).take
      8).length = 8 := by
    rw [List.length_take, List.length_drop]
    have hfixed := henvelope.right.right
    lia
  rcases decodeImei_accepts hfield with ⟨imei, himei⟩
  show (decodeImei _).toOption.getD "" ≠ ""
  rw [himei]
  exact decodeImei_ne_empty himei

end Tracker
end AvtTracker
