import AvtTracker.Tracker.ReportExtension

/-!
# Data zones that are cut off

What a cut-off data zone says should stay true when the rest of it arrives, and
nothing should be decoded behind a failed read.  Both hold if and only if no
block that was cut short is followed by bytes that pass for the mask of another
block, and the Mobileye reading does not rest on PIDs that were cut off.
-/

namespace AvtTracker
namespace Tracker

open Foundation BufferCursor ReportField

/-!
## What a prefix says
-/

/-- Everything a payload says is said by another one, but for items that were
added to its lists. -/
structure TrackerReportPayload.Le
    (payload payload' : TrackerReportPayload) : Prop where
  protocolVersion : payload.protocolVersion = payload'.protocolVersion
  eventType : payload.eventType = payload'.eventType
  eventName : payload.eventName = payload'.eventName
  eventState : payload.eventState = payload'.eventState
  dataMask : payload.dataMask = payload'.dataMask
  unsupportedDataMaskBits :
    payload.unsupportedDataMaskBits <+: payload'.unsupportedDataMaskBits
  fields : forall (f : ReportField) (v : f.Value), payload.get f = some v ->
    exists v', payload'.get f = some v' ∧ f.le v v'
  mobileyeAdas : forall reading, payload.mobileyeAdas = some reading ->
    payload'.mobileyeAdas = some reading
  mobileyeAdasEvents : forall events,
    payload.mobileyeAdasEvents = some events ->
      payload'.mobileyeAdasEvents = some events

/-- What is decoded from a data zone is decoded from every data zone it is a
prefix of. -/
def SoundPrefix (p : Bytes) : Prop :=
  forall d, p <+: d ->
    forall payload, (parseReportDataZone.run p 0).result = Except.ok payload ->
      exists payload', (parseReportDataZone.run d 0).result =
        Except.ok payload' ∧ payload.Le payload'

/-- The Data Mask bit a stop belongs to: that of the nested block, or the bit
at which the loop over the Data Mask itself stopped. -/
def MaskKind.dataMaskBit (kind : MaskKind) (bit : Nat) : Nat :=
  (kind.field.map ReportField.bitOf).getD bit

/-- Once a read fails, no field of a higher Data Mask bit is produced. -/
def NothingBehindFailure (zone : Bytes) : Prop :=
  forall payload,
    (parseReportDataZone.run zone 0).result = Except.ok payload ->
      forall kind bit e,
        Warning.stoppedDecoding kind bit e ∈
          (parseReportDataZone.run zone 0).notes ->
        forall f : ReportField, kind.dataMaskBit bit < f.bitOf ->
          payload.get f = none

/-!
## What decides it
-/

/-- Behind a block that is cut short there are fewer than four bytes, or no
block the Data Mask announces. -/
def NotMisread (zone : Bytes) : Prop :=
  forall (f : ReportField) (offset : Nat),
    (f.bitOf, offset) ∈
      (reportLayout.walkMask (maskAt zone 4) zone 8).visits ->
    f.CutShort zone offset ->
    forall g : ReportField, g.bitOf ∈ setBits (maskAt zone 4) ->
      f.bitOf < g.bitOf ->
        zone.length - (f.read.run zone offset).offset < 4

/-- If the PIDs of a Mobileye reading are cut short, no byte that may still
arrive changes the reading. -/
def MobileyeSettled (zone : Bytes) : Prop :=
  forall offset,
    (ReportField.canAdvancedInfo1.bitOf, offset) ∈
      (reportLayout.walkMask (maskAt zone 4) zone 8).visits ->
    4 ≤ zone.length - offset ->
    forall bit e start,
      (canAdvancedWalk (maskAt zone offset) zone (offset + 4)).stop =
        some (bit, e) ->
      (bit, start) ∈
        (canAdvancedWalk (maskAt zone offset) zone (offset + 4)).visits ->
      0 ∈ setBits (maskAt zone offset) -> 0 < bit ->
      zone[offset + 4]? ≠ some 0 ->
        ReadingSettled (maskAt zone offset) zone bit start

section Zone

variable {zone : Bytes}

theorem maskAt_header (h : 8 ≤ zone.length) (more : Bytes) :
    maskAt (zone ++ more) 4 = maskAt zone 4 :=
  maskAt_append (by lia) more

def zonePayload (zone : Bytes) : TrackerReportPayload :=
  reportPayload zone (reportLayout.loop (maskAt zone 4) zone 8).state

theorem result_parseReportDataZone (h : 8 ≤ zone.length) :
    (parseReportDataZone.run zone 0).result =
      Except.ok (zonePayload zone) := by
  rw [run_parseReportDataZone h]
  rfl

theorem advance_offset (f : ReportField) (offset : Nat) :
    (reportLayout.advance f.bitOf zone offset).offset =
      (f.read.run zone offset).offset :=
  congrArg Advance.offset (reportLayout.advance_bitOf f zone offset)

theorem littleLeft_iff_notMisread :
    reportLayout.LittleLeft missing 4 (maskAt zone 4) zone 8 <->
      NotMisread zone := by
  constructor
  · intro h f offset hvisit hcut g hg hlt
    have hleft := h (f.bitOf, offset) hvisit
      (stalls_iff_cutShort.mpr ⟨f, rfl, hcut⟩) g hg hlt
    rwa [advance_offset] at hleft
  · intro h visit hvisit hstalled g hg hlt
    rcases stalls_iff_cutShort.mp hstalled with ⟨f, hf, hcut⟩
    rcases visit with ⟨bit, offset⟩
    dsimp only at hf hlt hcut ⊢
    subst hf
    rw [advance_offset]
    exact h f offset hvisit hcut g hg hlt

theorem nothingBehind_iff_notMisread :
    reportLayout.NothingBehind missing (maskAt zone 4) zone 8 <->
      NotMisread zone :=
  (MaskLayout.nothingBehind_iff (fun _ _ => headed_behind)).trans
    littleLeft_iff_notMisread

theorem canAdvanced_of_visit {mask offset o : Nat}
    (h : (ReportField.canAdvancedInfo1.bitOf, o) ∈
      (reportLayout.walkMask mask zone offset).visits)
    (hlen : 4 ≤ zone.length - o) :
    (reportLayout.loop mask zone offset).state.fields
        ReportField.canAdvancedInfo1 =
      some (canAdvancedFields ⟨maskAt zone o,
        readPids (setBits (maskAt zone o)) zone (o + 4)⟩) := by
  have hread : (readCanAdvancedFields.run zone o).result = Except.ok
      (canAdvancedFields ⟨maskAt zone o,
        readPids (setBits (maskAt zone o)) zone (o + 4)⟩) := by
    unfold readCanAdvancedFields
    rw [Decoder.run_bind_ok (by rw [run_canAdvanced hlen])]
    rfl
  refine (MaskLayout.loop_fields_of_visit (L := reportLayout) h).trans ?_
  change (readCanAdvancedFields.run zone o).result.toOption = _
  rw [hread]
  rfl

theorem exists_visit_of_get {f : ReportField} {v : f.Value}
    (h : (zonePayload zone).get f = some v) :
    exists offset, (f.bitOf, offset) ∈
        (reportLayout.walkMask (maskAt zone 4) zone 8).visits ∧
      (f.read.run zone offset).result = Except.ok v :=
  exists_visit_of_present h

theorem exists_visit_of_canAdvanced {fields : CanAdvancedFields}
    (h : (zonePayload zone).get ReportField.canAdvancedInfo1 = some fields) :
    exists offset, (ReportField.canAdvancedInfo1.bitOf, offset) ∈
        (reportLayout.walkMask (maskAt zone 4) zone 8).visits ∧
      4 ≤ zone.length - offset ∧
      fields = canAdvancedFields ⟨maskAt zone offset,
        readPids (setBits (maskAt zone offset)) zone (offset + 4)⟩ := by
  rcases exists_visit_of_get h with ⟨offset, hvisit, hread⟩
  have hlen : 4 ≤ zone.length - offset := by
    by_contra hshort
    change (readCanAdvancedFields.run zone offset).result = _ at hread
    unfold readCanAdvancedFields at hread
    rw [Decoder.run_bind_error
      (by rw [run_canAdvanced_short (Nat.not_le.mp hshort)])] at hread
    cases hread
  refine ⟨offset, hvisit, hlen, ?_⟩
  have hblock : (zonePayload zone).get ReportField.canAdvancedInfo1 = _ :=
    canAdvanced_of_visit hvisit hlen
  exact Option.some.inj (h.symm.trans hblock)

theorem mobileyeAdasEvents_eq :
    (zonePayload zone).mobileyeAdasEvents =
      (zonePayload zone).mobileyeAdas.map deriveMobileyeAdasEvents := by
  unfold TrackerReportPayload.mobileyeAdasEvents
    TrackerReportPayload.mobileyeAdas
  cases hget : (zonePayload zone).get ReportField.canAdvancedInfo1 with
  | none => rfl
  | some fields =>
      rcases exists_visit_of_canAdvanced hget with ⟨offset, _, _, heq⟩
      rw [heq]
      rfl

/-!
## Sound prefixes
-/

theorem header_stays (h : 8 ≤ zone.length) (more : Bytes) :
    (zonePayload zone).protocolVersion =
        (zonePayload (zone ++ more)).protocolVersion ∧
      (zonePayload zone).eventType = (zonePayload (zone ++ more)).eventType ∧
      (zonePayload zone).eventState =
        (zonePayload (zone ++ more)).eventState := by
  have hslice : forall start count, start + count ≤ 8 ->
      ((zone ++ more).drop start).take count =
        (zone.drop start).take count := by
    intro start count hbound
    rw [List.drop_append_of_le_length (by lia),
      List.take_append_of_le_length (by rw [List.length_drop]; lia)]
  have hversion := hslice 0 2 (by decide)
  rw [List.drop_zero, List.drop_zero] at hversion
  simp only [zonePayload, reportPayload, hversion, hslice 2 1 (by decide),
    hslice 3 1 (by decide), and_self]

/-- The reading is settled where the PIDs were cut off. -/
theorem mobileye_stays (hsettled : MobileyeSettled zone) {offset : Nat}
    (hvisit : (ReportField.canAdvancedInfo1.bitOf, offset) ∈
      (reportLayout.walkMask (maskAt zone 4) zone 8).visits)
    (hlen : 4 ≤ zone.length - offset)
    (hreading : (deriveMobileyeAdasReading ⟨maskAt zone offset,
      readPids (setBits (maskAt zone offset)) zone (offset + 4)⟩).isSome)
    (more : Bytes) :
    deriveMobileyeAdasReading ⟨maskAt zone offset,
        readPids (setBits (maskAt zone offset)) (zone ++ more)
          (offset + 4)⟩ =
      deriveMobileyeAdasReading ⟨maskAt zone offset,
        readPids (setBits (maskAt zone offset)) zone (offset + 4)⟩ := by
  have hle : offset + 4 ≤ zone.length := by lia
  have hsorted := setBits_ascending (maskAt zone offset)
  cases hstop : (canAdvancedWalk (maskAt zone offset) zone
      (offset + 4)).stop with
  | none => rw [readPids_stable hle hstop more]
  | some s =>
      rcases exists_visit_of_stop (s := s.1) (e := s.2)
        (hsorted.imp Nat.ne_of_lt) hstop with ⟨start, hstart, _⟩
      rcases exists_cutAt hsorted hle hstop hstart with ⟨done, rest, hcut⟩
      rcases hcut.reading_isSome_iff.mp hreading with ⟨hpid, hpos, hlength⟩
      have hbit := hsettled offset hvisit hlen s.1 s.2 start hstop hstart hpid
        hpos hlength
      exact (hcut.reading_settled_iff hle hreading).mpr hbit more

theorem field_stays (h : 8 ≤ zone.length) (hnot : NotMisread zone)
    (more : Bytes) {f : ReportField} {v : f.Value} {offset : Nat}
    (hv : (zonePayload zone).get f = some v)
    (hvisit : (f.bitOf, offset) ∈
      (reportLayout.walkMask (maskAt zone 4) zone 8).visits) :
    (f.bitOf, offset) ∈ (reportLayout.walkMask (maskAt (zone ++ more) 4)
        (zone ++ more) 8).visits ∧
      exists v', (zonePayload (zone ++ more)).get f = some v' ∧ f.le v v' := by
  unfold zonePayload
  rw [maskAt_header h]
  exact MaskLayout.field_grows_of_nothingBehind read_extends h
    (nothingBehind_iff_notMisread.mpr hnot) more hv hvisit

theorem unsupportedDataMaskBits_grow (h : 8 ≤ zone.length)
    (hnot : NotMisread zone) (more : Bytes) :
    (zonePayload zone).unsupportedDataMaskBits <+:
      (zonePayload (zone ++ more)).unsupportedDataMaskBits := by
  have hbits : ((reportLayout.walkMask _ zone 8).visits.map Prod.fst) <+: _ :=
    MaskLayout.visited_bits_grow read_extends (setBits_ascending (maskAt zone 4))
      h (fun _ _ => headed_behind) (fun _ _ => carries_on)
      (littleLeft_iff_notMisread.mpr hnot) more
  change (reportLayout.loop (maskAt zone 4) zone 8).state.unsupportedBits <+:
    (reportLayout.loop (maskAt (zone ++ more) 4)
      (zone ++ more) 8).state.unsupportedBits
  rw [maskAt_header h, MaskLayout.loop_unsupportedBits,
    MaskLayout.loop_unsupportedBits]
  exact hbits.filter _

theorem mobileyeAdas_of_visit {offset : Nat}
    (hvisit : (ReportField.canAdvancedInfo1.bitOf, offset) ∈
      (reportLayout.walkMask (maskAt zone 4) zone 8).visits)
    (hlen : 4 ≤ zone.length - offset) :
    (zonePayload zone).mobileyeAdas =
      deriveMobileyeAdasReading ⟨maskAt zone offset,
        readPids (setBits (maskAt zone offset)) zone (offset + 4)⟩ := by
  have hblock : (zonePayload zone).get ReportField.canAdvancedInfo1 = _ :=
    canAdvanced_of_visit hvisit hlen
  unfold TrackerReportPayload.mobileyeAdas
  rw [hblock]
  rfl

theorem soundPrefix_of_settled (h : 8 ≤ zone.length) (hnot : NotMisread zone)
    (hsettled : MobileyeSettled zone) : SoundPrefix zone := by
  rintro d ⟨more, rfl⟩ payload hpayload
  have h' : 8 ≤ (zone ++ more).length := by
    rw [List.length_append]
    lia
  rw [result_parseReportDataZone h] at hpayload
  injection hpayload with hpayload
  subst hpayload
  refine ⟨zonePayload (zone ++ more), result_parseReportDataZone h', ?_⟩
  rcases header_stays h more with ⟨hversion, htype, hstate⟩
  have hreading : forall reading,
      (zonePayload zone).mobileyeAdas = some reading ->
      (zonePayload (zone ++ more)).mobileyeAdas = some reading := by
    intro reading hr
    rcases Option.bind_eq_some_iff.mp hr with ⟨fields, hget, _⟩
    rcases exists_visit_of_canAdvanced hget with ⟨offset, hvisit, hlen, _⟩
    have hvisit' := (field_stays h hnot more hget hvisit).left
    rw [mobileyeAdas_of_visit hvisit hlen] at hr
    rw [mobileyeAdas_of_visit hvisit' (by rw [List.length_append]; lia),
      maskAt_append hlen,
      mobileye_stays hsettled hvisit hlen (by rw [hr]; rfl), hr]
  exact
    { protocolVersion := hversion
      eventType := htype
      eventName := congrArg getEventTypeName htype
      eventState := hstate
      dataMask := by
        change (zonePayload zone).block.mask =
          (zonePayload (zone ++ more)).block.mask
        unfold zonePayload reportPayload
        rw [MaskLayout.loop_mask, MaskLayout.loop_mask, maskAt_header h]
      unsupportedDataMaskBits := unsupportedDataMaskBits_grow h hnot more
      fields := by
        intro f v hv
        rcases exists_visit_of_get hv with ⟨offset, hvisit, _⟩
        exact (field_stays h hnot more hv hvisit).right
      mobileyeAdas := hreading
      mobileyeAdasEvents := by
        intro events hevents
        rw [mobileyeAdasEvents_eq] at hevents ⊢
        rcases Option.map_eq_some_iff.mp hevents with ⟨reading, hr, he⟩
        rw [hreading reading hr, Option.map_some, he] }

theorem le_of_soundPrefix (h : 8 ≤ zone.length) (hsound : SoundPrefix zone)
    (more : Bytes) : (zonePayload zone).Le (zonePayload (zone ++ more)) := by
  rcases hsound (zone ++ more) (List.prefix_append zone more)
    (zonePayload zone) (result_parseReportDataZone h) with
    ⟨payload', hpayload', hle⟩
  rw [result_parseReportDataZone (by rw [List.length_append]; lia)]
    at hpayload'
  injection hpayload' with heq
  rw [heq]
  exact hle

theorem notMisread_of_soundPrefix (h : 8 ≤ zone.length)
    (hsound : SoundPrefix zone) : NotMisread zone := by
  rw [← nothingBehind_iff_notMisread]
  refine MaskLayout.nothingBehind_of_stays read_extends h ?_ ?_
  · intro visit f hstalled hlt buf
    have hhead := (headed_behind hstalled hlt buf buf.length).left
    exact (hhead (by lia)).right
  · intro more f hpresent
    rcases Option.ne_none_iff_exists'.mp hpresent with ⟨v, hv⟩
    rcases (le_of_soundPrefix h hsound more).fields f v hv with ⟨v', hv', _⟩
    unfold TrackerReportPayload.get zonePayload at hv'
    rw [maskAt_header h] at hv'
    change (reportLayout.loop (maskAt zone 4) (zone ++ more) 8).state.fields f =
      some v' at hv'
    rw [hv']
    exact Option.some_ne_none v'

theorem mobileyeSettled_of_soundPrefix (h : 8 ≤ zone.length)
    (hsound : SoundPrefix zone) : MobileyeSettled zone := by
  intro offset hvisit hlen bit e start hstop hstart hpid hpos hlength
  have hle : offset + 4 ≤ zone.length := by lia
  rcases exists_cutAt (setBits_ascending _) hle hstop hstart with
    ⟨done, rest, hcut⟩
  have hreading := hcut.reading_isSome_iff.mpr ⟨hpid, hpos, hlength⟩
  refine (hcut.reading_settled_iff hle hreading).mp (fun more => ?_)
  rcases Option.isSome_iff_exists.mp hreading with ⟨reading, hr⟩
  have hnot := notMisread_of_soundPrefix h hsound
  have hvisit' := (field_stays h hnot more (canAdvanced_of_visit hvisit hlen)
    hvisit).left
  have hstays := (le_of_soundPrefix h hsound more).mobileyeAdas reading
    (by rw [mobileyeAdas_of_visit hvisit hlen, hr])
  rw [mobileyeAdas_of_visit hvisit' (by rw [List.length_append]; lia),
    maskAt_append hlen] at hstays
  rw [hstays, hr]

/-!
## Failed reads
-/

theorem stopsOf_read {kind : MaskKind} {f : ReportField} {v : f.Value}
    {offset : Nat} (hkind : kind.field = some f)
    (h : (f.read.run zone offset).result = Except.ok v) :
    Warning.stopsOf kind (f.read.run zone offset).notes =
      (f.innerStop zone offset).toList := by
  have haccounted := read_accounted h
  cases kind <;> cases hkind
  all_goals
    have hstops := haccounted.stops
    rw [haccounted.mask_eq] at hstops
    exact hstops

theorem mem_stopsOf {kind : MaskKind} {warnings : List Warning} {bit : Nat}
    {e : Failure} (h : Warning.stoppedDecoding kind bit e ∈ warnings) :
    (bit, e) ∈ Warning.stopsOf kind warnings :=
  List.mem_filterMap.mpr ⟨_, h, if_pos rfl⟩

theorem exists_cutShort_of_stop (h : 8 ≤ zone.length) {kind : MaskKind}
    {f : ReportField} (hkind : kind.field = some f) {bit : Nat} {e : Failure}
    (hstop : Warning.stoppedDecoding kind bit e ∈
      (parseReportDataZone.run zone 0).notes) :
    exists offset, (f.bitOf, offset) ∈
        (reportLayout.walkMask (maskAt zone 4) zone 8).visits ∧
      f.CutShort zone offset := by
  have hnested : kind ≠ MaskKind.dataMask := by
    intro heq
    rw [heq] at hkind
    cases hkind
  have hmem := mem_stopsOf hstop
  rw [run_notes_nested h hnested] at hmem
  by_cases hvisited : f.bitOf ∈
      (reportLayout.walkMask (maskAt zone 4) zone 8).visits.map Prod.fst
  · rcases List.mem_map.mp hvisited with ⟨⟨b, offset⟩, hvisit, hb⟩
    cases hb
    rw [stopsOf_walk_of_visit hkind hvisit] at hmem
    refine ⟨offset, hvisit, ?_⟩
    cases hres : (f.read.run zone offset).result with
    | error e' =>
        rw [read_error_quiet hkind hres] at hmem
        cases hmem
    | ok v =>
        rw [stopsOf_read hkind hres] at hmem
        have hinner : f.innerStop zone offset ≠ none := by
          intro hnone
          rw [hnone] at hmem
          cases hmem
        have hmask : 8 ≤ f.bitOf := by
          cases kind <;> cases hkind <;> decide
        refine ⟨?_, hinner⟩
        by_contra hshort
        have habsent := ((read_headed hmask zone offset).left
          (Nat.not_le.mp hshort)).right
        change (f.read.run zone offset).result.toOption = none at habsent
        rw [hres] at habsent
        cases habsent
  · rw [stopsOf_walk_of_unvisited] at hmem
    · cases hmem
    · intro g hg
      rw [hkind] at hg
      rwa [← Option.some.inj hg]

theorem nothingBehindFailure_of_notMisread (h : 8 ≤ zone.length)
    (hnot : NotMisread zone) : NothingBehindFailure zone := by
  intro payload hpayload kind bit e hstop f hlt
  rw [result_parseReportDataZone h] at hpayload
  injection hpayload with hpayload
  rw [← hpayload]
  change (reportLayout.loop (maskAt zone 4) zone 8).state.fields f = none
  cases hkind : kind.field with
  | none =>
      have hown : kind = MaskKind.dataMask := by
        cases kind <;> cases hkind
        rfl
      rw [hown] at hstop hlt
      have hmem := mem_stopsOf hstop
      rw [run_notes_own h] at hmem
      have hwalk := Option.mem_toList.mp hmem
      exact MaskLayout.loop_fields_of_unvisited
        (not_visited_of_above (setBits_ascending _) hwalk hlt)
  | some g =>
      rcases exists_cutShort_of_stop h hkind hstop with ⟨offset, hvisit, hcut⟩
      have hg : g.bitOf < f.bitOf := by
        simpa only [MaskKind.dataMaskBit, hkind, Option.map_some,
          Option.getD_some] using hlt
      exact nothingBehind_iff_notMisread.mpr hnot (g.bitOf, offset) hvisit
        (stalls_iff_cutShort.mpr ⟨g, rfl, hcut⟩) f hg

/-- What a cut-off data zone says is sound, and nothing is decoded behind a
failed read, exactly if no block cut short is misread for another and the
Mobileye reading is settled. -/
theorem truncation_sound_iff (h : 8 ≤ zone.length) :
    (SoundPrefix zone ∧ NothingBehindFailure zone) <->
      (NotMisread zone ∧ MobileyeSettled zone) := by
  constructor
  · rintro ⟨hsound, _⟩
    exact ⟨notMisread_of_soundPrefix h hsound,
      mobileyeSettled_of_soundPrefix h hsound⟩
  · rintro ⟨hnot, hsettled⟩
    exact ⟨soundPrefix_of_settled h hnot hsettled,
      nothingBehindFailure_of_notMisread h hnot⟩

/-- Battery and GNSS announced, cut off behind the GNSS count. -/
theorem truncation_sound_iff_gnss :
    (SoundPrefix [11, 1, 1, 0, 0, 0, 0, 0x0c, 15, 215, 88, 0, 0x61, 1] ∧
      NothingBehindFailure
        [11, 1, 1, 0, 0, 0, 0, 0x0c, 15, 215, 88, 0, 0x61, 1]) <->
      (NotMisread [11, 1, 1, 0, 0, 0, 0, 0x0c, 15, 215, 88, 0, 0x61, 1] ∧
        MobileyeSettled
          [11, 1, 1, 0, 0, 0, 0, 0x0c, 15, 215, 88, 0, 0x61, 1]) :=
  truncation_sound_iff (by decide)

end Zone

/-- Event Data and CAN Info 1 announced, cut off one byte in front of the end
of a six-byte ID.  Its bytes pass for a mask and an ignition key of one. -/
def cutIdData : Bytes :=
  [11, 1, 23, 0, 0, 0, 3, 0, 0, 0, 1, 0, 6, 0, 0, 0, 2, 1]

/-- The byte that was cut off, and an ignition key of zero. -/
def idDataTail : Bytes := [0xaa, 0, 0, 0, 2, 0]

def TrackerReportPayload.ignitionKey (payload : TrackerReportPayload) :
    Option Nat :=
  (payload.get ReportField.canInfo1).bind
    (fun block => block.fields CanInfo1Field.ignitionKey)

theorem idData_misread :
    ¬ SoundPrefix cutIdData ∧ ¬ NothingBehindFailure cutIdData := by
  have hkey : (zonePayload cutIdData).ignitionKey = some 1 := by decide
  have hkey' : (zonePayload (cutIdData ++ idDataTail)).ignitionKey =
      some 0 := by decide
  rcases Option.bind_eq_some_iff.mp hkey with ⟨block, hblock, hone⟩
  rcases Option.bind_eq_some_iff.mp hkey' with ⟨whole, hwhole, hzero⟩
  constructor
  · intro hsound
    have hle := le_of_soundPrefix (by decide) hsound idDataTail
    rcases hle.fields ReportField.canInfo1 block hblock with
      ⟨block', hblock', hgrows⟩
    rw [hwhole] at hblock'
    injection hblock' with heq
    subst heq
    rcases hgrows.fields _ _ hone with ⟨key, hsome, hkeys⟩
    rw [← hkeys] at hsome
    cases hzero.symm.trans hsome
  · intro hnothing
    have habsent := hnothing (zonePayload cutIdData)
      (result_parseReportDataZone (by decide)) MaskKind.eventDataMask 8
      (Failure.truncated 6 5 13) (by decide) ReportField.canInfo1 (by decide)
    rw [hblock] at habsent
    cases habsent

end Tracker
end AvtTracker
