import AvtTracker.Foundation.MaskAccounting
import AvtTracker.Foundation.MaskExtension
import AvtTracker.Tracker.Report

/-!
# Every bit of a report is accounted for

The accounting law of mask-driven blocks, for the Data Mask and for every mask
nested below it, and the warnings that name the stops.  The warnings of one
mask come from the one visit of its bit, since every other field is silent
about it.
-/

namespace AvtTracker
namespace Tracker

open Foundation BufferCursor

/-!
## Warnings about stops
-/

/-- A layout that warns in the name of one mask, over silent fields. -/
structure WarnsOf (L : MaskLayout Warning) (kind : MaskKind) : Prop where
  stopped : L.stopped = Warning.stoppedDecoding kind
  notDecoded : L.notDecoded = Warning.bitsNotDecoded kind
  quiet : forall f, (L.read f).Quiet

theorem stopsOf_stopNotes_self (kind : MaskKind)
    (stop : Option (Nat × Failure)) :
    Warning.stopsOf kind (stopNotes (Warning.stoppedDecoding kind) stop) =
      stop.toList := by
  cases stop with
  | none => rfl
  | some s => simp [stopNotes, Warning.stopsOf]

theorem stopsOf_stopNotes_other {mask kind : MaskKind} (h : kind ≠ mask)
    (stop : Option (Nat × Failure)) :
    Warning.stopsOf mask (stopNotes (Warning.stoppedDecoding kind) stop) =
      [] := by
  cases stop with
  | none => rfl
  | some s => simp [stopNotes, Warning.stopsOf, h]

theorem stopsOf_skippedNotes {L : MaskLayout Warning} {kind : MaskKind}
    (h : L.notDecoded = Warning.bitsNotDecoded kind) (mask : MaskKind)
    (block : MaskBlock L) :
    Warning.stopsOf mask (L.skippedNotes block) = [] := by
  unfold MaskLayout.skippedNotes
  rw [h]
  by_cases hskipped : block.unsupportedBits.length > 0
  · rw [if_pos hskipped]
    rfl
  · rw [if_neg hskipped]
    rfl

theorem walkMask_notes_of_quiet {L : MaskLayout Warning}
    (h : forall f, (L.read f).Quiet) (mask : Nat) (buf : Bytes)
    (offset : Nat) : (L.walkMask mask buf offset).notes = [] := by
  rw [MaskLayout.walkMask_notes, List.flatMap_eq_nil_iff]
  intro visit _
  unfold MaskLayout.advance
  cases L.bitCase visit.1 with
  | field f => exact h f buf visit.2
  | reserved => rfl
  | unsupported => rfl

/-!
## Nested blocks
-/

/-- The law of a nested block whose mask starts at an offset of the data
zone. -/
structure NestedAccounted (L : MaskLayout Warning) (kind : MaskKind)
    (partly : L.Field -> Prop) (zone : Bytes) (offset : Nat)
    (warnings : List Warning) (block : MaskBlock L) : Prop where
  mask_eq : block.mask = maskAt zone offset
  accounted : block.Accounted (L.firstThrow block.mask zone (offset + 4)) partly
  stops : Warning.stopsOf kind warnings =
    (L.walkMask block.mask zone (offset + 4)).stop.toList

section Nested

variable {L : MaskLayout Warning} {kind : MaskKind}
variable {zone : Bytes} {offset : Nat}

theorem run_parseBlock (h : 4 ≤ zone.length - offset) :
    L.parseBlock.run zone offset =
      (L.parseFields (maskAt zone offset)).run zone (offset + 4) :=
  run_maskBlock h

theorem run_parseBlock_short (h : zone.length - offset < 4) :
    L.parseBlock.run zone offset =
      ⟨Except.error (Failure.truncated 4 (zone.length - offset) offset),
        offset, []⟩ :=
  run_maskBlock_short h

theorem parseBlock_accounted (hwarns : WarnsOf L kind)
    {partly : L.Field -> Prop} (hstores : forall f, (L.read f).Stores)
    (hwhole : forall f, ¬ partly f -> (L.read f).AllOrNothing)
    {block : MaskBlock L}
    (h : (L.parseBlock.run zone offset).result = Except.ok block) :
    NestedAccounted L kind partly zone offset
      (L.parseBlock.run zone offset).notes block := by
  by_cases hlen : zone.length - offset < 4
  · rw [run_parseBlock_short hlen] at h
    cases h
  · rw [run_parseBlock (Nat.not_lt.mp hlen),
      L.run_parseFields (maskAt zone offset)] at h ⊢
    injection h with hblock
    subst hblock
    have hmask : (L.loop (maskAt zone offset) zone (offset + 4)).state.mask =
        maskAt zone offset := MaskLayout.loop_mask
    refine ⟨hmask, ?_, ?_⟩
    · rw [hmask]
      exact MaskLayout.loop_accounted hstores hwhole
    · rw [hmask, walkMask_notes_of_quiet hwarns.quiet, hwarns.stopped,
        List.nil_append, Warning.stopsOf_append, stopsOf_stopNotes_self,
        stopsOf_skippedNotes hwarns.notDecoded, List.append_nil]

theorem stopsOf_parseBlock_other (hwarns : WarnsOf L kind) {mask : MaskKind}
    (h : mask ≠ kind) (zone : Bytes) (offset : Nat) :
    Warning.stopsOf mask (L.parseBlock.run zone offset).notes = [] := by
  by_cases hlen : zone.length - offset < 4
  · rw [run_parseBlock_short hlen]
    rfl
  · rw [run_parseBlock (Nat.not_lt.mp hlen), L.run_parseFields,
      walkMask_notes_of_quiet hwarns.quiet, hwarns.stopped, List.nil_append,
      Warning.stopsOf_append, stopsOf_stopNotes_other h.symm,
      stopsOf_skippedNotes hwarns.notDecoded, List.append_nil]

theorem parseBlock_error_quiet {e : Failure}
    (h : (L.parseBlock.run zone offset).result = Except.error e) :
    (L.parseBlock.run zone offset).notes = [] := by
  by_cases hlen : zone.length - offset < 4
  · rw [run_parseBlock_short hlen]
  · rw [run_parseBlock (Nat.not_lt.mp hlen), L.run_parseFields] at h
    cases h

end Nested

theorem warnsOf_eventData :
    WarnsOf eventDataLayout MaskKind.eventDataMask where
  stopped := rfl
  notDecoded := rfl
  quiet f := by
    by_cases h : f = EventDataField.oneWire
    · subst h
      exact FieldDecoder.assignEach_quiet readUInt8 readOneWireSensor
    · exact (EventDataField.read_plain f h).quiet

theorem warnsOf_canInfo1 : WarnsOf canInfo1Layout MaskKind.canInfoMask1 where
  stopped := rfl
  notDecoded := rfl
  quiet f := (CanInfo1Field.read_plain f).quiet

theorem warnsOf_canInfo2 : WarnsOf canInfo2Layout MaskKind.canInfoMask2 where
  stopped := rfl
  notDecoded := rfl
  quiet f := (CanInfo2Field.read_plain f).quiet

theorem warnsOf_electricInfo1 :
    WarnsOf electricInfo1Layout MaskKind.electricInfoMask1 where
  stopped := rfl
  notDecoded := rfl
  quiet f := (ElectricInfo1Field.read_plain f).quiet

theorem warnsOf_canInfo3 : WarnsOf canInfo3Layout MaskKind.canInfoMask3 where
  stopped := rfl
  notDecoded := rfl
  quiet f := (CanInfo3Field.read_plain f).quiet

theorem eventData_stores (f : EventDataField) :
    (eventDataLayout.read f).Stores := by
  by_cases h : f = EventDataField.oneWire
  · subst h
    exact FieldDecoder.assignEach_stores readUInt8 readOneWireSensor
  · exact (EventDataField.read_plain f h).stores

/-!
## The CAN Advanced block
-/

/-- The law of the CAN Advanced block: its PIDs are those of the set bits in
front of the stop. -/
structure CanAdvancedAccounted (zone : Bytes) (offset : Nat)
    (warnings : List Warning) (block : CanAdvancedInfoMask1Block) : Prop where
  mask_eq : block.mask = maskAt zone offset
  pids : block.pids.map CanAdvancedInfoPid.pid =
    ((setBits block.mask).filter (fun bit =>
      ((canAdvancedWalk block.mask zone (offset + 4)).stop.map Prod.fst).all
        (fun s => bit < s))).map (fun bit => bit + 1)
  stops : Warning.stopsOf MaskKind.canAdvancedInfoMask1 warnings =
    (canAdvancedWalk block.mask zone (offset + 4)).stop.toList

theorem pidsOf_cons (buf : Bytes) (visit : Nat × Nat)
    (visits : List (Nat × Nat)) :
    pidsOf buf (visit :: visits) =
      ((readPid.run buf visit.2).result.toOption.map
        (fun data => CanAdvancedInfoPid.mk (visit.1 + 1) data)).toList ++
        pidsOf buf visits := by
  unfold pidsOf
  rw [List.filterMap_cons]
  cases (readPid.run buf visit.2).result <;> rfl

theorem pidsOf_numbers (buf : Bytes) (visits : List (Nat × Nat)) :
    (pidsOf buf visits).map CanAdvancedInfoPid.pid =
      ((visits.filter (fun visit =>
        (canAdvancedAdvance visit.1 buf visit.2).failure.isNone)).map
          Prod.fst).map (fun bit => bit + 1) := by
  induction visits with
  | nil => rfl
  | cons visit visits ih =>
      rw [pidsOf_cons, List.map_append, ih, List.filter_cons]
      unfold canAdvancedAdvance
      cases (readPid.run buf visit.2).result <;> rfl

theorem canAdvancedWalk_notes (mask : Nat) (buf : Bytes) (offset : Nat) :
    (canAdvancedWalk mask buf offset).notes = [] := by
  unfold canAdvancedWalk
  rw [walk_notes, List.flatMap_eq_nil_iff]
  intro visit _
  exact Decoder.Lawful.quiet (d := readPid) buf visit.2

section CanAdvanced

variable {zone : Bytes} {offset : Nat}

theorem run_canAdvanced (h : 4 ≤ zone.length - offset) :
    parseCanAdvancedInfoMask1Block.run zone offset =
      { result := Except.ok
          { mask := maskAt zone offset
            pids := pidsOf zone
              (canAdvancedWalk (maskAt zone offset) zone (offset + 4)).visits }
        offset := (canAdvancedWalk (maskAt zone offset) zone
          (offset + 4)).offset
        notes := stopNotes
          (Warning.stoppedDecoding MaskKind.canAdvancedInfoMask1)
          (canAdvancedWalk (maskAt zone offset) zone (offset + 4)).stop } := by
  have hloop := canAdvancedLoop_eq (maskAt zone offset) zone (offset + 4)
  unfold canAdvancedLoop at hloop
  unfold parseCanAdvancedInfoMask1Block
  rw [run_maskBlock h, maskFields]
  simp only [hloop, canAdvancedWalk_notes, List.nil_append, List.append_nil]

theorem run_canAdvanced_short (h : zone.length - offset < 4) :
    parseCanAdvancedInfoMask1Block.run zone offset =
      ⟨Except.error (Failure.truncated 4 (zone.length - offset) offset),
        offset, []⟩ :=
  run_maskBlock_short h

theorem canAdvanced_accounted {block : CanAdvancedInfoMask1Block}
    (h : (parseCanAdvancedInfoMask1Block.run zone offset).result =
      Except.ok block) :
    CanAdvancedAccounted zone offset
      (parseCanAdvancedInfoMask1Block.run zone offset).notes block := by
  by_cases hlen : zone.length - offset < 4
  · rw [run_canAdvanced_short hlen] at h
    cases h
  · rw [run_canAdvanced (Nat.not_lt.mp hlen)] at h ⊢
    injection h with hblock
    subst hblock
    refine ⟨rfl, ?_, stopsOf_stopNotes_self _ _⟩
    rw [pidsOf_numbers]
    exact congrArg (List.map (fun bit => bit + 1))
      (visits_below_stop (setBits_ascending (maskAt zone offset)))

end CanAdvanced
/-!
## The fields of the Data Mask
-/

/-- The field that carries a nested mask. -/
def MaskKind.field : MaskKind -> Option ReportField
  | dataMask => none
  | eventDataMask => some ReportField.eventData
  | canInfoMask1 => some ReportField.canInfo1
  | canInfoMask2 => some ReportField.canInfo2
  | electricInfoMask1 => some ReportField.electricInfo1
  | canInfoMask3 => some ReportField.canInfo3
  | canAdvancedInfoMask1 => some ReportField.canAdvancedInfo1

namespace ReportField

/-- The law of the value of a field with a mask of its own. -/
def Accounted (zone : Bytes) (offset : Nat) (warnings : List Warning) :
    (f : ReportField) -> f.Value -> Prop
  | eventData, block =>
      NestedAccounted eventDataLayout MaskKind.eventDataMask
        (fun f => f = EventDataField.oneWire) zone offset warnings block
  | canInfo1, block =>
      NestedAccounted canInfo1Layout MaskKind.canInfoMask1 (fun _ => False)
        zone offset warnings block
  | canInfo2, block =>
      NestedAccounted canInfo2Layout MaskKind.canInfoMask2 (fun _ => False)
        zone offset warnings block
  | electricInfo1, block =>
      NestedAccounted electricInfo1Layout MaskKind.electricInfoMask1
        (fun _ => False) zone offset warnings block
  | canInfo3, block =>
      NestedAccounted canInfo3Layout MaskKind.canInfoMask3 (fun _ => False)
        zone offset warnings block
  | canAdvancedInfo1, fields =>
      CanAdvancedAccounted zone offset warnings fields.canAdvancedInfo1
  | _, _ => True

variable {zone : Bytes} {offset : Nat}

theorem read_accounted {f : ReportField} {v : f.Value}
    (h : (f.read.run zone offset).result = Except.ok v) :
    f.Accounted zone offset (f.read.run zone offset).notes v := by
  cases f
  case eventData =>
    exact parseBlock_accounted warnsOf_eventData eventData_stores
      (fun f hf => (EventDataField.read_plain f hf).allOrNothing) h
  case canInfo1 =>
    exact parseBlock_accounted warnsOf_canInfo1
      (fun f => (CanInfo1Field.read_plain f).stores)
      (fun f _ => (CanInfo1Field.read_plain f).allOrNothing) h
  case canInfo2 =>
    exact parseBlock_accounted warnsOf_canInfo2
      (fun f => (CanInfo2Field.read_plain f).stores)
      (fun f _ => (CanInfo2Field.read_plain f).allOrNothing) h
  case electricInfo1 =>
    exact parseBlock_accounted warnsOf_electricInfo1
      (fun f => (ElectricInfo1Field.read_plain f).stores)
      (fun f _ => (ElectricInfo1Field.read_plain f).allOrNothing) h
  case canInfo3 =>
    exact parseBlock_accounted warnsOf_canInfo3
      (fun f => (CanInfo3Field.read_plain f).stores)
      (fun f _ => (CanInfo3Field.read_plain f).allOrNothing) h
  case canAdvancedInfo1 =>
    have h' : (readCanAdvancedFields.run zone offset).result = Except.ok v := h
    change CanAdvancedAccounted zone offset
      (readCanAdvancedFields.run zone offset).notes v.canAdvancedInfo1
    unfold readCanAdvancedFields at h' ⊢
    cases hres : (parseCanAdvancedInfoMask1Block.run zone offset).result with
    | error e =>
        rw [Decoder.run_bind_error hres] at h'
        cases h'
    | ok block =>
        rw [Decoder.run_bind_ok hres] at h' ⊢
        injection h' with hv
        rw [← hv, Decoder.run_pure, List.append_nil]
        exact canAdvanced_accounted hres
  all_goals trivial

theorem Accounted.of_stops {f : ReportField} {v : f.Value}
    {warnings all : List Warning} (h : f.Accounted zone offset warnings v)
    (heq : forall kind, MaskKind.field kind = some f ->
      Warning.stopsOf kind all = Warning.stopsOf kind warnings) :
    f.Accounted zone offset all v := by
  cases f
  case eventData =>
    exact ⟨h.mask_eq, h.accounted,
      (heq MaskKind.eventDataMask rfl).trans h.stops⟩
  case canInfo1 =>
    exact ⟨h.mask_eq, h.accounted,
      (heq MaskKind.canInfoMask1 rfl).trans h.stops⟩
  case canInfo2 =>
    exact ⟨h.mask_eq, h.accounted,
      (heq MaskKind.canInfoMask2 rfl).trans h.stops⟩
  case electricInfo1 =>
    exact ⟨h.mask_eq, h.accounted,
      (heq MaskKind.electricInfoMask1 rfl).trans h.stops⟩
  case canInfo3 =>
    exact ⟨h.mask_eq, h.accounted,
      (heq MaskKind.canInfoMask3 rfl).trans h.stops⟩
  case canAdvancedInfo1 =>
    exact ⟨h.mask_eq, h.pids,
      (heq MaskKind.canAdvancedInfoMask1 rfl).trans h.stops⟩
  all_goals trivial

theorem run_readCanAdvancedFields_notes :
    (readCanAdvancedFields.run zone offset).notes =
      (parseCanAdvancedInfoMask1Block.run zone offset).notes := by
  unfold readCanAdvancedFields
  cases hres : (parseCanAdvancedInfoMask1Block.run zone offset).result with
  | error e => rw [Decoder.run_bind_error hres]
  | ok block =>
      rw [Decoder.run_bind_ok hres, Decoder.run_pure, List.append_nil]

theorem stopsOf_read_other {kind : MaskKind} {f : ReportField}
    (h : MaskKind.field kind ≠ some f) :
    Warning.stopsOf kind (f.read.run zone offset).notes = [] := by
  have hkind : forall own, MaskKind.field own = some f -> kind ≠ own := by
    intro own hown heq
    exact h (heq ▸ hown)
  cases f
  case eventData =>
    exact stopsOf_parseBlock_other warnsOf_eventData (hkind _ rfl) _ _
  case canInfo1 =>
    exact stopsOf_parseBlock_other warnsOf_canInfo1 (hkind _ rfl) _ _
  case canInfo2 =>
    exact stopsOf_parseBlock_other warnsOf_canInfo2 (hkind _ rfl) _ _
  case electricInfo1 =>
    exact stopsOf_parseBlock_other warnsOf_electricInfo1 (hkind _ rfl) _ _
  case canInfo3 =>
    exact stopsOf_parseBlock_other warnsOf_canInfo3 (hkind _ rfl) _ _
  case canAdvancedInfo1 =>
    change Warning.stopsOf kind
      (readCanAdvancedFields.run zone offset).notes = []
    rw [run_readCanAdvancedFields_notes]
    by_cases hlen : zone.length - offset < 4
    · rw [run_canAdvanced_short hlen]
      rfl
    · rw [run_canAdvanced (Nat.not_lt.mp hlen)]
      exact stopsOf_stopNotes_other
        (hkind MaskKind.canAdvancedInfoMask1 rfl).symm _
  case frame => exact congrArg _ (Decoder.Lawful.quiet (d := readFrameBlock) _ _)
  case networkType => exact congrArg _ (Decoder.Lawful.quiet (d := readUInt8) _ _)
  case battery =>
    exact congrArg _ (Decoder.Lawful.quiet (d := readBatteryBlock) _ _)
  case gnss => exact congrArg _ (Decoder.Lawful.quiet (d := parseGnssBlock) _ _)
  case cell => exact congrArg _ (Decoder.Lawful.quiet (d := readCellBlock) _ _)
  case upgrade =>
    exact congrArg _ (Decoder.Lawful.quiet (d := readUpgradeBlock) _ _)

theorem read_error_quiet {kind : MaskKind} {f : ReportField} {e : Failure}
    (hkind : MaskKind.field kind = some f)
    (h : (f.read.run zone offset).result = Except.error e) :
    (f.read.run zone offset).notes = [] := by
  cases kind <;> cases hkind
  case canAdvancedInfoMask1 =>
    change (readCanAdvancedFields.run zone offset).notes = []
    have h' : (readCanAdvancedFields.run zone offset).result =
      Except.error e := h
    rw [run_readCanAdvancedFields_notes]
    by_cases hlen : zone.length - offset < 4
    · rw [run_canAdvanced_short hlen]
    · have hrun := run_canAdvanced (Nat.not_lt.mp hlen)
      unfold readCanAdvancedFields at h'
      rw [Decoder.run_bind_ok (by rw [hrun])] at h'
      cases h'
  all_goals exact parseBlock_error_quiet h

end ReportField

/-!
## The report
-/

/-- The law of a decoded report: of its Data Mask, and of every nested mask at
the offset its bit was reached at. -/
structure ReportAccounted (zone : Bytes) (warnings : List Warning)
    (payload : TrackerReportPayload) : Prop where
  mask_eq : payload.dataMask = maskAt zone 4
  accounted : payload.block.Accounted
    (reportLayout.firstThrow payload.dataMask zone 8) (fun _ => False)
  stops : Warning.stopsOf MaskKind.dataMask warnings =
    (reportLayout.walkMask payload.dataMask zone 8).stop.toList
  nested : forall (f : ReportField) (v : f.Value), payload.get f = some v ->
    exists offset,
      (f.bitOf, offset) ∈
        (reportLayout.walkMask payload.dataMask zone 8).visits ∧
      f.Accounted zone offset warnings v
  silent : forall kind f, MaskKind.field kind = some f ->
    payload.get f = none -> Warning.stopsOf kind warnings = []

section Report

variable {mask offset : Nat} {zone : Bytes} {kind : MaskKind}

theorem stopsOf_flatMap (mask : MaskKind) (visits : List (Nat × Nat))
    (g : Nat × Nat -> List Warning) :
    Warning.stopsOf mask (visits.flatMap g) =
      visits.flatMap (fun visit => Warning.stopsOf mask (g visit)) :=
  List.filterMap_flatMap

theorem stopsOf_advance_other {bit : Nat}
    (h : forall f, MaskKind.field kind = some f -> f.bitOf ≠ bit) :
    Warning.stopsOf kind (reportLayout.advance bit zone offset).notes = [] := by
  unfold MaskLayout.advance
  cases hcase : reportLayout.bitCase bit with
  | field f =>
      apply ReportField.stopsOf_read_other
      intro hkind
      exact h f hkind (reportLayout.bitCase_eq_field_iff.mp hcase).symm
  | reserved => rfl
  | unsupported => rfl

/-- The warnings about a nested mask come from the visit of its bit. -/
theorem stopsOf_walk_of_visit {f : ReportField} {o : Nat}
    (hkind : MaskKind.field kind = some f)
    (hvisit : (f.bitOf, o) ∈ (reportLayout.walkMask mask zone offset).visits) :
    Warning.stopsOf kind (reportLayout.walkMask mask zone offset).notes =
      Warning.stopsOf kind (f.read.run zone o).notes := by
  have hother : forall v,
      v ∈ (reportLayout.walkMask mask zone offset).visits ->
      v.1 ≠ (f.bitOf, o).1 ->
      Warning.stopsOf kind (reportLayout.advance v.1 zone v.2).notes = [] := by
    intro v _ hne
    apply stopsOf_advance_other
    intro g hg
    rw [hkind] at hg
    injection hg with hg
    rw [← hg]
    exact hne.symm
  have hbit : (reportLayout.advance f.bitOf zone o).notes =
      (f.read.run zone o).notes := by
    have hcase : reportLayout.bitCase f.bitOf = BitCase.field f :=
      reportLayout.bitCase_eq_field_iff.mpr rfl
    simp only [MaskLayout.advance, hcase]
    rfl
  rw [MaskLayout.walkMask_notes, stopsOf_flatMap,
    flatMap_of_visit MaskLayout.walkMask_visits_nodup hvisit hother, hbit]

theorem stopsOf_walk_of_unvisited
    (h : forall f, MaskKind.field kind = some f ->
      f.bitOf ∉ (reportLayout.walkMask mask zone offset).visits.map Prod.fst) :
    Warning.stopsOf kind (reportLayout.walkMask mask zone offset).notes =
      [] := by
  rw [MaskLayout.walkMask_notes, stopsOf_flatMap, List.flatMap_eq_nil_iff]
  intro visit hvisit
  apply stopsOf_advance_other
  intro f hf hbit
  exact h f hf (hbit ▸ List.mem_map_of_mem hvisit)

theorem run_notes_nested (h : 8 ≤ zone.length)
    (hkind : kind ≠ MaskKind.dataMask) :
    Warning.stopsOf kind (parseReportDataZone.run zone 0).notes =
      Warning.stopsOf kind
        (reportLayout.walkMask (maskAt zone 4) zone 8).notes := by
  have hown : Warning.stopsOf kind (stopNotes reportLayout.stopped
      (reportLayout.walkMask (maskAt zone 4) zone 8).stop) = [] :=
    stopsOf_stopNotes_other hkind.symm _
  have hskipped := stopsOf_skippedNotes (L := reportLayout) rfl kind
    (reportLayout.loop (maskAt zone 4) zone 8).state
  rw [run_parseReportDataZone h, Warning.stopsOf_append,
    Warning.stopsOf_append, hown, hskipped, List.append_nil, List.append_nil]

theorem run_notes_own (h : 8 ≤ zone.length) :
    Warning.stopsOf MaskKind.dataMask (parseReportDataZone.run zone 0).notes =
      (reportLayout.walkMask (maskAt zone 4) zone 8).stop.toList := by
  have hown : Warning.stopsOf MaskKind.dataMask
      (stopNotes reportLayout.stopped
        (reportLayout.walkMask (maskAt zone 4) zone 8).stop) = _ :=
    stopsOf_stopNotes_self _ _
  have hskipped := stopsOf_skippedNotes (L := reportLayout) rfl
    MaskKind.dataMask (reportLayout.loop (maskAt zone 4) zone 8).state
  have hwalk : Warning.stopsOf MaskKind.dataMask
      (reportLayout.walkMask (maskAt zone 4) zone 8).notes = [] :=
    stopsOf_walk_of_unvisited (fun f hf => by cases hf)
  rw [run_parseReportDataZone h, Warning.stopsOf_append,
    Warning.stopsOf_append, hwalk, hown, hskipped, List.nil_append,
    List.append_nil]

theorem exists_visit_of_present {f : ReportField} {v : f.Value}
    (h : (reportLayout.loop mask zone offset).state.fields f = some v) :
    exists o,
      (f.bitOf, o) ∈ (reportLayout.walkMask mask zone offset).visits ∧
      (f.read.run zone o).result = Except.ok v := by
  rcases MaskLayout.exists_visit_of_field (L := reportLayout) h with
    ⟨o, hvisit, hstored⟩
  refine ⟨o, hvisit, ?_⟩
  change (f.read.run zone o).result.toOption = some v at hstored
  cases hres : (f.read.run zone o).result with
  | error e => rw [hres] at hstored; cases hstored
  | ok w =>
      rw [hres] at hstored
      exact congrArg Except.ok (Option.some.inj hstored)

/-- Every report with a complete header accounts for every bit of its masks,
wherever its data zone ends. -/
theorem parseReportDataZone_accounted (h : 8 ≤ zone.length) :
    exists payload,
      (parseReportDataZone.run zone 0).result = Except.ok payload ∧
      ReportAccounted zone (parseReportDataZone.run zone 0).notes payload := by
  refine ⟨reportPayload zone (reportLayout.loop (maskAt zone 4) zone 8).state,
    by rw [run_parseReportDataZone h], ?_⟩
  have hmask : (reportPayload zone
      (reportLayout.loop (maskAt zone 4) zone 8).state).dataMask =
      maskAt zone 4 := MaskLayout.loop_mask
  have hnested : forall kind f, MaskKind.field kind = some f ->
      kind ≠ MaskKind.dataMask := by
    intro kind f hkind heq
    rw [heq] at hkind
    cases hkind
  constructor
  · exact hmask
  · rw [hmask]
    exact MaskLayout.loop_accounted (fun f => FieldDecoder.assign_stores f.read)
      (fun f _ => FieldDecoder.assign_allOrNothing f.read)
  · rw [hmask]
    exact run_notes_own h
  · intro f v hv
    rw [hmask]
    rcases exists_visit_of_present hv with ⟨o, hvisit, hread⟩
    refine ⟨o, hvisit, (ReportField.read_accounted hread).of_stops ?_⟩
    intro kind hkind
    rw [run_notes_nested h (hnested kind f hkind),
      stopsOf_walk_of_visit hkind hvisit]
  · intro kind f hkind habsent
    rw [run_notes_nested h (hnested kind f hkind)]
    by_cases hmem : f.bitOf ∈
        (reportLayout.walkMask (maskAt zone 4) zone 8).visits.map Prod.fst
    · rcases List.mem_map.mp hmem with ⟨⟨b, o⟩, hvisit, hb⟩
      cases hb
      have hstored : (f.read.run zone o).result.toOption = none :=
        (MaskLayout.loop_fields_of_visit hvisit).symm.trans habsent
      rw [stopsOf_walk_of_visit hkind hvisit]
      cases hres : (f.read.run zone o).result with
      | ok v => rw [hres] at hstored; cases hstored
      | error e =>
          rw [ReportField.read_error_quiet hkind hres]
          rfl
    · apply stopsOf_walk_of_unvisited
      intro g hg
      rw [hkind] at hg
      injection hg with hg
      rwa [← hg]

/-- Version 3.1, event 1, bits 0 and 31 set, one byte short of bit 0. -/
theorem parseReportDataZone_accounted_short :
    exists payload,
      (parseReportDataZone.run [3, 1, 1, 0, 0x80, 0, 0, 1, 5] 0).result =
        Except.ok payload ∧
      ReportAccounted [3, 1, 1, 0, 0x80, 0, 0, 1, 5]
        (parseReportDataZone.run [3, 1, 1, 0, 0x80, 0, 0, 1, 5] 0).notes
        payload :=
  parseReportDataZone_accounted (by decide)

end Report

end Tracker
end AvtTracker
