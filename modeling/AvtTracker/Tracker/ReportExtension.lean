import AvtTracker.Tracker.CanAdvancedExtension

/-!
# The fields of a report over longer data zones

Every field of the Data Mask obeys the extension law.  A field with a mask of
its own is the one kind that can be short of bytes without failing: it is cut
short if its own loop stops.
-/

namespace AvtTracker
namespace Tracker

open Foundation BufferCursor

/-!
## The order on values
-/

/-- Sensors of the one-wire list may be added, everything else stays. -/
def EventDataField.le : (f : EventDataField) -> f.Value -> f.Value -> Prop
  | oneWire, sensors, sensors' => sensors <+: sensors'
  | _, v, v' => v = v'

/-- PIDs may be added. -/
structure CanAdvancedInfoMask1Block.Le
    (block block' : CanAdvancedInfoMask1Block) : Prop where
  mask_eq : block.mask = block'.mask
  pids : block.pids <+: block'.pids

namespace ReportField

/-- A block may gain fields, everything else stays. -/
def le : (f : ReportField) -> f.Value -> f.Value -> Prop
  | eventData, block, block' => MaskBlock.Le EventDataField.le block block'
  | canInfo1, block, block' => MaskBlock.Le (fun _ => Eq) block block'
  | canInfo2, block, block' => MaskBlock.Le (fun _ => Eq) block block'
  | electricInfo1, block, block' => MaskBlock.Le (fun _ => Eq) block block'
  | canInfo3, block, block' => MaskBlock.Le (fun _ => Eq) block block'
  | canAdvancedInfo1, fields, fields' =>
      fields.canAdvancedInfo1.Le fields'.canAdvancedInfo1
  | _, v, v' => v = v'

def missing : ReportField -> Bytes -> Nat -> Option Nat
  | eventData =>
      blockMissing eventDataLayout.advance
        (eventDataLayout.missing eventDataLayout.shortage)
  | canInfo1 =>
      blockMissing canInfo1Layout.advance
        (canInfo1Layout.missing canInfo1Layout.shortage)
  | canInfo2 =>
      blockMissing canInfo2Layout.advance
        (canInfo2Layout.missing canInfo2Layout.shortage)
  | electricInfo1 =>
      blockMissing electricInfo1Layout.advance
        (electricInfo1Layout.missing electricInfo1Layout.shortage)
  | canInfo3 =>
      blockMissing canInfo3Layout.advance
        (canInfo3Layout.missing canInfo3Layout.shortage)
  | canAdvancedInfo1 =>
      blockMissing canAdvancedAdvance
        (fun _ => (FieldDecoder.assign readPid).shortage)
  | f => (FieldDecoder.assign f.read).shortage

/-- Where the loop over a field's own mask stops, if the field has one. -/
def innerStop : ReportField -> Bytes -> Nat -> Option (Nat × Failure)
  | eventData, zone, offset =>
      (eventDataLayout.walkMask (maskAt zone offset) zone (offset + 4)).stop
  | canInfo1, zone, offset =>
      (canInfo1Layout.walkMask (maskAt zone offset) zone (offset + 4)).stop
  | canInfo2, zone, offset =>
      (canInfo2Layout.walkMask (maskAt zone offset) zone (offset + 4)).stop
  | electricInfo1, zone, offset =>
      (electricInfo1Layout.walkMask (maskAt zone offset) zone
        (offset + 4)).stop
  | canInfo3, zone, offset =>
      (canInfo3Layout.walkMask (maskAt zone offset) zone (offset + 4)).stop
  | canAdvancedInfo1, zone, offset =>
      (canAdvancedWalk (maskAt zone offset) zone (offset + 4)).stop
  | _, _, _ => none

/-- A block whose mask is complete and whose own loop stops. -/
def CutShort (f : ReportField) (zone : Bytes) (offset : Nat) : Prop :=
  4 ≤ zone.length - offset ∧ f.innerStop zone offset ≠ none

end ReportField

/-!
## The extension law
-/

theorem EventDataField.read_extends (f : EventDataField) :
    (eventDataLayout.read f).Extends (eventDataLayout.shortage f) f.le := by
  by_cases h : f = EventDataField.oneWire
  · subst h
    exact FieldDecoder.assignEach_extends readUInt8 readOneWireSensor
  · have hplain := (EventDataField.read_plain f h).extends_shortage
    have hle : f.le = Eq := by
      cases f
      case oneWire => exact absurd rfl h
      all_goals rfl
    rw [hle]
    exact hplain

theorem canAdvanced_block_extends :
    (FieldDecoder.assign parseCanAdvancedInfoMask1Block).Extends
      ReportField.canAdvancedInfo1.missing CanAdvancedInfoMask1Block.Le := by
  refine maskBlock_extends canAdvancedBody_follows canAdvanced_extends
    canAdvancedBody_stable ?_
  intro mask buf offset more hle
  have hloop := canAdvancedLoop_eq mask buf offset
  have hloop' := canAdvancedLoop_eq mask (buf ++ more) offset
  unfold canAdvancedLoop at hloop hloop'
  rw [hloop, hloop']
  exact ⟨rfl, readPids_isPrefix (setBits_ascending mask) hle more⟩

namespace ReportField

theorem read_extends (f : ReportField) :
    (reportLayout.read f).Extends f.missing f.le := by
  cases f
  case eventData =>
    exact MaskLayout.parseBlock_extends EventDataField.read_extends
  case canInfo1 =>
    exact MaskLayout.parseBlock_extends
      (fun f => (CanInfo1Field.read_plain f).extends_shortage)
  case canInfo2 =>
    exact MaskLayout.parseBlock_extends
      (fun f => (CanInfo2Field.read_plain f).extends_shortage)
  case electricInfo1 =>
    exact MaskLayout.parseBlock_extends
      (fun f => (ElectricInfo1Field.read_plain f).extends_shortage)
  case canInfo3 =>
    exact MaskLayout.parseBlock_extends
      (fun f => (CanInfo3Field.read_plain f).extends_shortage)
  case canAdvancedInfo1 =>
    exact FieldDecoder.assign_map_extends canAdvanced_block_extends
      (fun _ _ h => h)
  case frame => exact FieldDecoder.assign_extends readFrameBlock
  case networkType => exact FieldDecoder.assign_extends readUInt8
  case battery => exact FieldDecoder.assign_extends readBatteryBlock
  case gnss => exact FieldDecoder.assign_extends parseGnssBlock
  case cell => exact FieldDecoder.assign_extends readCellBlock
  case upgrade => exact FieldDecoder.assign_extends readUpgradeBlock

/-!
## Blocks cut short
-/

theorem read_headed {f : ReportField} (h : 8 ≤ f.bitOf) :
    (reportLayout.read f).Headed 4 := by
  cases f
  case eventData => exact maskBlock_headed
  case canInfo1 => exact maskBlock_headed
  case canInfo2 => exact maskBlock_headed
  case electricInfo1 => exact maskBlock_headed
  case canInfo3 => exact maskBlock_headed
  case canAdvancedInfo1 => exact assign_map_headed maskBlock_headed
  all_goals exact absurd h (by decide)

theorem missing_of_layout {L : MaskLayout Warning} {zone : Bytes}
    {offset : Nat} {le : (f : L.Field) -> L.Value f -> L.Value f -> Prop}
    (h : forall f, (L.read f).Extends (L.shortage f) (le f))
    (hlen : 4 ≤ zone.length - offset) :
    blockMissing L.advance (L.missing L.shortage) zone offset ≠ none <->
      (L.walkMask (maskAt zone offset) zone (offset + 4)).stop ≠ none :=
  blockMissing_iff_stop (MaskLayout.advance_extends h) MaskLayout.shortage_flat
    hlen

theorem missing_iff_innerStop {f : ReportField} (h : 8 ≤ f.bitOf)
    {zone : Bytes} {offset : Nat} (hlen : 4 ≤ zone.length - offset) :
    f.missing zone offset ≠ none <-> f.innerStop zone offset ≠ none := by
  cases f
  case eventData => exact missing_of_layout EventDataField.read_extends hlen
  case canInfo1 =>
    exact missing_of_layout
      (fun f => (CanInfo1Field.read_plain f).extends_shortage) hlen
  case canInfo2 =>
    exact missing_of_layout
      (fun f => (CanInfo2Field.read_plain f).extends_shortage) hlen
  case electricInfo1 =>
    exact missing_of_layout
      (fun f => (ElectricInfo1Field.read_plain f).extends_shortage) hlen
  case canInfo3 =>
    exact missing_of_layout
      (fun f => (CanInfo3Field.read_plain f).extends_shortage) hlen
  case canAdvancedInfo1 =>
    exact blockMissing_iff_stop canAdvanced_extends canAdvanced_flat hlen
  all_goals exact absurd h (by decide)

theorem plain_missing {f : ReportField} (h : f.bitOf < 8) :
    f.missing = (reportLayout.shortage f) := by
  cases f
  case frame => rfl
  case networkType => rfl
  case battery => rfl
  case gnss => rfl
  case cell => rfl
  case upgrade => rfl
  all_goals exact absurd h (by decide)

theorem CutShort.has_mask {f : ReportField} {zone : Bytes} {offset : Nat}
    (h : f.CutShort zone offset) : 8 ≤ f.bitOf := by
  cases f
  case frame => exact absurd rfl h.right
  case networkType => exact absurd rfl h.right
  case battery => exact absurd rfl h.right
  case gnss => exact absurd rfl h.right
  case cell => exact absurd rfl h.right
  case upgrade => exact absurd rfl h.right
  all_goals decide

end ReportField

open ReportField

/-- The passes that are short of bytes and carry on are the blocks that are cut
short. -/
theorem stalls_iff_cutShort {zone : Bytes} {visit : Nat × Nat} :
    Stalls reportLayout.advance (reportLayout.missing missing) zone visit <->
      exists f : ReportField, f.bitOf = visit.1 ∧ f.CutShort zone visit.2 := by
  rcases visit with ⟨bit, offset⟩
  constructor
  · rintro ⟨hshort, hok⟩
    unfold MaskLayout.missing at hshort
    unfold MaskLayout.advance at hok
    cases hcase : reportLayout.bitCase bit with
    | reserved => rw [hcase] at hshort; exact absurd rfl hshort
    | unsupported => rw [hcase] at hshort; exact absurd rfl hshort
    | field f =>
        rw [hcase] at hshort hok
        change ReportField.missing f zone offset ≠ none at hshort
        change ((reportLayout.read f).run zone offset).failure = none at hok
        have hbit := reportLayout.bitCase_eq_field_iff.mp hcase
        refine ⟨f, hbit.symm, ?_⟩
        by_cases hmask : 8 ≤ f.bitOf
        · have hlen : 4 ≤ zone.length - offset := by
            by_contra hlen
            exact ((read_headed hmask zone offset).left
              (Nat.not_le.mp hlen)).left hok
          exact ⟨hlen, (missing_iff_innerStop hmask hlen).mp hshort⟩
        · rw [plain_missing (Nat.not_le.mp hmask)] at hshort
          exact absurd (Option.map_eq_none_iff.mpr hok) hshort
  · rintro ⟨f, rfl, hcut⟩
    have hmask := hcut.has_mask
    have hcase : reportLayout.bitCase f.bitOf = BitCase.field f :=
      reportLayout.bitCase_eq_field_iff.mpr rfl
    constructor
    · simp only [MaskLayout.missing, hcase]
      exact (missing_iff_innerStop hmask hcut.left).mpr hcut.right
    · simp only [MaskLayout.advance, hcase]
      exact ((read_headed hmask zone offset).right hcut.left).left

theorem headed_behind {zone : Bytes} {visit : Nat × Nat} {f : ReportField}
    (h : Stalls reportLayout.advance (reportLayout.missing missing) zone visit)
    (hlt : visit.1 < f.bitOf) : (reportLayout.read f).Headed 4 := by
  rcases stalls_iff_cutShort.mp h with ⟨g, hg, hcut⟩
  have hmask := hcut.has_mask
  exact read_headed (by lia)

theorem carries_on {zone more : Bytes} {visit : Nat × Nat}
    (h : Stalls reportLayout.advance (reportLayout.missing missing) zone
      visit) :
    (reportLayout.advance visit.1 (zone ++ more) visit.2).failure = none := by
  rcases visit with ⟨bit, offset⟩
  rcases stalls_iff_cutShort.mp h with ⟨f, hf, hcut⟩
  have hlen : 4 ≤ (zone ++ more).length - offset := by
    have hzone := hcut.left
    rw [List.length_append]
    dsimp only at hzone
    lia
  have hrun := reportLayout.advance_bitOf f (zone ++ more) offset
  refine (congrArg (fun b => (reportLayout.advance b (zone ++ more)
    offset).failure) hf.symm).trans ((congrArg Advance.failure hrun).trans ?_)
  exact ((read_headed hcut.has_mask (zone ++ more) offset).right hlen).left

end Tracker
end AvtTracker
