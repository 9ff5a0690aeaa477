import AvtTracker.Tracker.Envelope

/-!
# The parts of a frame

Every frame the parser returns from is put together from a head token, the
fixed-size fields around the data zone, and a terminator that may be missing.  It
throws on every other input, and on no other.
-/

namespace AvtTracker
namespace Tracker

open Foundation

/-- A frame in its parts. -/
structure FrameParts where
  headToken : Bytes
  length : Bytes
  imei : Bytes
  deviceId : Bytes
  dataZone : Bytes
  generatedTime : Bytes
  serialNumber : Bytes
  terminator : Bytes
  headToken_valid : exists token, headToken = token ++ [0x3a] ∧
    0x3a ∉ token ∧ token.length ≤ 7
  length_length : length.length = 2
  imei_length : imei.length = 8
  deviceId_length : deviceId.length = 1
  generatedTime_length : generatedTime.length = 7
  serialNumber_length : serialNumber.length = 2
  terminator_valid : terminator = [] ∨ terminator = [0x23]

namespace FrameParts

def binary (parts : FrameParts) : Bytes :=
  parts.length ++ (parts.imei ++ (parts.deviceId ++ (parts.dataZone ++
    (parts.generatedTime ++ parts.serialNumber))))

def bytes (parts : FrameParts) : Bytes :=
  parts.headToken ++ (parts.binary ++ parts.terminator)

end FrameParts

def bodyEnd (frame : Bytes) : Nat :=
  if frame.getLast? = some 0x23 then frame.length - 1 else frame.length

/-- There is no colon among the first eight bytes, or there are less than twenty
bytes between the first colon and the end. -/
def UnusableEnvelope (frame : Bytes) : Prop :=
  0x3a ∉ frame.take 8 ∨
    exists colonIndex, indexOf frame 0x3a = some colonIndex ∧
      bodyEnd frame - (colonIndex + 1) < 20

/-!
## Taking a frame apart
-/

section Parts

variable {frame : Bytes} {colonIndex : Nat}

theorem binarySection_length (headTokenLength : Nat) :
    (binarySection frame headTokenLength).length =
      bodyEnd frame - headTokenLength := by
  have hle : bodyEnd frame ≤ frame.length := by
    unfold bodyEnd
    split
    · exact Nat.sub_le _ _
    · exact Nat.le_refl _
  show ((frame.take (bodyEnd frame)).drop headTokenLength).length = _
  rw [List.length_drop, List.length_take, Nat.min_eq_left hle]

def terminatorOf (frame : Bytes) : Bytes :=
  frame.drop (bodyEnd frame)

theorem terminatorOf_valid :
    terminatorOf frame = [] ∨ terminatorOf frame = [0x23] := by
  unfold terminatorOf bodyEnd
  by_cases hlast : frame.getLast? = some 0x23
  · apply Or.inr
    rw [if_pos hlast]
    rcases List.getLast?_eq_some_iff.mp hlast with ⟨init, rfl⟩
    simp
  · apply Or.inl
    rw [if_neg hlast]
    exact List.drop_length

theorem head_binary_terminator {headTokenLength : Nat}
    (h : headTokenLength ≤ bodyEnd frame) :
    frame.take headTokenLength ++ (binarySection frame headTokenLength ++
      terminatorOf frame) = frame := by
  have hhead : frame.take headTokenLength =
      (frame.take (bodyEnd frame)).take headTokenLength := by
    rw [List.take_take, Nat.min_eq_left h]
  rw [hhead, ← List.append_assoc]
  show (frame.take (bodyEnd frame)).take headTokenLength ++
    (frame.take (bodyEnd frame)).drop headTokenLength ++ _ = frame
  rw [List.take_append_drop]
  exact List.take_append_drop _ _

theorem take_append_slice (binary : Bytes) (start count : Nat) :
    (binary.drop start).take count ++ binary.drop (start + count) =
      binary.drop start := by
  rw [← List.drop_drop]
  exact List.take_append_drop count _

theorem binary_fields {binary : Bytes} (h : 20 ≤ binary.length) :
    binary.take 2 ++ ((binary.drop 2).take 8 ++ ((binary.drop 10).take 1 ++
      ((binary.drop 11).take (binary.length - 20) ++
        ((binary.drop (binary.length - 9)).take 7 ++
          (binary.drop (binary.length - 2)).take 2)))) = binary := by
  have hserial : (binary.drop (binary.length - 2)).take 2 =
      binary.drop (binary.length - 2) := by
    apply List.take_of_length_le
    rw [List.length_drop]
    lia
  have htime := take_append_slice binary (binary.length - 9) 7
  rw [show binary.length - 9 + 7 = binary.length - 2 by lia] at htime
  have hzone := take_append_slice binary 11 (binary.length - 20)
  rw [show 11 + (binary.length - 20) = binary.length - 9 by lia] at hzone
  rw [hserial, htime, hzone, take_append_slice binary 10 1,
    take_append_slice binary 2 8,
    List.take_append_drop]

theorem dataZone_eq (headTokenLength : Nat) :
    (frame.drop (headTokenLength + headerPrefixBytes)).take
        ((binarySection frame headTokenLength).length - 20) =
      ((binarySection frame headTokenLength).drop 11).take
        ((binarySection frame headTokenLength).length - 20) := by
  rw [binarySection_length]
  show _ = (((frame.take (bodyEnd frame)).drop headTokenLength).drop 11).take _
  rw [List.drop_drop, List.drop_take, List.take_take]
  simp only [headerPrefixBytes]
  rw [Nat.min_eq_left (by lia)]

theorem headToken_of_indexOf (hcolon : indexOf frame 0x3a = some colonIndex)
    (hhead : colonIndex ≤ 7) :
    exists token, frame.take (colonIndex + 1) = token ++ [0x3a] ∧
      0x3a ∉ token ∧ token.length ≤ 7 := by
  rcases indexOf_eq_some_iff.mp hcolon with ⟨hval, hbefore⟩
  refine ⟨frame.take colonIndex, ?_, ?_, ?_⟩
  · rw [List.take_add_one, hval]
    rfl
  · intro hmem
    rcases List.mem_iff_getElem?.mp hmem with ⟨j, hj⟩
    have hlt := lt_length_of_getElem?_eq_some hj
    rw [List.length_take] at hlt
    rw [List.getElem?_take_of_lt (by lia)] at hj
    exact hbefore j (by lia) hj
  · rw [List.length_take]
    lia

theorem slice_length {binary : Bytes} (start count : Nat)
    (h : start + count ≤ binary.length) :
    ((binary.drop start).take count).length = count := by
  rw [List.length_take, List.length_drop]
  lia

end Parts

/-!
## Warnings about the envelope
-/

section Warnings

variable {frame : Bytes} {colonIndex : Nat} {parsed : ParsedTrackerFrame}

theorem mem_warnings_iff (hparsed : parseFrame frame = Except.ok parsed)
    (h : EnvelopeAt frame colonIndex) {w : Warning}
    (hw : w.inDataZone = false) :
    w ∈ parsed.warnings <-> w ∈ terminatorWarnings frame ∨
      w ∈ lengthWarnings (binarySection frame (colonIndex + 1)) := by
  rw [parseFrame_of_envelope h.left h.right.left h.right.right] at hparsed
  rw [← Except.ok.inj hparsed]
  rcases parseDataZone_warnings _ _ _ with ⟨added, hadded, hzone⟩
  rw [hadded, List.mem_append, List.mem_append]
  constructor
  · intro hmem
    cases hmem with
    | inl hmem => exact hmem
    | inr hmem =>
        have hin := hzone w hmem
        rw [hw] at hin
        cases hin
  · exact Or.inl

theorem missingTerminator_mem_iff (hparsed : parseFrame frame = Except.ok parsed)
    (h : EnvelopeAt frame colonIndex) :
    Warning.missingTerminator ∈ parsed.warnings <->
      frame.getLast? ≠ some 0x23 := by
  rw [mem_warnings_iff hparsed h rfl]
  constructor
  · intro hmem hlast
    cases hmem with
    | inl hmem =>
        rw [terminatorWarnings, if_pos hlast] at hmem
        cases hmem
    | inr hmem =>
        unfold lengthWarnings at hmem
        split at hmem
        · cases List.mem_singleton.mp hmem
        · cases hmem
  · intro hlast
    apply Or.inl
    rw [terminatorWarnings, if_neg hlast]
    exact List.mem_singleton_self _

theorem declaredLengthMismatch_mem_iff
    (hparsed : parseFrame frame = Except.ok parsed)
    (h : EnvelopeAt frame colonIndex) :
    (exists declared expected,
        Warning.declaredLengthMismatch declared expected ∈ parsed.warnings) <->
      beNat ((binarySection frame (colonIndex + 1)).take 2) ≠
        (binarySection frame (colonIndex + 1)).length - 2 := by
  constructor
  · intro ⟨declared, expected, hmem⟩ heq
    cases (mem_warnings_iff hparsed h rfl).mp hmem with
    | inl hmem =>
        unfold terminatorWarnings at hmem
        split at hmem
        · cases hmem
        · cases List.mem_singleton.mp hmem
    | inr hmem =>
        rw [lengthWarnings, if_neg (fun hne => hne heq)] at hmem
        cases hmem
  · intro hne
    exists beNat ((binarySection frame (colonIndex + 1)).take 2),
      (binarySection frame (colonIndex + 1)).length - 2
    apply (mem_warnings_iff hparsed h rfl).mpr
    apply Or.inr
    rw [lengthWarnings, if_pos hne]
    exact List.mem_singleton_self _

end Warnings

/-!
## What is returned, and what is refused
-/

/-- What a parsed frame says about its parts. -/
structure Describes (parsed : ParsedTrackerFrame) (parts : FrameParts) :
    Prop where
  rawHex : parsed.rawHex = toHex parts.bytes
  dataZoneHex : parsed.dataZoneHex = toHex parts.dataZone
  headToken : parsed.header.headToken = asciiText parts.headToken
  declaredLength : parsed.header.declaredLength = beNat parts.length
  imei : decodeImei parts.imei = Except.ok parsed.header.imei
  deviceId : parsed.header.deviceId = beNat parts.deviceId
  computedDataZoneLength :
    parsed.header.computedDataZoneLength = parts.dataZone.length
  generatedAt :
    decodeGTime parts.generatedTime = Except.ok parsed.header.generatedAt
  serialNumberHex : parsed.header.serialNumberHex = toHex parts.serialNumber
  declaredLengthWarning :
    (exists declared expected,
        Warning.declaredLengthMismatch declared expected ∈ parsed.warnings) <->
      beNat parts.length ≠ parts.dataZone.length + 18
  terminatorWarning :
    Warning.missingTerminator ∈ parsed.warnings <->
      parts.bytes.getLast? ≠ some 0x23

theorem unusableEnvelope_iff {frame : Bytes} :
    UnusableEnvelope frame <->
      ¬ exists colonIndex, EnvelopeAt frame colonIndex := by
  constructor
  · intro hunusable henvelope
    rcases henvelope with ⟨colonIndex, hcolon, hhead, hfixed⟩
    cases hunusable with
    | inl hnone =>
        apply hnone
        apply List.mem_iff_getElem?.mpr
        exists colonIndex
        rw [List.getElem?_take_of_lt (by lia)]
        exact (indexOf_eq_some_iff.mp hcolon).left
    | inr hshort =>
        rcases hshort with ⟨c, hc, hlen⟩
        rw [hcolon] at hc
        rw [binarySection_length] at hfixed
        have hsame := Option.some.inj hc
        lia
  · intro hnot
    by_cases hmem : (0x3a : UInt8) ∈ frame.take 8
    · apply Or.inr
      cases hcolon : indexOf frame 0x3a with
      | none =>
          rcases List.mem_iff_getElem?.mp (List.mem_of_mem_take hmem)
            with ⟨j, hj⟩
          exact absurd hj (indexOf_eq_none_iff.mp hcolon j)
      | some colonIndex =>
          refine ⟨colonIndex, rfl, ?_⟩
          rw [← binarySection_length]
          apply Nat.not_le.mp
          intro hfixed
          refine hnot ⟨colonIndex, hcolon, ?_, hfixed⟩
          rcases List.mem_iff_getElem?.mp hmem with ⟨j, hj⟩
          have hlt := lt_length_of_getElem?_eq_some hj
          rw [List.length_take] at hlt
          rw [List.getElem?_take_of_lt (by lia)] at hj
          have hfirst := (indexOf_eq_some_iff.mp hcolon).right
          apply Nat.not_lt.mp
          intro hfar
          exact hfirst j (by lia) hj
    · exact Or.inl hmem

section Described

variable {frame : Bytes} {colonIndex : Nat} {parsed : ParsedTrackerFrame}

theorem parseFrame_rawHex (hparsed : parseFrame frame = Except.ok parsed)
    (h : EnvelopeAt frame colonIndex) : parsed.rawHex = toHex frame := by
  rw [parseFrame_of_envelope h.left h.right.left h.right.right] at hparsed
  rw [← Except.ok.inj hparsed, parseDataZone_rawHex]

theorem parseFrame_dataZoneHex (hparsed : parseFrame frame = Except.ok parsed)
    (h : EnvelopeAt frame colonIndex) :
    parsed.dataZoneHex =
      toHex (((binarySection frame (colonIndex + 1)).drop 11).take
        ((binarySection frame (colonIndex + 1)).length - 20)) := by
  rw [parseFrame_of_envelope h.left h.right.left h.right.right] at hparsed
  rw [← Except.ok.inj hparsed, parseDataZone_dataZoneHex, dataZone_eq]

theorem EnvelopeAt.slice_length (h : EnvelopeAt frame colonIndex)
    {start count : Nat} (hend : start + count ≤ 20) :
    (((binarySection frame (colonIndex + 1)).drop start).take count).length =
      count :=
  Tracker.slice_length start count (Nat.le_trans hend h.right.right)

theorem EnvelopeAt.trailer_length (h : EnvelopeAt frame colonIndex)
    {back count : Nat} (hback : back ≤ 20) (hcount : count ≤ back) :
    (((binarySection frame (colonIndex + 1)).drop
      ((binarySection frame (colonIndex + 1)).length - back)).take
        count).length = count := by
  have hfixed := h.right.right
  apply Tracker.slice_length
  lia

theorem EnvelopeAt.dataZone_length (h : EnvelopeAt frame colonIndex) :
    (((binarySection frame (colonIndex + 1)).drop 11).take
      ((binarySection frame (colonIndex + 1)).length - 20)).length =
        (binarySection frame (colonIndex + 1)).length - 20 := by
  have hfixed := h.right.right
  apply Tracker.slice_length
  lia

def EnvelopeAt.parts (h : EnvelopeAt frame colonIndex) : FrameParts :=
  let binary := binarySection frame (colonIndex + 1)
  { headToken := frame.take (colonIndex + 1)
    length := binary.take 2
    imei := (binary.drop 2).take 8
    deviceId := (binary.drop 10).take 1
    dataZone := (binary.drop 11).take (binary.length - 20)
    generatedTime := (binary.drop (binary.length - 9)).take 7
    serialNumber := (binary.drop (binary.length - 2)).take 2
    terminator := terminatorOf frame
    headToken_valid := headToken_of_indexOf h.left h.right.left
    length_length := h.slice_length (by decide : 0 + 2 ≤ 20)
    imei_length := h.slice_length (by decide)
    deviceId_length := h.slice_length (by decide)
    generatedTime_length := h.trailer_length (by decide) (by decide)
    serialNumber_length := h.trailer_length (by decide) (by decide)
    terminator_valid := terminatorOf_valid }

theorem EnvelopeAt.parts_bytes (h : EnvelopeAt frame colonIndex) :
    h.parts.bytes = frame := by
  have hbinary : h.parts.binary = binarySection frame (colonIndex + 1) :=
    binary_fields h.right.right
  have hend : colonIndex + 1 ≤ bodyEnd frame := by
    have hfixed := h.right.right
    rw [binarySection_length] at hfixed
    lia
  rw [FrameParts.bytes, hbinary]
  exact head_binary_terminator hend

theorem EnvelopeAt.describes (h : EnvelopeAt frame colonIndex)
    (hparsed : parseFrame frame = Except.ok parsed) :
    Describes parsed h.parts := by
  have hheader := parseFrame_header hparsed h
  have hzone : h.parts.dataZone.length =
      (binarySection frame (colonIndex + 1)).length - 20 := h.dataZone_length
  constructor
  · rw [h.parts_bytes]
    exact parseFrame_rawHex hparsed h
  · exact parseFrame_dataZoneHex hparsed h
  · rw [hheader]
    rfl
  · rw [hheader]
    rfl
  · rcases decodeImei_accepts h.parts.imei_length with ⟨imei, himei⟩
    have hread : parsed.header.imei =
        (decodeImei h.parts.imei).toOption.getD "" := by
      rw [hheader]
      rfl
    rw [hread, himei]
    rfl
  · rw [hheader]
    rfl
  · rw [hheader, hzone]
    rfl
  · rcases decodeGTime_accepts h.parts.generatedTime_length with ⟨time, htime⟩
    have hread : parsed.header.generatedAt =
        (decodeGTime h.parts.generatedTime).toOption.join := by
      rw [hheader]
      rfl
    rw [hread, htime]
    rfl
  · rw [hheader]
    rfl
  · have hfixed := h.right.right
    rw [declaredLengthMismatch_mem_iff hparsed h, hzone,
      show (binarySection frame (colonIndex + 1)).length - 20 + 18 =
        (binarySection frame (colonIndex + 1)).length - 2 by lia]
    rfl
  · rw [h.parts_bytes]
    exact missingTerminator_mem_iff hparsed h

end Described

/-- The parser throws on an unusable envelope only; everything else is returned
in its parts. -/
theorem parseFrame_envelope (frame : Bytes) :
    ((exists error, parseFrame frame = Except.error error) <->
        UnusableEnvelope frame) ∧
      forall parsed, parseFrame frame = Except.ok parsed ->
        exists parts : FrameParts, parts.bytes = frame ∧
          Describes parsed parts := by
  constructor
  · rw [unusableEnvelope_iff, ← parseFrame_accepts_iff]
    cases parseFrame frame with
    | error error => simp
    | ok parsed => simp
  · intro parsed hparsed
    rcases exists_envelopeAt_of_parseFrame hparsed with ⟨colonIndex, h⟩
    exact ⟨h.parts, h.parts_bytes, h.describes hparsed⟩

end Tracker
end AvtTracker
