import AvtTracker.Foundation.Numerals
import AvtTracker.Foundation.Patterns
import AvtTracker.Foundation.Utf8

/-!
# The shape of an SLU line

{lit}`FRAME_PATTERN` as a pattern over code units, and the lines it describes: an
optional head, {lit}`SLU`, the device id, the type, the index, the data and the
checksum.  A line has these parts in one way only, so the pattern finds them.
-/

namespace AvtTracker
namespace Starlink

open Foundation

/-!
## Classes of code units
-/

def charOf (unit : UInt16) : Char :=
  Char.ofNat unit.toNat

/-- What {lit}`trim` removes. -/
def isSpaceUnit (unit : UInt16) : Bool :=
  isSpace (charOf unit)

/-- {lit}`.` matches every code unit that is not a line terminator. -/
def isLineTerminator (unit : UInt16) : Bool :=
  [0x0a, 0x0d, 0x2028, 0x2029].contains unit

def isDot (unit : UInt16) : Bool :=
  !isLineTerminator unit

def isDigitUnit (unit : UInt16) : Bool :=
  0x30 ≤ unit && unit ≤ 0x39

/-- {lit}`[0-9A-Fa-f]` -/
def isHexDigitUnit (unit : UInt16) : Bool :=
  isDigitUnit unit || (0x41 ≤ unit && unit ≤ 0x46) ||
    (0x61 ≤ unit && unit ≤ 0x66)

def slu : Utf16 := [0x53, 0x4c, 0x55]

def comma : UInt16 := 0x2c

def star : UInt16 := 0x2a

/-- {lit}`FRAME_PATTERN` between its anchors. -/
def framePattern : Pattern UInt16 :=
  Pattern.seq (Pattern.optional (Pattern.group 1 (Pattern.times 1 isDot)))
    (Pattern.seq (Pattern.literal slu)
    (Pattern.seq (Pattern.group 2 (Pattern.either
      (Pattern.times 6 isHexDigitUnit) (Pattern.times 15 isDigitUnit)))
    (Pattern.seq (Pattern.literal [comma])
    (Pattern.seq (Pattern.group 3 (Pattern.many1 isDigitUnit))
    (Pattern.seq (Pattern.literal [comma])
    (Pattern.seq (Pattern.group 4 (Pattern.many1 isDigitUnit))
    (Pattern.seq (Pattern.literal [comma])
    (Pattern.seq (Pattern.group 5 (Pattern.many1 isDot))
    (Pattern.seq (Pattern.literal [star])
      (Pattern.group 6 (Pattern.times 2 isHexDigitUnit)))))))))))

/-!
## The parts of a line
-/

/-- The device id: six hexadecimal digits or fifteen decimal ones. -/
def IsDeviceId (id : Utf16) : Prop :=
  (id.length = 6 ∧ id.all isHexDigitUnit = true) ∨
    (id.length = 15 ∧ id.all isDigitUnit = true)

/-- The parts of an SLU line. -/
@[ext] structure SluLine where
  head : Option UInt16
  deviceId : Utf16
  messageType : Utf16
  messageIndex : Utf16
  data : Utf16
  checksum : Utf16
  head_dot : head.all isDot = true
  deviceId_valid : IsDeviceId deviceId
  messageType_valid : messageType ≠ [] ∧ messageType.all isDigitUnit = true
  messageIndex_valid : messageIndex ≠ [] ∧ messageIndex.all isDigitUnit = true
  data_valid : data ≠ [] ∧ data.all isDot = true
  checksum_valid : checksum.length = 2 ∧ checksum.all isHexDigitUnit = true

namespace SluLine

def text (l : SluLine) : Utf16 :=
  l.head.toList ++ (slu ++ (l.deviceId ++ ([comma] ++ (l.messageType ++
    ([comma] ++ (l.messageIndex ++ ([comma] ++ (l.data ++
      ([star] ++ l.checksum)))))))))

def captures (l : SluLine) : Captures UInt16 :=
  (l.head.toList.map fun h => (1, [h])) ++
    [(2, l.deviceId), (3, l.messageType), (4, l.messageIndex), (5, l.data),
      (6, l.checksum)]

end SluLine

theorem derives_deviceId {id : Utf16} {inner : Captures UInt16} :
    (Pattern.either (Pattern.times 6 isHexDigitUnit)
        (Pattern.times 15 isDigitUnit)).Derives id inner <->
      IsDeviceId id ∧ inner = [] := by
  simp only [Pattern.Derives, IsDeviceId]
  constructor
  · rintro (⟨hlength, hall, hinner⟩ | ⟨hlength, hall, hinner⟩)
    · exact ⟨Or.inl ⟨hlength, hall⟩, hinner⟩
    · exact ⟨Or.inr ⟨hlength, hall⟩, hinner⟩
  · rintro ⟨⟨hlength, hall⟩ | ⟨hlength, hall⟩, hinner⟩
    · exact Or.inl ⟨hlength, hall, hinner⟩
    · exact Or.inr ⟨hlength, hall, hinner⟩

theorem derives_head {front : Utf16} {taken : Captures UInt16} :
    (Pattern.optional (Pattern.group 1 (Pattern.times 1 isDot))).Derives front
        taken <->
      exists head : Option UInt16, head.all isDot = true ∧
        front = head.toList ∧ taken = head.toList.map fun h => (1, [h]) := by
  simp only [Pattern.Derives]
  constructor
  · rintro (⟨_, inner, rfl, hlength, hall, rfl⟩ | ⟨rfl, rfl⟩)
    · rcases List.length_eq_one_iff.mp hlength with ⟨h, rfl⟩
      refine ⟨some h, ?_, rfl, rfl⟩
      simpa using hall
    · exact ⟨none, rfl, rfl, rfl⟩
  · rintro ⟨head, hdot, rfl, rfl⟩
    cases head with
    | none => exact Or.inr ⟨rfl, rfl⟩
    | some h =>
        refine Or.inl ⟨List.cons_ne_nil _ _, [], rfl, rfl, ?_, rfl⟩
        simpa using hdot

/-- The derivations of the pattern are the lines. -/
theorem derives_framePattern_iff {text : Utf16} {captures : Captures UInt16} :
    framePattern.Derives text captures <->
      exists l : SluLine, text = l.text ∧ captures = l.captures := by
  constructor
  · rintro ⟨front, _, taken, _, rfl, rfl, hhead, hafterHead⟩
    rcases derives_head.mp hhead with ⟨head, hdot, rfl, rfl⟩
    rcases Pattern.derives_literal_seq.mp hafterHead with ⟨_, rfl, hfromId⟩
    rcases (Pattern.derives_class_group_seq
      (fun _ _ => derives_deviceId)).mp hfromId with
      ⟨id, _, _, rfl, rfl, hid, hafterId⟩
    rcases Pattern.derives_literal_seq.mp hafterId with ⟨_, rfl, hfromType⟩
    rcases (Pattern.derives_class_group_seq
      (fun _ _ => Pattern.derives_many1)).mp hfromType with
      ⟨messageType, _, _, rfl, rfl, htype, hafterType⟩
    rcases Pattern.derives_literal_seq.mp hafterType with
      ⟨_, rfl, hfromIndex⟩
    rcases (Pattern.derives_class_group_seq
      (fun _ _ => Pattern.derives_many1)).mp hfromIndex with
      ⟨messageIndex, _, _, rfl, rfl, hindex, hafterIndex⟩
    rcases Pattern.derives_literal_seq.mp hafterIndex with
      ⟨_, rfl, hfromData⟩
    rcases (Pattern.derives_class_group_seq
      (fun _ _ => Pattern.derives_many1)).mp hfromData with
      ⟨data, _, _, rfl, rfl, hdata, hafterData⟩
    rcases Pattern.derives_literal_seq.mp hafterData with
      ⟨checksum, rfl, inner, rfl, hlength, hall, rfl⟩
    exact ⟨⟨head, id, messageType, messageIndex, data, checksum, hdot, hid,
      htype, hindex, hdata, hlength, hall⟩, rfl, rfl⟩
  · rintro ⟨l, rfl, rfl⟩
    refine ⟨_, _, _, _, rfl, rfl,
      derives_head.mpr ⟨l.head, l.head_dot, rfl, rfl⟩, ?_⟩
    refine Pattern.derives_literal_seq.mpr ⟨_, rfl, ?_⟩
    refine (Pattern.derives_class_group_seq
      (fun _ _ => derives_deviceId)).mpr
        ⟨_, _, _, rfl, rfl, l.deviceId_valid, ?_⟩
    refine Pattern.derives_literal_seq.mpr ⟨_, rfl, ?_⟩
    refine (Pattern.derives_class_group_seq
      (fun _ _ => Pattern.derives_many1)).mpr
        ⟨_, _, _, rfl, rfl, l.messageType_valid, ?_⟩
    refine Pattern.derives_literal_seq.mpr ⟨_, rfl, ?_⟩
    refine (Pattern.derives_class_group_seq
      (fun _ _ => Pattern.derives_many1)).mpr
        ⟨_, _, _, rfl, rfl, l.messageIndex_valid, ?_⟩
    refine Pattern.derives_literal_seq.mpr ⟨_, rfl, ?_⟩
    refine (Pattern.derives_class_group_seq
      (fun _ _ => Pattern.derives_many1)).mpr
        ⟨_, _, _, rfl, rfl, l.data_valid, ?_⟩
    refine Pattern.derives_literal_seq.mpr ⟨_, rfl, ?_⟩
    exact ⟨[], rfl, l.checksum_valid.left, l.checksum_valid.right, rfl⟩

/-!
## A line has its parts in one way
-/

theorem append_separator_inj {p : UInt16 -> Bool} {separator : UInt16}
    (hseparator : p separator = false) {xs ys rest rest' : Utf16}
    (hxs : xs.all p = true) (hys : ys.all p = true)
    (h : xs ++ ([separator] ++ rest) = ys ++ ([separator] ++ rest')) :
    xs = ys ∧ rest = rest' := by
  have htake : forall front back : Utf16, front.all p = true ->
      (front ++ ([separator] ++ back)).takeWhile p = front := by
    intro front back hfront
    rw [List.takeWhile_append_of_pos (List.all_eq_true.mp hfront)]
    simp [hseparator]
  have hsame : xs = ys := by
    rw [← htake xs rest hxs, h, htake ys rest' hys]
  subst hsame
  exact ⟨rfl, List.append_cancel_left (List.append_cancel_left h)⟩

theorem all_hex_of_digits {xs : Utf16} (h : xs.all isDigitUnit = true) :
    xs.all isHexDigitUnit = true := by
  rw [List.all_eq_true] at h ⊢
  intro x hx
  simp [isHexDigitUnit, h x hx]

theorem IsDeviceId.all_hex {id : Utf16} (h : IsDeviceId id) :
    id.all isHexDigitUnit = true := by
  rcases h with ⟨_, hall⟩ | ⟨_, hall⟩
  · exact hall
  · exact all_hex_of_digits hall

theorem head_inj {head head' : Option UInt16} {rest rest' : Utf16}
    (h : head.toList ++ (slu ++ rest) = head'.toList ++ (slu ++ rest')) :
    head = head' ∧ rest = rest' := by
  cases head with
  | none =>
      cases head' with
      | none => exact ⟨rfl, List.append_cancel_left h⟩
      | some b => simp [slu] at h
  | some a =>
      cases head' with
      | none => simp [slu] at h
      | some b =>
          rcases List.cons.inj h with ⟨rfl, hrest⟩
          exact ⟨rfl, List.append_cancel_left hrest⟩

theorem SluLine.text_injective {l l' : SluLine} (h : l.text = l'.text) :
    l = l' := by
  have hdigit : isDigitUnit comma = false := by decide
  rcases head_inj h with ⟨hhead, h⟩
  rcases append_separator_inj (by decide) l.deviceId_valid.all_hex
    l'.deviceId_valid.all_hex h with ⟨hid, h⟩
  rcases append_separator_inj hdigit l.messageType_valid.right
    l'.messageType_valid.right h with ⟨htype, h⟩
  rcases append_separator_inj hdigit l.messageIndex_valid.right
    l'.messageIndex_valid.right h with ⟨hindex, h⟩
  have hlength : ([star] ++ l.checksum).length =
      ([star] ++ l'.checksum).length := by
    simp [l.checksum_valid.left, l'.checksum_valid.left]
  rcases List.append_inj' h hlength with ⟨hdata, h⟩
  exact SluLine.ext hhead hid htype hindex hdata (List.append_cancel_left h)

/-!
## What the pattern finds
-/

theorem exec_text (l : SluLine) :
    framePattern.exec l.text = some l.captures := by
  apply Pattern.exec_eq_some (derives_framePattern_iff.mpr ⟨l, rfl, rfl⟩)
  intro other hother
  rcases derives_framePattern_iff.mp hother with ⟨l', htext, hcaptures⟩
  rw [hcaptures, ← SluLine.text_injective htext]

theorem exec_eq_some_iff {text : Utf16} {captures : Captures UInt16} :
    framePattern.exec text = some captures <->
      exists l : SluLine, text = l.text ∧ captures = l.captures := by
  constructor
  · intro h
    exact derives_framePattern_iff.mp (Pattern.derives_of_exec h)
  · rintro ⟨l, rfl, rfl⟩
    exact exec_text l

end Starlink
end AvtTracker
