import AvtTracker.Starlink.ParseFrame

/-!
# Lines built from a description

The lines the tests of the parser are built with, and what the parser makes of
them.
-/

namespace AvtTracker
namespace Starlink

open Foundation

structure BuildStarlinkLineOptions where
  head : Option Utf16 := none
  deviceId : String
  messageType : JsNumber
  messageIndex : JsNumber
  data : Utf16
  checksumHex : Option String := none

namespace BuildStarlinkLineOptions

def headText (options : BuildStarlinkLineOptions) : Utf16 :=
  options.head.getD [0x21]

def checksum (options : BuildStarlinkLineOptions) : String :=
  options.checksumHex.getD "00"

/-- The parts are those of an SLU line, the head is not white space, and type and
index are integers that a double holds exactly. -/
structure Valid (options : BuildStarlinkLineOptions) : Prop where
  head : options.headText = [] ∨
    exists unit, options.headText = [unit] ∧ isSpaceUnit unit = false
  deviceId : IsDeviceId (utf16 options.deviceId)
  messageType : exists n : Nat, n < 2 ^ 53 ∧
    options.messageType = JsNumber.finite n
  messageIndex : exists n : Nat, n < 2 ^ 53 ∧
    options.messageIndex = JsNumber.finite n
  data : options.data ≠ [] ∧ options.data.all isDot = true
  checksum : (utf16 options.checksum).length = 2 ∧
    (utf16 options.checksum).all isHexDigitUnit = true

end BuildStarlinkLineOptions

def buildStarlinkLine (options : BuildStarlinkLineOptions) : Utf16 :=
  options.headText ++ (slu ++ (utf16 options.deviceId ++ ([comma] ++
    (utf16 options.messageType.text ++ ([comma] ++
      (utf16 options.messageIndex.text ++ ([comma] ++ (options.data ++
        ([star] ++ utf16 options.checksum)))))))))

/-!
## Text and code units
-/

theorem charOf_ofNat {c : Char} (h : c.toNat < 0x10000) :
    charOf (UInt16.ofNat c.toNat) = c := by
  rw [charOf, UInt16.toNat_ofNat_of_lt' h, Char.ofNat_toNat]

theorem chars_utf16 {text : String}
    (h : forall c, c ∈ text.toList -> c.toNat < 0x10000) :
    chars (utf16 text) = text.toList := by
  unfold utf16 chars
  generalize text.toList = cs at h ⊢
  induction cs with
  | nil => rfl
  | cons c rest ih =>
      have hc := h c List.mem_cons_self
      rw [List.flatMap_cons, List.map_append,
        ih fun x hx => h x (List.mem_cons_of_mem _ hx), codeUnits, if_pos hc,
        List.map_singleton, charOf_ofNat hc]
      rfl

theorem asciiString_utf16 {text : String}
    (h : forall c, c ∈ text.toList -> c.toNat < 0x10000) :
    asciiString (utf16 text) = text := by
  rw [asciiString, chars_utf16 h, String.ofList_toList]

theorem toNat_le_of_hex {unit : UInt16} (h : isHexDigitUnit unit = true) :
    unit.toNat ≤ 0x66 := by
  simp [isHexDigitUnit, isDigitUnit, UInt16.le_iff_toNat_le] at h
  omega

theorem bmp_of_all_hex {text : String}
    (h : (utf16 text).all isHexDigitUnit = true) :
    forall c, c ∈ text.toList -> c.toNat < 0x10000 := by
  intro c hc
  by_contra hlarge
  have hvalid : c.toNat < 0xd800 ∨ 0xdfff < c.toNat ∧ c.toNat < 0x110000 :=
    c.valid
  have hunit : UInt16.ofNat (0xd800 + (c.toNat - 0x10000) / 0x400) ∈
      utf16 text := by
    refine List.mem_flatMap.mpr ⟨c, hc, ?_⟩
    rw [codeUnits, if_neg hlarge]
    exact List.mem_cons_self
  have hle := toNat_le_of_hex (List.all_eq_true.mp h _ hunit)
  rw [UInt16.toNat_ofNat_of_lt' (by simp [UInt16.size]; omega)] at hle
  omega

theorem dropWhile_eq_self {p : UInt16 -> Bool} {text : Utf16} {front : UInt16}
    (hfront : text.head? = some front) (h : p front = false) :
    text.dropWhile p = text := by
  cases text with
  | nil => rfl
  | cons unit rest =>
      rw [List.head?_cons, Option.some.injEq] at hfront
      apply List.dropWhile_cons_of_neg
      rw [hfront, h]
      exact Bool.false_ne_true

theorem trimUnits_eq_self {front back : UInt16} {text : Utf16}
    (hfront : text.head? = some front) (hback : text.getLast? = some back)
    (h : isSpaceUnit front = false) (h' : isSpaceUnit back = false) :
    trimUnits text = text := by
  rw [← List.head?_reverse] at hback
  rw [trimUnits, dropWhile_eq_self hfront h, dropWhile_eq_self hback h',
    List.reverse_reverse]

theorem isSpaceUnit_of_hex {unit : UInt16} (h : isHexDigitUnit unit = true) :
    isSpaceUnit unit = false := by
  have hle := toNat_le_of_hex h
  have hge : 0x30 ≤ unit.toNat := by
    simp [isHexDigitUnit, isDigitUnit, UInt16.le_iff_toNat_le] at h
    omega
  simp [isSpaceUnit, isSpace, toNat_charOf (show unit.toNat < 0xd800 by omega)]
  omega

theorem isDot_of_not_space {unit : UInt16} (h : isSpaceUnit unit = false) :
    isDot unit = true := by
  cases hterminator : isLineTerminator unit with
  | false => simp [isDot, hterminator]
  | true =>
      rw [isLineTerminator, List.contains_iff_mem] at hterminator
      simp only [List.mem_cons, List.not_mem_nil, or_false] at hterminator
      rcases hterminator with rfl | rfl | rfl | rfl <;> exact absurd h (by decide)

/-- An integer below 2^53 is written with decimal digits and read back. -/
theorem utf16_text_natCast {n : Nat} (h : n < 2 ^ 53) :
    utf16 (JsNumber.finite n).text ≠ [] ∧
      (utf16 (JsNumber.finite n).text).all isDigitUnit = true ∧
      chars (utf16 (JsNumber.finite n).text) = Nat.toDigits 10 n := by
  have htext : (JsNumber.finite n).text = String.ofList (Nat.toDigits 10 n) :=
    numberText_natCast h
  have hdigit : forall c, c ∈ Nat.toDigits 10 n -> c.isDigit = true :=
    fun c hc => Nat.isDigit_of_mem_toDigits (by decide) (by decide) hc
  have hchars : chars (utf16 (JsNumber.finite n).text) =
      Nat.toDigits 10 n := by
    rw [htext, chars_utf16, String.toList_ofList]
    intro c hc
    rw [String.toList_ofList] at hc
    have hbounds := isDigit_iff.mp (hdigit c hc)
    omega
  refine ⟨?_, ?_, hchars⟩
  · intro hnil
    rw [hnil] at hchars
    exact Nat.toDigits_ne_nil hchars.symm
  · rw [htext, List.all_eq_true]
    intro unit hunit
    rcases List.mem_flatMap.mp hunit with ⟨c, hc, hmem⟩
    rw [String.toList_ofList] at hc
    have hbounds := isDigit_iff.mp (hdigit c hc)
    rw [codeUnits, if_pos (by omega), List.mem_singleton] at hmem
    rw [hmem, isDigitUnit_iff,
      UInt16.toNat_ofNat_of_lt' (by simp [UInt16.size]; omega)]
    exact hbounds

/-!
## The built line
-/

section Built

variable {options : BuildStarlinkLineOptions}

theorem readBack {value : JsNumber}
    (h : exists n : Nat, n < 2 ^ 53 ∧ value = JsNumber.finite n) :
    (utf16 value.text ≠ [] ∧ (utf16 value.text).all isDigitUnit = true) ∧
      JsNumber.ofInt (digitsValue (chars (utf16 value.text)) : Int) =
        value := by
  rcases h with ⟨n, hlt, rfl⟩
  rcases utf16_text_natCast hlt with ⟨hne, hall, hchars⟩
  refine ⟨⟨hne, hall⟩, ?_⟩
  rw [hchars, digitsValue_toDigits, JsNumber.ofInt_natCast hlt]

def BuildStarlinkLineOptions.Valid.line (h : options.Valid) : SluLine where
  head := options.headText.head?
  deviceId := utf16 options.deviceId
  messageType := utf16 options.messageType.text
  messageIndex := utf16 options.messageIndex.text
  data := options.data
  checksum := utf16 options.checksum
  head_dot := by
    rcases h.head with hhead | ⟨unit, hhead, hspace⟩
    · rw [hhead]
      rfl
    · rw [hhead]
      exact isDot_of_not_space hspace
  deviceId_valid := h.deviceId
  messageType_valid := (readBack h.messageType).left
  messageIndex_valid := (readBack h.messageIndex).left
  data_valid := h.data
  checksum_valid := h.checksum

theorem toList_headText (h : options.Valid) :
    options.headText.head?.toList = options.headText := by
  rcases h.head with hhead | ⟨unit, hhead, _⟩ <;> rw [hhead] <;> rfl

theorem buildStarlinkLine_eq (h : options.Valid) :
    buildStarlinkLine options = h.line.text := by
  simp only [buildStarlinkLine, SluLine.text,
    BuildStarlinkLineOptions.Valid.line, toList_headText h]

theorem trimUnits_buildStarlinkLine (h : options.Valid) :
    trimUnits (buildStarlinkLine options) = buildStarlinkLine options := by
  have hfront : exists front,
      (buildStarlinkLine options).head? = some front ∧
        isSpaceUnit front = false := by
    rcases h.head with hhead | ⟨unit, hhead, hspace⟩
    · refine ⟨0x53, ?_, by decide⟩
      rw [buildStarlinkLine, hhead]
      rfl
    · refine ⟨unit, ?_, hspace⟩
      rw [buildStarlinkLine, hhead]
      rfl
  have hback : exists back,
      (buildStarlinkLine options).getLast? = some back ∧
        isSpaceUnit back = false := by
    rcases List.length_eq_two.mp h.checksum.left with ⟨a, b, hchecksum⟩
    refine ⟨b, ?_, ?_⟩
    · have hline : exists front,
          buildStarlinkLine options = front ++ [b] := by
        refine ⟨options.headText ++ slu ++ utf16 options.deviceId ++ [comma] ++
          utf16 options.messageType.text ++ [comma] ++
          utf16 options.messageIndex.text ++ [comma] ++ options.data ++
          [star, a], ?_⟩
        simp [buildStarlinkLine, hchecksum]
      rcases hline with ⟨front, hline⟩
      rw [hline, List.getLast?_concat]
    · have hall := h.checksum.right
      rw [hchecksum, List.all_eq_true] at hall
      apply isSpaceUnit_of_hex
      apply hall
      simp
  rcases hfront with ⟨front, hfront, hfrontSpace⟩
  rcases hback with ⟨back, hback, hbackSpace⟩
  exact trimUnits_eq_self hfront hback hfrontSpace hbackSpace

theorem parseFrame_buildStarlinkLine (h : options.Valid)
    (formatTags : List String) :
    exists parsed,
      parseFrame (buildStarlinkLine options) formatTags = Except.ok parsed ∧
        parsed.header =
          { head := options.headText
            deviceId := options.deviceId
            messageType := options.messageType
            messageIndex := options.messageIndex
            checksumHex := options.checksum } ∧
        parsed.rawData = options.data := by
  have htext : trimUnits (buildStarlinkLine options) = h.line.text := by
    rw [trimUnits_buildStarlinkLine h, buildStarlinkLine_eq h]
  rcases parseFrame_of_text htext with ⟨parsed, hparse, hheader, hdata, _⟩
  refine ⟨parsed, hparse, ?_, hdata⟩
  have hid := asciiString_utf16 (bmp_of_all_hex h.deviceId.all_hex)
  have hchecksum := asciiString_utf16 (bmp_of_all_hex h.checksum.right)
  rw [hheader]
  simp only [SluLine.header, BuildStarlinkLineOptions.Valid.line,
    toList_headText h, hid, hchecksum, (readBack h.messageType).right,
    (readBack h.messageIndex).right]

end Built

/--
A line is accepted if and only if it has the parts of an SLU line once it is
trimmed, and then it has them in one way only, and they are what is returned.
So a line built from a valid description is parsed into that description.
-/
theorem parseFrame_grammar (formatTags : List String) :
    (forall line : Utf16,
      (exists parsed, parseFrame line formatTags = Except.ok parsed) <->
        exists l : SluLine, trimUnits line = l.text) ∧
    (forall l l' : SluLine, l.text = l'.text -> l = l') ∧
    (forall (line : Utf16) (l : SluLine), trimUnits line = l.text ->
      exists parsed, parseFrame line formatTags = Except.ok parsed ∧
        parsed.header = l.header ∧ parsed.rawData = l.data) ∧
    forall options : BuildStarlinkLineOptions, options.Valid ->
      exists parsed,
        parseFrame (buildStarlinkLine options) formatTags =
            Except.ok parsed ∧
          parsed.header =
            { head := options.headText
              deviceId := options.deviceId
              messageType := options.messageType
              messageIndex := options.messageIndex
              checksumHex := options.checksum } ∧
          parsed.rawData = options.data := by
  refine ⟨?_, fun _ _ => SluLine.text_injective, ?_, ?_⟩
  · intro line
    constructor
    · rintro ⟨parsed, hparse⟩
      exact exists_text_of_parseFrame hparse
    · rintro ⟨l, htext⟩
      rcases parseFrame_of_text htext with ⟨parsed, hparse, _⟩
      exact ⟨parsed, hparse⟩
  · intro line l htext
    rcases parseFrame_of_text htext with ⟨parsed, hparse, hheader, hdata, _⟩
    exact ⟨parsed, hparse, hheader, hdata⟩
  · intro options h
    exact parseFrame_buildStarlinkLine h formatTags

def starredOptions : BuildStarlinkLineOptions where
  deviceId := "356938"
  messageType := 6
  messageIndex := 42
  data := utf16 "a*00,b"
  checksumHex := some "A3"

theorem starredOptions_valid : starredOptions.Valid where
  head := Or.inr ⟨0x21, rfl, by decide⟩
  deviceId := Or.inl (by decide)
  messageType := ⟨6, by decide, rfl⟩
  messageIndex := ⟨42, by decide, rfl⟩
  data := by decide
  checksum := by decide

theorem parseFrame_grammar_starred :
    exists parsed,
      parseFrame (buildStarlinkLine starredOptions)
          defaultStarlinkFormatTags = Except.ok parsed ∧
        parsed.header.messageIndex = 42 ∧
        parsed.rawData = utf16 "a*00,b" := by
  rcases (parseFrame_grammar defaultStarlinkFormatTags).right.right.right
    starredOptions starredOptions_valid with ⟨parsed, hparse, hheader, hdata⟩
  refine ⟨parsed, hparse, ?_, hdata⟩
  rw [hheader]
  rfl

end Starlink
end AvtTracker
