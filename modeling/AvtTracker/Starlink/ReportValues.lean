import AvtTracker.Foundation.CalendarFields
import AvtTracker.Foundation.SignedNumerals
import AvtTracker.Foundation.Utf8Encoding
import AvtTracker.Starlink.Coordinates

/-!
# Values of an event report

What the fields of an event report are written from: an instant, an integer, a
decimal number, a coordinate or a text.  Each is written without a comma, so that
a field ends where it should, and is read back by the decoder of its tag.
-/

namespace AvtTracker
namespace Starlink

open Foundation

/-- What may stand in a field: neither a comma nor the end of a line. -/
def isFieldUnit (unit : UInt16) : Bool :=
  isDot unit && unit != comma

/-- A field that is not left empty. -/
structure WellWritten (text : Utf16) : Prop where
  ne_nil : text ≠ []
  units : text.all isFieldUnit = true
  noLoneSurrogate : wellFormed text = true

/-!
## Instants
-/

/-- A whole second of the years two digits name. -/
structure Timestamp where
  time : Int
  second : time % 1000 = 0
  century : 2000 ≤ Date.getUTCFullYear time ∧ Date.getUTCFullYear time ≤ 2099

def digitPair (n : Int) : Utf16 :=
  [UInt16.ofNat (48 + n.toNat / 10), UInt16.ofNat (48 + n.toNat % 10)]

namespace Timestamp

def text (t : Timestamp) : Utf16 :=
  digitPair (Date.getUTCFullYear t.time - 2000) ++
    digitPair (Date.getUTCMonth t.time + 1) ++
    digitPair (Date.getUTCDate t.time) ++ digitPair (Date.getUTCHours t.time) ++
    digitPair (Date.getUTCMinutes t.time) ++
    digitPair (Date.getUTCSeconds t.time)

end Timestamp

/-!
## Numbers
-/

def signText : NumeralSign -> Utf16
  | NumeralSign.unsigned => []
  | NumeralSign.plus => [0x2b]
  | NumeralSign.minus => [0x2d]

/-- An integer, of any length. -/
structure IntegerNumeral where
  sign : NumeralSign
  digits : Utf16
  digits_valid : digits ≠ [] ∧ digits.all isDigitUnit = true

namespace IntegerNumeral

def text (n : IntegerNumeral) : Utf16 :=
  signText n.sign ++ n.digits

def value (n : IntegerNumeral) : Int :=
  n.sign.apply (digitsValue (chars n.digits) : Int)

def number (n : IntegerNumeral) : JsNumber :=
  JsNumber.ofInt n.value

end IntegerNumeral

/-- A decimal number; the point is left out where nothing is behind it. -/
structure DecimalNumeral where
  sign : NumeralSign
  whole : Utf16
  fraction : Utf16
  whole_valid : whole ≠ [] ∧ whole.all isDigitUnit = true
  fraction_valid : fraction.all isDigitUnit = true

namespace DecimalNumeral

def fractionText (x : DecimalNumeral) : Utf16 :=
  if x.fraction = [] then [] else point :: x.fraction

def text (x : DecimalNumeral) : Utf16 :=
  signText x.sign ++ (x.whole ++ x.fractionText)

def magnitude (x : DecimalNumeral) : Rat :=
  digitsValue (chars x.whole) +
    digitsValue (chars x.fraction) / 10 ^ x.fraction.length

def value (x : DecimalNumeral) : Rat :=
  x.sign.apply x.magnitude

def number (x : DecimalNumeral) : JsNumber :=
  JsNumber.ofRat x.value

def thousandfold (x : DecimalNumeral) : JsNumber :=
  (x.number.scale 1000).round

end DecimalNumeral

/-- A coordinate as it is computed: the double of its degrees and that of its
minutes, divided and added. -/
def Coordinate.number (c : Coordinate) : JsNumber :=
  combined JsNumber.ofRat c.text
    (JsNumber.ofRat (digitsValue (chars c.degrees)))
    (JsNumber.ofRat c.minutesValue)

/-- A text of its own, the destination. -/
structure FieldText where
  text : Utf16
  wellWritten : WellWritten text

/-!
## Reading them back
-/

section Numerals

theorem chars_signText (sign : NumeralSign) :
    chars (signText sign) = sign.chars := by
  cases sign <;> rfl

theorem chars_append (front back : Utf16) :
    chars (front ++ back) = chars front ++ chars back :=
  List.map_append

theorem parseStrictInt_text (n : IntegerNumeral) :
    parseStrictInt n.text = Except.ok n.number := by
  have hread := parseIntNumber_signed n.sign
    (chars_ne_nil n.digits_valid.left)
    (List.all_eq_true.mpr (isDigit_of_mem_chars n.digits_valid.right))
  have hnan : n.number ≠ JsNumber.nan := JsNumber.ofRat_ne_nan _
  simp only [parseStrictInt, IntegerNumeral.text, chars_append, chars_signText,
    hread]
  exact if_neg hnan

theorem parseFloatWith_text (x : DecimalNumeral) (round : Rat -> JsNumber) :
    parseFloatWith round (chars x.text) = round x.value := by
  have hwhole := isDigit_of_mem_chars x.whole_valid.right
  have hne := chars_ne_nil x.whole_valid.left
  have hstart : startsDigit (chars (x.whole ++ x.fractionText)) = true := by
    rw [chars_append]
    exact startsDigit_append (startsDigit_of_digits hne hwhole) _
  have hread : parseFloatWith JsNumber.finite
      (chars (x.whole ++ x.fractionText)) = JsNumber.finite x.magnitude := by
    unfold DecimalNumeral.fractionText DecimalNumeral.magnitude
    by_cases hfraction : x.fraction = []
    · rw [if_pos hfraction, List.append_nil,
        parseFloatWith_digits JsNumber.finite hne hwhole, hfraction]
      simp [chars, digitsValue]
    · rw [if_neg hfraction, chars_append]
      have hpoint := parseFloatWith_point JsNumber.finite hne hwhole
        (isDigit_of_mem_chars x.fraction_valid)
      rw [show (chars x.fraction).length = x.fraction.length from
        List.length_map _] at hpoint
      exact hpoint
  have hsigned := parseFloatWith_signed x.sign hstart hread round
  rw [← chars_signText, ← chars_append] at hsigned
  exact hsigned

theorem parseStrictFloat_text (x : DecimalNumeral) :
    parseStrictFloat x.text = Except.ok x.number := by
  have hread := parseFloatWith_text x JsNumber.ofRat
  rw [← parseFloat_eq] at hread
  have hnan : x.number ≠ JsNumber.nan := JsNumber.ofRat_ne_nan _
  simp only [parseStrictFloat, hread]
  exact if_neg hnan

theorem parseStarlinkCoordinate_text (c : Coordinate) :
    parseStarlinkCoordinate c.text = Except.ok c.number := by
  rw [parseStarlinkCoordinate_eq]
  exact coordinateWith_text c JsNumber.ofRat_ne_nan

end Numerals

section Instants

theorem digitPair_spec {n : Int} (hlo : 0 ≤ n) (hhi : n < 100) :
    (digitsValue (chars (digitPair n)) : Int) = n ∧
      (digitPair n).all isDigitUnit = true := by
  have htable : forall k, k < 100 ->
      digitsValue (chars (digitPair (k : Nat))) = k ∧
        (digitPair (k : Nat)).all isDigitUnit = true := by
    decide +kernel
  have hvalue := htable n.toNat (by lia)
  rw [Int.toNat_of_nonneg hlo] at hvalue
  refine ⟨?_, hvalue.right⟩
  rw [hvalue.left, Int.toNat_of_nonneg hlo]

variable (t : Timestamp)

theorem Timestamp.components :
    (2000 ≤ Date.getUTCFullYear t.time ∧ Date.getUTCFullYear t.time ≤ 2099) ∧
      (0 ≤ Date.getUTCMonth t.time ∧ Date.getUTCMonth t.time ≤ 11) ∧
      (1 ≤ Date.getUTCDate t.time ∧ Date.getUTCDate t.time ≤ 31) ∧
      (0 ≤ Date.getUTCHours t.time ∧ Date.getUTCHours t.time ≤ 23) ∧
      (0 ≤ Date.getUTCMinutes t.time ∧ Date.getUTCMinutes t.time ≤ 59) ∧
      0 ≤ Date.getUTCSeconds t.time ∧ Date.getUTCSeconds t.time ≤ 59 := by
  have hcalendar := Calendar.month_date_bounds (t.time / Calendar.msPerDay)
  have hclock := Date.clock_bounds t.time
  exact ⟨t.century, hcalendar.left, hcalendar.right, hclock⟩

theorem Timestamp.utc_eq :
    Date.utc (Date.getUTCFullYear t.time) (Date.getUTCMonth t.time)
      (Date.getUTCDate t.time) (Date.getUTCHours t.time)
      (Date.getUTCMinutes t.time) (Date.getUTCSeconds t.time) =
        some t.time := by
  rcases t.components with ⟨hyear, hmonth, hdate, hhour, hminute, hsecond⟩
  have hutc := Date.utc_components t.second (by lia)
  have hexists : exists s, Date.utc (Date.getUTCFullYear t.time)
      (Date.getUTCMonth t.time) (Date.getUTCDate t.time)
      (Date.getUTCHours t.time) (Date.getUTCMinutes t.time)
      (Date.getUTCSeconds t.time) = some s := by
    apply Date.exists_utc <;> constructor <;> lia
  rcases hexists with ⟨s, hs⟩
  rw [hs] at hutc
  rw [hs, Date.eq_of_timeClip hutc.symm]

theorem Timestamp.digits : t.text.length = 12 ∧ t.text.all isDigitUnit = true := by
  rcases t.components with ⟨hyear, hmonth, hdate, hhour, hminute, hsecond⟩
  constructor
  · rfl
  · unfold Timestamp.text
    simp only [List.all_append, Bool.and_eq_true]
    refine ⟨⟨⟨⟨⟨?_, ?_⟩, ?_⟩, ?_⟩, ?_⟩, ?_⟩
    all_goals exact (digitPair_spec (by lia) (by lia)).right

theorem parseStarlinkDateTime_text :
    parseStarlinkDateTime t.text = some { time := some t.time } := by
  rcases t.components with ⟨hyear, hmonth, hdate, hhour, hminute, hsecond⟩
  have hpair : forall {n : Int}, 0 ≤ n -> n < 100 ->
      (digitsValue (chars (digitPair n)) : Int) = n :=
    fun hlo hhi => (digitPair_spec hlo hhi).left
  -- Each pair of digits stands where its component is looked for.
  have hfields : twoDigits t.text 0 = Date.getUTCFullYear t.time - 2000 ∧
      twoDigits t.text 2 = Date.getUTCMonth t.time + 1 ∧
      twoDigits t.text 4 = Date.getUTCDate t.time ∧
      twoDigits t.text 6 = Date.getUTCHours t.time ∧
      twoDigits t.text 8 = Date.getUTCMinutes t.time ∧
      twoDigits t.text 10 = Date.getUTCSeconds t.time := by
    refine ⟨?_, ?_, ?_, ?_, ?_, ?_⟩
    all_goals exact hpair (by lia) (by lia)
  rcases hfields with ⟨h0, h2, h4, h6, h8, h10⟩
  have hutc := t.utc_eq
  unfold parseStarlinkDateTime
  rw [if_pos t.digits, h0, h2, h4, h6, h8, h10, Int.add_sub_cancel,
    show 2000 + (Date.getUTCFullYear t.time - 2000) =
      Date.getUTCFullYear t.time by lia, hutc]

end Instants

/-!
## What is written
-/

section Written

/-- Numerals are of digits, signs and a point. -/
def isNumeralUnit (unit : UInt16) : Bool :=
  isDigitUnit unit || [0x2b, 0x2d, point].contains unit

theorem isNumeralUnit_bounds {unit : UInt16} (h : isNumeralUnit unit = true) :
    unit.toNat < 0x40 ∧ isFieldUnit unit = true := by
  have hsmall : unit.toNat < 0x40 := by
    rcases Bool.or_eq_true_iff.mp h with hdigit | hother
    · have hbounds := isDigitUnit_iff.mp hdigit
      lia
    · simp only [List.contains_iff_mem, List.mem_cons, List.not_mem_nil,
        or_false] at hother
      rcases hother with rfl | rfl | rfl <;> decide
  refine ⟨hsmall, ?_⟩
  have htable : forall n, n < 0x40 -> isNumeralUnit (UInt16.ofNat n) = true ->
      isFieldUnit (UInt16.ofNat n) = true := by
    decide +kernel
  have hunit := htable unit.toNat hsmall
  rw [UInt16.ofNat_toNat] at hunit
  exact hunit h

theorem wellWritten_of_numeral {text : Utf16} (hne : text ≠ [])
    (h : text.all isNumeralUnit = true) : WellWritten text where
  ne_nil := hne
  units := List.all_eq_true.mpr fun unit hunit =>
    (isNumeralUnit_bounds (List.all_eq_true.mp h unit hunit)).right
  noLoneSurrogate := wellFormed_of_forall fun unit hunit => by
    have hbounds := isNumeralUnit_bounds (List.all_eq_true.mp h unit hunit)
    exact isSurrogate_eq_false_iff.mpr (Or.inl (by lia))

theorem all_numeral_of_digits {digits : Utf16}
    (h : digits.all isDigitUnit = true) : digits.all isNumeralUnit = true := by
  rw [List.all_eq_true] at h ⊢
  intro unit hunit
  rw [isNumeralUnit, h unit hunit, Bool.true_or]

theorem all_numeral_signText (sign : NumeralSign) :
    (signText sign).all isNumeralUnit = true := by
  cases sign <;> decide

theorem append_ne_nil {front back : Utf16} (h : back ≠ []) :
    front ++ back ≠ [] :=
  fun hnil => h (List.append_eq_nil_iff.mp hnil).right

theorem Timestamp.wellWritten (t : Timestamp) : WellWritten t.text := by
  apply wellWritten_of_numeral
  · intro hnil
    have hlength := t.digits.left
    rw [hnil] at hlength
    cases hlength
  · exact all_numeral_of_digits t.digits.right

theorem IntegerNumeral.wellWritten (n : IntegerNumeral) :
    WellWritten n.text := by
  apply wellWritten_of_numeral
  · exact append_ne_nil n.digits_valid.left
  · rw [IntegerNumeral.text, List.all_append, all_numeral_signText,
      all_numeral_of_digits n.digits_valid.right]
    rfl

theorem DecimalNumeral.all_fractionText (x : DecimalNumeral) :
    x.fractionText.all isNumeralUnit = true := by
  unfold DecimalNumeral.fractionText
  split_ifs
  · rfl
  · rw [List.all_cons, all_numeral_of_digits x.fraction_valid]
    rfl

theorem DecimalNumeral.wellWritten (x : DecimalNumeral) :
    WellWritten x.text := by
  apply wellWritten_of_numeral
  · intro hnil
    have hwhole := (List.append_eq_nil_iff.mp hnil).right
    exact x.whole_valid.left (List.append_eq_nil_iff.mp hwhole).left
  · rw [DecimalNumeral.text, List.all_append, List.all_append,
      all_numeral_signText, all_numeral_of_digits x.whole_valid.right,
      x.all_fractionText]
    rfl

theorem Coordinate.wellWritten (c : Coordinate) : WellWritten c.text := by
  have hsign : isNumeralUnit (if c.negative then 0x2d else 0x2b) = true := by
    cases c.negative <;> decide
  apply wellWritten_of_numeral
  · exact List.cons_ne_nil _ _
  · rw [Coordinate.text, List.all_cons, List.all_append, List.all_append,
      List.all_cons, hsign, all_numeral_of_digits c.degrees_valid.right,
      all_numeral_of_digits c.minutes_valid.right,
      all_numeral_of_digits c.fraction_valid]
    rfl

end Written

end Starlink
end AvtTracker
