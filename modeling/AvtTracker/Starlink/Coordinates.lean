import AvtTracker.Foundation.NumeralPrefixes
import AvtTracker.Starlink.ParseFrame

/-!
# Coordinates

A coordinate is a sign, the digits of its degrees, two digits of minutes, a
point, and the digits of a fraction of a minute.  The decoder cuts a value two
characters in front of its first point and reads the number each part begins
with; the first character is taken for a sign whatever it is.
-/

namespace AvtTracker
namespace Starlink

open Foundation

def point : UInt16 := 0x2e

/-- A coordinate in its parts. -/
structure Coordinate where
  negative : Bool
  degrees : Utf16
  minutes : Utf16
  fraction : Utf16
  degrees_valid : degrees ≠ [] ∧ degrees.all isDigitUnit = true
  minutes_valid : minutes.length = 2 ∧ minutes.all isDigitUnit = true
  fraction_valid : fraction.all isDigitUnit = true

namespace Coordinate

def text (c : Coordinate) : Utf16 :=
  (if c.negative then 0x2d else 0x2b) ::
    (c.degrees ++ (c.minutes ++ point :: c.fraction))

def minutesValue (c : Coordinate) : Rat :=
  digitsValue (chars c.minutes) +
    digitsValue (chars c.fraction) / 10 ^ c.fraction.length

def value (c : Coordinate) : Rat :=
  let magnitude := digitsValue (chars c.degrees) + c.minutesValue / 60
  if c.negative then -magnitude else magnitude

end Coordinate

/-- {lit}`parseStarlinkCoordinate` with any rounding of numbers. -/
def coordinateWith (rounding : Rat -> JsNumber) (value : Utf16) :
    Except TagError JsNumber :=
  match value.findIdx? (fun unit => unit == point) with
  | none => Except.error (TagError.noDecimalPoint value)
  | some dotIndex =>
      if dotIndex < 3 then Except.error (TagError.tooShort value)
      else
        let minutesIndex := dotIndex - 2
        let degrees := parseFloatWith rounding
          (chars ((value.take minutesIndex).drop 1))
        let minutes := parseFloatWith rounding
          (chars (value.drop minutesIndex))
        if degrees = JsNumber.nan ∨ minutes = JsNumber.nan then
          Except.error (TagError.notNumeric value)
        else
          let result := JsNumber.addWith rounding degrees
            (JsNumber.scaleWith rounding (1 / 60) minutes)
          Except.ok (if value.head? = some 0x2b then result else result.neg)

theorem parseStarlinkCoordinate_eq (value : Utf16) :
    parseStarlinkCoordinate value = coordinateWith JsNumber.ofRat value := by
  unfold parseStarlinkCoordinate coordinateWith point
  cases value.findIdx? (fun unit => unit == 0x2e) with
  | none => rfl
  | some dotIndex =>
      simp only [JsNumber.add_eq, JsNumber.scale_eq, parseFloat_eq]

/-- The value is accepted exactly if it is a coordinate, and is then, in exact
arithmetic, what the coordinate stands for. -/
def ReadsCoordinate (value : Utf16) : Prop :=
  ((exists result, parseStarlinkCoordinate value = Except.ok result) <->
      exists c : Coordinate, c.text = value) ∧
    forall c : Coordinate, c.text = value ->
      coordinateWith JsNumber.finite value =
        Except.ok (JsNumber.finite c.value)

/-!
## Where a value is cut
-/

def degreesPart (value : Utf16) (dotIndex : Nat) : Utf16 :=
  (value.take (dotIndex - 2)).drop 1

def minutesPart (value : Utf16) (dotIndex : Nat) : Utf16 :=
  value.drop (dotIndex - 2)

/-- Both parts begin with a number. -/
structure BeginsNumbers (value : Utf16) (dotIndex : Nat) : Prop where
  dotIndex_eq : value.findIdx? (fun unit => unit == point) = some dotIndex
  three_le : 3 ≤ dotIndex
  degrees : StartsNumeral (chars (degreesPart value dotIndex))
  minutes : StartsNumeral (chars (minutesPart value dotIndex))

/-- There is a sign in front, and both parts are of digits only. -/
structure PlainDigits (value : Utf16) (dotIndex : Nat) : Prop where
  sign : value.head? = some 0x2b ∨ value.head? = some 0x2d
  degrees : (degreesPart value dotIndex).all isDigitUnit = true
  minutes : ((minutesPart value dotIndex).take 2).all isDigitUnit = true
  fraction : ((minutesPart value dotIndex).drop 3).all isDigitUnit = true

section Accepted

variable {rounding : Rat -> JsNumber} {value : Utf16} {dotIndex : Nat}

/-- What a value both of whose parts are numbers is read as. -/
def combined (rounding : Rat -> JsNumber) (value : Utf16)
    (degrees minutes : JsNumber) : JsNumber :=
  let result := JsNumber.addWith rounding degrees
    (JsNumber.scaleWith rounding (1 / 60) minutes)
  if value.head? = some 0x2b then result else result.neg

theorem coordinateWith_of_begins
    (hround : forall x, rounding x ≠ JsNumber.nan)
    (h : BeginsNumbers value dotIndex) :
    coordinateWith rounding value = Except.ok (combined rounding value
      (parseFloatWith rounding (chars (degreesPart value dotIndex)))
      (parseFloatWith rounding (chars (minutesPart value dotIndex)))) := by
  have hnan : ¬ (parseFloatWith rounding (chars (degreesPart value dotIndex)) =
        JsNumber.nan ∨
      parseFloatWith rounding (chars (minutesPart value dotIndex)) =
        JsNumber.nan) := by
    rw [parseFloatWith_eq_nan_iff hround, parseFloatWith_eq_nan_iff hround]
    intro hor
    cases hor with
    | inl hdegrees => exact hdegrees h.degrees
    | inr hminutes => exact hminutes h.minutes
  unfold coordinateWith
  rw [h.dotIndex_eq]
  dsimp only
  rw [if_neg (Nat.not_lt.mpr h.three_le)]
  exact if_neg hnan

theorem begins_of_coordinateWith {result : JsNumber}
    (hround : forall x, rounding x ≠ JsNumber.nan)
    (h : coordinateWith rounding value = Except.ok result) :
    exists dotIndex, BeginsNumbers value dotIndex := by
  unfold coordinateWith at h
  cases hdot : value.findIdx? (fun unit => unit == point) with
  | none =>
      rw [hdot] at h
      cases h
  | some dotIndex =>
      rw [hdot] at h
      rcases ite_eq_iff.mp h with ⟨_, h⟩ | ⟨hthree, h⟩
      · cases h
      · rcases ite_eq_iff.mp h with ⟨_, h⟩ | ⟨hnan, _⟩
        · cases h
        · rw [parseFloatWith_eq_nan_iff hround,
            parseFloatWith_eq_nan_iff hround, not_or, not_not, not_not] at hnan
          exact ⟨dotIndex, hdot, Nat.not_lt.mp hthree, hnan.left, hnan.right⟩

end Accepted

/-!
## Coordinates are cut into their parts
-/

section Text

variable (c : Coordinate)

theorem point_not_mem {digits : Utf16} (h : digits.all isDigitUnit = true) :
    point ∉ digits := by
  intro hmem
  cases List.all_eq_true.mp h point hmem

theorem findIdx?_text :
    c.text.findIdx? (fun unit => unit == point) =
      some (c.degrees.length + 3) := by
  have hfront : forall unit,
      unit ∈ (if c.negative then 0x2d else 0x2b) :: (c.degrees ++ c.minutes) ->
        (unit == point) = false := by
    intro unit hunit
    apply beq_false_of_ne
    rintro rfl
    rcases List.mem_cons.mp hunit with hsign | hmem
    · cases hnegative : c.negative with
      | true =>
          rw [hnegative] at hsign
          cases hsign
      | false =>
          rw [hnegative] at hsign
          cases hsign
    · cases List.mem_append.mp hmem with
      | inl hdegrees => exact point_not_mem c.degrees_valid.right hdegrees
      | inr hminutes => exact point_not_mem c.minutes_valid.right hminutes
  have htext : c.text = ((if c.negative then 0x2d else 0x2b) ::
      (c.degrees ++ c.minutes)) ++ point :: c.fraction := by
    rw [List.cons_append, List.append_assoc]
    rfl
  rw [htext, List.findIdx?_append, List.findIdx?_eq_none_iff.mpr hfront,
    List.findIdx?_cons]
  simp [c.minutes_valid.left]

theorem degreesPart_text :
    degreesPart c.text (c.degrees.length + 3) = c.degrees := by
  show ((c.degrees ++ _).take c.degrees.length) = c.degrees
  exact List.take_left

theorem minutesPart_text :
    minutesPart c.text (c.degrees.length + 3) =
      c.minutes ++ point :: c.fraction := by
  show ((c.degrees ++ _).drop c.degrees.length) = _
  exact List.drop_left

theorem chars_minutesPart_text :
    chars (minutesPart c.text (c.degrees.length + 3)) =
      chars c.minutes ++ '.' :: chars c.fraction := by
  rw [minutesPart_text, chars, List.map_append]
  rfl

theorem chars_ne_nil {digits : Utf16} (h : digits ≠ []) :
    chars digits ≠ [] := by
  intro hnil
  exact h (List.map_eq_nil_iff.mp hnil)

theorem startsDigit_chars {digits : Utf16} (hne : digits ≠ [])
    (h : digits.all isDigitUnit = true) : startsDigit (chars digits) = true :=
  startsDigit_of_digits (chars_ne_nil hne) (isDigit_of_mem_chars h)

theorem minutes_ne_nil : c.minutes ≠ [] := by
  intro hnil
  have hlength := c.minutes_valid.left
  rw [hnil] at hlength
  cases hlength

theorem plain_text : PlainDigits c.text (c.degrees.length + 3) := by
  constructor
  · unfold Coordinate.text
    cases c.negative with
    | true => exact Or.inr rfl
    | false => exact Or.inl rfl
  · rw [degreesPart_text]
    exact c.degrees_valid.right
  · rw [minutesPart_text, List.take_left' c.minutes_valid.left]
    exact c.minutes_valid.right
  · rw [minutesPart_text, List.drop_append, c.minutes_valid.left,
      List.drop_of_length_le (by rw [c.minutes_valid.left]; decide)]
    exact c.fraction_valid

theorem begins_text : BeginsNumbers c.text (c.degrees.length + 3) := by
  constructor
  · exact findIdx?_text c
  · lia
  · rw [degreesPart_text]
    exact startsNumeral_of_startsDigit (startsDigit_chars
      c.degrees_valid.left c.degrees_valid.right)
  · rw [chars_minutesPart_text]
    exact startsNumeral_of_startsDigit (startsDigit_append
      (startsDigit_chars (minutes_ne_nil c) c.minutes_valid.right) _)

theorem coordinateWith_text {rounding : Rat -> JsNumber}
    (hround : forall x, rounding x ≠ JsNumber.nan) :
    coordinateWith rounding c.text = Except.ok (combined rounding c.text
      (rounding (digitsValue (chars c.degrees))) (rounding c.minutesValue)) := by
  have hminutes := parseFloatWith_point rounding
    (chars_ne_nil (minutes_ne_nil c))
    (isDigit_of_mem_chars c.minutes_valid.right)
    (isDigit_of_mem_chars c.fraction_valid)
  rw [show (chars c.fraction).length = c.fraction.length from
    List.length_map _] at hminutes
  rw [coordinateWith_of_begins hround (begins_text c), degreesPart_text,
    chars_minutesPart_text, hminutes,
    parseFloatWith_digits rounding (chars_ne_nil c.degrees_valid.left)
      (isDigit_of_mem_chars c.degrees_valid.right)]
  rfl

theorem coordinateWith_text_finite :
    coordinateWith JsNumber.finite c.text =
      Except.ok (JsNumber.finite c.value) := by
  have hfinite : forall x, JsNumber.finite x ≠ JsNumber.nan := by
    intro x h
    cases h
  rw [coordinateWith_text c hfinite]
  have hsum : JsNumber.addWith JsNumber.finite
      (JsNumber.finite (digitsValue (chars c.degrees)))
      (JsNumber.scaleWith JsNumber.finite (1 / 60)
        (JsNumber.finite c.minutesValue)) =
      JsNumber.finite (digitsValue (chars c.degrees) + c.minutesValue / 60) := by
    show JsNumber.finite (_ + c.minutesValue * (1 / 60)) = _
    rw [mul_one_div]
  simp only [combined, hsum, Coordinate.value, Coordinate.text]
  cases c.negative with
  | true => rfl
  | false => rfl

end Text

/-!
## Which values are coordinates
-/

section Grammar

variable {value : Utf16} {dotIndex : Nat}

theorem take_point_drop (rest : Utf16) (k : Nat)
    (h : rest[k + 2]? = some point) :
    rest.take k ++ ((rest.drop k).take 2 ++ point :: (rest.drop k).drop 3) =
      rest := by
  have htail : (rest.drop k).drop 2 = point :: (rest.drop k).drop 3 := by
    apply List.drop_eq_getElem?_toList_append.trans
    rw [List.getElem?_drop, h]
    rfl
  rw [← htail, List.take_append_drop, List.take_append_drop]

theorem exists_text (h : BeginsNumbers value dotIndex)
    (hplain : PlainDigits value dotIndex) :
    exists c : Coordinate, c.text = value := by
  rcases List.findIdx?_eq_some_iff_getElem.mp h.dotIndex_eq with
    ⟨hlt, hpoint, _⟩
  rcases Nat.exists_eq_add_of_le' h.three_le with ⟨k, rfl⟩
  have hdot : value[k + 3]? = some point := by
    rw [List.getElem?_eq_getElem hlt, eq_of_beq hpoint]
  cases value with
  | nil => cases hlt
  | cons sign rest =>
      have hne : rest.take k ≠ [] := by
        intro hnil
        have hstarts : StartsNumeral (chars (rest.take k)) := h.degrees
        rw [hnil] at hstarts
        exact absurd hstarts (by decide)
      have htwo : ((rest.drop k).take 2).length = 2 := by
        rw [List.length_cons] at hlt
        rw [List.length_take, List.length_drop]
        lia
      refine ⟨{
        negative := decide (sign = 0x2d)
        degrees := rest.take k
        minutes := (rest.drop k).take 2
        fraction := (rest.drop k).drop 3
        degrees_valid := ⟨hne, hplain.degrees⟩
        minutes_valid := ⟨htwo, hplain.minutes⟩
        fraction_valid := hplain.fraction }, ?_⟩
      show (if decide (sign = 0x2d) = true then 0x2d else 0x2b) ::
        (rest.take k ++ ((rest.drop k).take 2 ++
          point :: (rest.drop k).drop 3)) = sign :: rest
      rw [take_point_drop rest k hdot]
      cases hplain.sign with
      | inl hplus =>
          rw [Option.some.inj hplus]
          rfl
      | inr hminus =>
          rw [Option.some.inj hminus]
          rfl

theorem exists_text_iff :
    (exists c : Coordinate, c.text = value) <->
      exists dotIndex, BeginsNumbers value dotIndex ∧
        PlainDigits value dotIndex := by
  constructor
  · intro ⟨c, htext⟩
    rw [← htext]
    exact ⟨_, begins_text c, plain_text c⟩
  · intro ⟨dotIndex, hbegins, hplain⟩
    exact exists_text hbegins hplain

theorem parseStarlinkCoordinate_accepts_iff :
    (exists result, parseStarlinkCoordinate value = Except.ok result) <->
      exists dotIndex, BeginsNumbers value dotIndex := by
  rw [parseStarlinkCoordinate_eq]
  constructor
  · intro ⟨result, h⟩
    exact begins_of_coordinateWith JsNumber.ofRat_ne_nan h
  · intro ⟨dotIndex, h⟩
    exact ⟨_, coordinateWith_of_begins JsNumber.ofRat_ne_nan h⟩

theorem plain_of_reads (h : ReadsCoordinate value)
    (hbegins : BeginsNumbers value dotIndex) : PlainDigits value dotIndex := by
  have haccepted := parseStarlinkCoordinate_accepts_iff.mpr ⟨_, hbegins⟩
  rcases exists_text_iff.mp (h.left.mp haccepted) with ⟨other, hother, hplain⟩
  have hsame := hbegins.dotIndex_eq
  rw [hother.dotIndex_eq] at hsame
  rw [← Option.some.inj hsame]
  exact hplain

/-- Accepted are the coordinates, and nothing else, exactly if the numbers at
the start of both parts are all there is to them. -/
theorem readsCoordinate_iff :
    ReadsCoordinate value <->
      forall dotIndex, BeginsNumbers value dotIndex ->
        PlainDigits value dotIndex := by
  constructor
  · intro h dotIndex hbegins
    exact plain_of_reads h hbegins
  · intro hall
    constructor
    · rw [parseStarlinkCoordinate_accepts_iff, exists_text_iff]
      constructor
      · intro ⟨dotIndex, hbegins⟩
        exact ⟨dotIndex, hbegins, hall dotIndex hbegins⟩
      · intro ⟨dotIndex, hbegins, _⟩
        exact ⟨dotIndex, hbegins⟩
    · intro c htext
      rw [← htext]
      exact coordinateWith_text_finite c

/-- Without a sign the first digit of the degrees is dropped. -/
theorem readsCoordinate_fails_unsigned :
    ¬ ReadsCoordinate (utf16 "3934.567890") := by
  intro h
  have hbegins : BeginsNumbers (utf16 "3934.567890") 4 :=
    ⟨by decide +kernel, by decide, by decide +kernel, by decide +kernel⟩
  have hsign := (plain_of_reads h hbegins).sign
  exact absurd hsign (by decide +kernel)

end Grammar

end Starlink
end AvtTracker
