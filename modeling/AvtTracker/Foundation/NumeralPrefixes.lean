import AvtTracker.Foundation.Numerals

/-!
# Texts that begin with a number

{lit}`parseInt` and {lit}`parseFloat` look at the start of a text only.  Whether
they find a number there is a property of its first characters; the rounding of
what they find is a parameter here.
-/

namespace AvtTracker
namespace Foundation

def unsigned (text : List Char) : List Char :=
  let trimmed := text.dropWhile isSpace
  if trimmed.head? = some '-' ∨ trimmed.head? = some '+' then trimmed.tail
  else trimmed

def startsDigit (text : List Char) : Bool :=
  text.head?.any Char.isDigit

/-- Behind white space and a sign there is a digit. -/
def StartsInteger (text : List Char) : Prop :=
  startsDigit (unsigned text) = true

/-- Behind white space and a sign there is a digit, a point and a digit, or
{lit}`Infinity`. -/
def StartsNumeral (text : List Char) : Prop :=
  "Infinity".toList <+: unsigned text ∨
    startsDigit (unsigned text) = true ∨
      (unsigned text).head? = some '.' ∧
        startsDigit (unsigned text).tail = true

instance (text : List Char) : Decidable (StartsInteger text) :=
  inferInstanceAs (Decidable (_ = _))

instance (text : List Char) : Decidable (StartsNumeral text) :=
  inferInstanceAs (Decidable (_ ∨ _))

/-- The digits in front of a point. -/
def wholeDigits (text : List Char) : List Char :=
  text.takeWhile Char.isDigit

/-- The digits behind a point. -/
def fractionDigits (text : List Char) : List Char :=
  let rest := text.dropWhile Char.isDigit
  if rest.head? = some '.' then rest.tail.takeWhile Char.isDigit else []

def behindDigits (text : List Char) : List Char :=
  let rest := text.dropWhile Char.isDigit
  if rest.head? = some '.' then rest.tail.dropWhile Char.isDigit else rest

/-- {lit}`parseFloat` with any rounding. -/
def parseFloatWith (round : Rat -> JsNumber) (text : List Char) : JsNumber :=
  let negative := decide ((text.dropWhile isSpace).head? = some '-')
  let whole := wholeDigits (unsigned text)
  let fraction := fractionDigits (unsigned text)
  if "Infinity".toList.isPrefixOf (unsigned text) then
    JsNumber.infinity negative
  else if whole = [] ∧ fraction = [] then JsNumber.nan
  else
    let magnitude := (digitsValue (whole ++ fraction) : Rat) *
      (10 : Rat) ^ (exponentAhead (behindDigits (unsigned text)) -
        (fraction.length : Int))
    round (if negative then -magnitude else magnitude)

theorem parseFloat_eq (text : List Char) :
    parseFloat text = parseFloatWith JsNumber.ofRat text :=
  rfl

/-!
## Texts that are a number
-/

def stripSign : List Char -> List Char
  | '-' :: rest => rest
  | '+' :: rest => rest
  | text => text

/-- Digits behind an optional sign, and nothing else. -/
def IntegerText (text : List Char) : Prop :=
  stripSign text ≠ [] ∧ (stripSign text).all Char.isDigit = true

/-- The double nearest to a decimal literal behind an optional sign. -/
def decimalValue : List Char -> Option Rat
  | '-' :: rest => (decimalLiteral rest).bind (fun v => finite (-v))
  | '+' :: rest => (decimalLiteral rest).bind finite
  | text => (decimalLiteral text).bind finite

/-- A decimal literal of finite value behind an optional sign, and nothing
else. -/
def DecimalText (text : List Char) : Prop :=
  (decimalValue text).isSome = true

instance (text : List Char) : Decidable (IntegerText text) :=
  inferInstanceAs (Decidable (_ ∧ _))

instance (text : List Char) : Decidable (DecimalText text) :=
  inferInstanceAs (Decidable (_ = _))

/-!
## When there is no number
-/

theorem wholeDigits_eq_nil {text : List Char} :
    wholeDigits text = [] <-> startsDigit text = false := by
  cases text with
  | nil => simp [startsDigit, wholeDigits]
  | cons c rest => simp [startsDigit, wholeDigits]

theorem dropWhile_of_startsDigit {text : List Char}
    (h : startsDigit text = false) : text.dropWhile Char.isDigit = text := by
  cases text with
  | nil => rfl
  | cons c rest =>
      apply List.dropWhile_cons_of_neg
      simpa [startsDigit] using h

theorem fractionDigits_eq_nil {text : List Char}
    (h : startsDigit text = false) :
    fractionDigits text = [] <->
      ¬ (text.head? = some '.' ∧ startsDigit text.tail = true) := by
  simp only [fractionDigits, dropWhile_of_startsDigit h]
  by_cases hpoint : text.head? = some '.'
  · rw [if_pos hpoint]
    have htail : wholeDigits text.tail = [] <-> _ := wholeDigits_eq_nil
    rw [wholeDigits] at htail
    rw [htail]
    simp only [hpoint, true_and, Bool.not_eq_true]
  · simp [hpoint]

theorem parseInt_eq_none_iff {text : List Char} :
    parseInt text = none <-> ¬ StartsInteger text := by
  have hdigits : wholeDigits (unsigned text) = [] <-> _ := wholeDigits_eq_nil
  rw [StartsInteger, Bool.not_eq_true, ← hdigits]
  unfold parseInt
  constructor
  · intro h
    rcases ite_eq_iff.mp h with ⟨hnil, _⟩ | ⟨_, hsome⟩
    · exact hnil
    · cases hsome
  · intro h
    exact if_pos h

theorem JsNumber.ofRat_ne_nan (value : Rat) :
    JsNumber.ofRat value ≠ JsNumber.nan := by
  intro h
  unfold JsNumber.ofRat at h
  rcases ite_eq_iff.mp h with ⟨_, hc⟩ | ⟨_, h⟩
  · cases hc
  · rcases ite_eq_iff.mp h with ⟨_, hc⟩ | ⟨_, hc⟩
    · cases hc
    · cases hc

theorem parseIntNumber_eq_nan_iff {text : List Char} :
    parseIntNumber text = JsNumber.nan <-> ¬ StartsInteger text := by
  rw [← parseInt_eq_none_iff, parseIntNumber]
  cases parseInt text with
  | none => simp
  | some value =>
      constructor
      · intro h
        exact absurd h (JsNumber.ofRat_ne_nan _)
      · intro h
        cases h

/-- Whatever the rounding, the outcome is a number when the text begins with
one. -/
theorem parseFloatWith_eq_nan_iff {round : Rat -> JsNumber}
    (hround : forall value, round value ≠ JsNumber.nan) {text : List Char} :
    parseFloatWith round text = JsNumber.nan <-> ¬ StartsNumeral text := by
  have hleads : ("Infinity".toList.isPrefixOf (unsigned text)) = true <->
      "Infinity".toList <+: unsigned text := List.isPrefixOf_iff_prefix
  simp only [parseFloatWith, StartsNumeral]
  by_cases hinfinity : "Infinity".toList <+: unsigned text
  · rw [if_pos (hleads.mpr hinfinity)]
    constructor
    · intro h
      cases h
    · intro h
      exact absurd (Or.inl hinfinity) h
  · rw [if_neg (fun h => hinfinity (hleads.mp h))]
    cases hdigit : startsDigit (unsigned text) with
    | true =>
        have hwhole : wholeDigits (unsigned text) ≠ [] := by
          simp [wholeDigits_eq_nil, hdigit]
        simp [hwhole, hround]
    | false =>
        simp only [wholeDigits_eq_nil.mpr hdigit, fractionDigits_eq_nil hdigit,
          true_and, hinfinity, false_or, Bool.false_eq_true]
        split
        · next h => simp [h]
        · next h => simp [h, hround]

theorem parseFloat_eq_nan_iff {text : List Char} :
    parseFloat text = JsNumber.nan <-> ¬ StartsNumeral text := by
  rw [parseFloat_eq]
  exact parseFloatWith_eq_nan_iff JsNumber.ofRat_ne_nan

/-!
## Digits with a point
-/

section Digits

variable {whole fraction : List Char}

theorem startsDigit_of_digits (hne : whole ≠ [])
    (h : forall c, c ∈ whole -> c.isDigit = true) :
    startsDigit whole = true := by
  cases whole with
  | nil => exact absurd rfl hne
  | cons c digits => exact h c List.mem_cons_self

theorem startsDigit_append (h : startsDigit whole = true)
    (rest : List Char) : startsDigit (whole ++ rest) = true := by
  cases whole with
  | nil => cases h
  | cons c digits => exact h

theorem unsigned_of_startsDigit {text : List Char}
    (h : startsDigit text = true) :
    unsigned text = text ∧ (text.dropWhile isSpace).head? ≠ some '-' := by
  cases text with
  | nil => cases h
  | cons c rest =>
      have hc : c.isDigit = true := h
      have hminus : c ≠ '-' := by
        rintro rfl
        cases hc
      have hplus : c ≠ '+' := by
        rintro rfl
        cases hc
      have htrim : (c :: rest).dropWhile isSpace = c :: rest :=
        List.dropWhile_cons_of_neg (by rw [isSpace_of_isDigit hc]; simp)
      simp [unsigned, htrim, hminus, hplus]

theorem startsNumeral_of_startsDigit {text : List Char}
    (h : startsDigit text = true) : StartsNumeral text := by
  apply Or.inr
  apply Or.inl
  rw [(unsigned_of_startsDigit h).left]
  exact h

theorem parseFloatWith_of_startsDigit (round : Rat -> JsNumber)
    {text : List Char} (h : startsDigit text = true) :
    parseFloatWith round text =
      round ((digitsValue (wholeDigits text ++ fractionDigits text) : Rat) *
        (10 : Rat) ^ (exponentAhead (behindDigits text) -
          ((fractionDigits text).length : Int))) := by
  rcases unsigned_of_startsDigit h with ⟨hunsigned, hminus⟩
  have hwhole : wholeDigits text ≠ [] := by
    intro hnil
    rw [wholeDigits_eq_nil.mp hnil] at h
    cases h
  have hinfinity : ¬ "Infinity".toList.isPrefixOf text = true := by
    intro hleads
    rcases List.isPrefixOf_iff_prefix.mp hleads with ⟨rest, rfl⟩
    simp [startsDigit] at h
  simp only [parseFloatWith, hunsigned]
  rw [if_neg hinfinity,
    if_neg (fun hnil => hwhole hnil.left), if_neg (by simpa using hminus)]

theorem parseFloatWith_digits (round : Rat -> JsNumber) (hne : whole ≠ [])
    (h : forall c, c ∈ whole -> c.isDigit = true) :
    parseFloatWith round whole = round (digitsValue whole) := by
  have hstart := startsDigit_of_digits hne h
  have htake : whole.takeWhile Char.isDigit = whole :=
    List.takeWhile_eq_self_iff.mpr h
  have hdrop : whole.dropWhile Char.isDigit = [] :=
    List.dropWhile_eq_nil_iff.mpr h
  rw [parseFloatWith_of_startsDigit round hstart]
  simp [wholeDigits, fractionDigits, behindDigits, htake, hdrop, exponentAhead]

/-- The digits behind a point count as a fraction of the power of ten they
fill. -/
theorem parseFloatWith_point (round : Rat -> JsNumber) (hne : whole ≠ [])
    (h : forall c, c ∈ whole -> c.isDigit = true)
    (hfraction : forall c, c ∈ fraction -> c.isDigit = true) :
    parseFloatWith round (whole ++ '.' :: fraction) =
      round (digitsValue whole +
        digitsValue fraction / 10 ^ fraction.length) := by
  have hstart := startsDigit_append (startsDigit_of_digits hne h)
    ('.' :: fraction)
  have htake : (whole ++ '.' :: fraction).takeWhile Char.isDigit = whole := by
    rw [List.takeWhile_append_of_pos h]
    simp
  have hdrop : (whole ++ '.' :: fraction).dropWhile Char.isDigit =
      '.' :: fraction := by
    rw [List.dropWhile_append_of_pos h]
    simp
  have hfractionTake : fraction.takeWhile Char.isDigit = fraction :=
    List.takeWhile_eq_self_iff.mpr hfraction
  have hfractionDrop : fraction.dropWhile Char.isDigit = [] :=
    List.dropWhile_eq_nil_iff.mpr hfraction
  have hten : ((10 : Rat) ^ fraction.length) ≠ 0 := by
    apply pow_ne_zero
    decide
  rw [parseFloatWith_of_startsDigit round hstart]
  simp only [wholeDigits, fractionDigits, behindDigits, htake, hdrop,
    List.head?_cons, List.tail_cons, if_true, hfractionTake, hfractionDrop,
    exponentAhead]
  rw [digitsValue_append, zero_sub, zpow_neg, zpow_natCast, ← div_eq_mul_inv,
    Nat.cast_add, Nat.cast_mul, Nat.cast_pow, add_div, Nat.cast_ofNat,
    mul_div_assoc, div_self hten, mul_one]

end Digits

end Foundation
end AvtTracker
