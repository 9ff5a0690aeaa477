import AvtTracker.Foundation.NumeralPrefixes

/-!
# Numerals behind a sign

A sign in front of digits is looked at once, by integers and decimal numbers
alike, and negates what the digits say.
-/

namespace AvtTracker
namespace Foundation

/-- What may stand in front of the digits of a numeral. -/
inductive NumeralSign where
  | unsigned
  | plus
  | minus
  deriving DecidableEq, Repr

namespace NumeralSign

def chars : NumeralSign -> List Char
  | unsigned => []
  | plus => ['+']
  | minus => ['-']

def apply {α : Type} [Neg α] : NumeralSign -> α -> α
  | minus, magnitude => -magnitude
  | _, magnitude => magnitude

end NumeralSign

section Signed

variable {text : List Char}

theorem dropWhile_sign {c : Char} (hc : c = '+' ∨ c = '-') :
    (c :: text).dropWhile isSpace = c :: text := by
  apply List.dropWhile_cons_of_neg
  rcases hc with rfl | rfl <;> decide

theorem parseIntNumber_signed (sign : NumeralSign) (hne : text ≠ [])
    (h : text.all Char.isDigit = true) :
    parseIntNumber (sign.chars ++ text) =
      JsNumber.ofInt (sign.apply (digitsValue text : Int)) := by
  have htake : text.takeWhile Char.isDigit = text :=
    List.takeWhile_eq_self_iff.mpr (List.all_eq_true.mp h)
  have hint : parseInt (sign.chars ++ text) =
      some (sign.apply (digitsValue text : Int)) := by
    cases sign with
    | unsigned => exact parseInt_digits hne h
    | plus =>
        simp [parseInt, NumeralSign.chars, dropWhile_sign, htake, hne,
          NumeralSign.apply]
    | minus =>
        simp [parseInt, NumeralSign.chars, dropWhile_sign, htake, hne,
          NumeralSign.apply]
  rw [parseIntNumber, hint]

theorem parseFloatWith_signed (sign : NumeralSign) {value : Rat}
    (h : startsDigit text = true)
    (hread : parseFloatWith JsNumber.finite text = JsNumber.finite value)
    (round : Rat -> JsNumber) :
    parseFloatWith round (sign.chars ++ text) = round (sign.apply value) := by
  rw [parseFloatWith_of_startsDigit JsNumber.finite h,
    JsNumber.finite.injEq] at hread
  have hwhole : wholeDigits text ≠ [] := by
    intro hnil
    rw [wholeDigits_eq_nil.mp hnil] at h
    cases h
  have hinfinity : ¬ ['I', 'n', 'f', 'i', 'n', 'i', 't', 'y'] <+: text := by
    rintro ⟨rest, rfl⟩
    simp [startsDigit] at h
  cases sign with
  | unsigned =>
      show parseFloatWith round text = round value
      rw [parseFloatWith_of_startsDigit round h, hread]
  | plus =>
      have hunsigned : unsigned ('+' :: text) = text := by
        simp [unsigned, dropWhile_sign]
      simp [parseFloatWith, NumeralSign.chars, dropWhile_sign, hunsigned,
        hinfinity, hwhole, hread, NumeralSign.apply]
  | minus =>
      have hunsigned : unsigned ('-' :: text) = text := by
        simp [unsigned, dropWhile_sign]
      simp [parseFloatWith, NumeralSign.chars, dropWhile_sign, hunsigned,
        hinfinity, hwhole, hread, NumeralSign.apply]

end Signed

end Foundation
end AvtTracker
