import AvtTracker.Foundation.NumeralPrefixes

/-!
# Decimal numerals

{lit}`Number` gives a decimal numeral its value: there is no white space to trim
in it, and it cannot be taken for a literal of another radix.
-/

namespace AvtTracker
namespace Foundation

/-!
## The characters of a literal
-/

section Characters

variable {text rest : List Char} {c : Char}

/-- No character is white space. -/
def Spaceless (text : List Char) : Prop :=
  forall c, c ∈ text -> isSpace c = false

theorem spaceless_cons (hc : isSpace c = false) (h : Spaceless rest) :
    Spaceless (c :: rest) := by
  intro d hd
  cases List.mem_cons.mp hd with
  | inl heq =>
      rw [heq]
      exact hc
  | inr hmem => exact h d hmem

theorem spaceless_append {front : List Char} (hfront : Spaceless front)
    (hrest : Spaceless rest) : Spaceless (front ++ rest) := by
  intro d hd
  cases List.mem_append.mp hd with
  | inl hmem => exact hfront d hmem
  | inr hmem => exact hrest d hmem

theorem spaceless_of_digits (h : text.all Char.isDigit = true) :
    Spaceless text := by
  intro c hc
  exact isSpace_of_isDigit (List.all_eq_true.mp h c hc)

theorem spaceless_takeWhile (text : List Char) :
    Spaceless (text.takeWhile Char.isDigit) := by
  intro c hc
  exact isSpace_of_isDigit (List.mem_takeWhile_imp hc)

theorem spaceless_of_unsigned
    (h : Spaceless (if text.head? = some '-' ∨ text.head? = some '+' then
      text.tail else text)) : Spaceless text := by
  by_cases hsign : text.head? = some '-' ∨ text.head? = some '+'
  · rw [if_pos hsign] at h
    cases text with
    | nil => exact h
    | cons c rest =>
        apply spaceless_cons _ h
        cases hsign with
        | inl hc =>
            rw [Option.some.inj hc]
            decide
        | inr hc =>
            rw [Option.some.inj hc]
            decide
  · rw [if_neg hsign] at h
    exact h

theorem spaceless_of_exponentPart {e : Int}
    (h : exponentPart text = some e) : Spaceless text := by
  cases text with
  | nil =>
      intro c hc
      cases hc
  | cons c rest =>
      rcases ite_eq_iff.mp h with ⟨he, h⟩ | ⟨_, h⟩
      · rcases ite_eq_iff.mp h with ⟨hdigits, _⟩ | ⟨_, h⟩
        · apply spaceless_cons
          · cases he with
            | inl hc =>
                rw [hc]
                decide
            | inr hc =>
                rw [hc]
                decide
          · exact spaceless_of_unsigned (spaceless_of_digits hdigits.right)
        · cases h
      · cases h

theorem spaceless_of_decimalLiteral {v : Rat}
    (h : decimalLiteral text = some v) : Spaceless text := by
  rcases ite_eq_iff.mp h with ⟨_, h⟩ | ⟨_, h⟩
  · cases h
  · rcases Option.map_eq_some_iff.mp h with ⟨e, he, _⟩
    rw [← List.takeWhile_append_dropWhile (p := Char.isDigit) (l := text)]
    apply spaceless_append (spaceless_takeWhile text)
    by_cases hpoint : (text.dropWhile Char.isDigit).head? = some '.'
    · rw [if_pos hpoint] at he
      cases hrest : text.dropWhile Char.isDigit with
      | nil =>
          rw [hrest] at hpoint
          cases hpoint
      | cons c rest =>
          rw [hrest] at hpoint he
          apply spaceless_cons
          · rw [Option.some.inj hpoint]
            decide
          · rw [← List.takeWhile_append_dropWhile (p := Char.isDigit)
              (l := rest)]
            exact spaceless_append (spaceless_takeWhile rest)
              (spaceless_of_exponentPart he)
    · rw [if_neg hpoint] at he
      exact spaceless_of_exponentPart he

end Characters

/-!
## Trimming and reading
-/

section Reading

variable {text : List Char} {v : Rat}

theorem dropWhile_isSpace (h : Spaceless text) :
    text.dropWhile isSpace = text := by
  cases text with
  | nil => rfl
  | cons c rest =>
      apply List.dropWhile_cons_of_neg
      rw [h c List.mem_cons_self]
      exact Bool.false_ne_true

theorem trim_of_spaceless (h : Spaceless text) : trim text = text := by
  have hreverse : Spaceless text.reverse := by
    intro c hc
    exact h c (List.mem_reverse.mp hc)
  rw [trim, dropWhile_isSpace h, dropWhile_isSpace hreverse,
    List.reverse_reverse]

theorem spaceless_of_decimalValue (h : decimalValue text = some v) :
    Spaceless text := by
  unfold decimalValue at h
  split at h
  · rcases Option.bind_eq_some_iff.mp h with ⟨w, hw, _⟩
    exact spaceless_cons (by decide) (spaceless_of_decimalLiteral hw)
  · rcases Option.bind_eq_some_iff.mp h with ⟨w, hw, _⟩
    exact spaceless_cons (by decide) (spaceless_of_decimalLiteral hw)
  · rcases Option.bind_eq_some_iff.mp h with ⟨w, hw, _⟩
    exact spaceless_of_decimalLiteral hw

theorem decimalValue_radix {c : Char} (hdigit : c.isDigit = false)
    (hpoint : c ≠ '.') (he : ¬ (c = 'e' ∨ c = 'E')) (rest : List Char) :
    decimalValue ('0' :: c :: rest) = none := by
  have hzero : Char.isDigit '0' = true := by decide
  have hliteral : decimalLiteral ('0' :: c :: rest) = none := by
    simp [decimalLiteral, hzero, hdigit, hpoint, exponentPart, he]
  show (decimalLiteral ('0' :: c :: rest)).bind finite = none
  rw [hliteral]
  rfl

theorem number_of_decimalValue {text : String}
    (h : decimalValue text.toList = some v) : number (some text) = some v := by
  have htrim := trim_of_spaceless (spaceless_of_decimalValue h)
  simp only [number, htrim]
  generalize text.toList = digits at h
  split
  · cases h
  -- The prefixes of the other radices, in both cases.
  iterate 6
    · rw [decimalValue_radix (by decide) (by decide) (by decide)] at h
      cases h
  · exact h
  · exact h
  · next hminus hplus =>
      rw [← h]
      exact (decimalValue.eq_3 digits hminus hplus).symm

end Reading

end Foundation
end AvtTracker
