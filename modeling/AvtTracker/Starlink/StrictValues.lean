import AvtTracker.Foundation.NumeralPrefixes
import AvtTracker.Starlink.ParseFrame

/-!
# Malformed values

Times, integers and decimal numbers each have a grammar.  A number is refused when
the text does not begin with one; anything behind it is not looked at, and a time
is never refused.
-/

namespace AvtTracker
namespace Starlink

open Foundation

inductive Grammar where
  | timestamp
  | integer
  | decimal
  deriving DecidableEq, Repr

/-- The grammar of the values of a tag, for the tags that have one. -/
def tagGrammar (tag : String) : Option Grammar :=
  match tag with
  | "#EDT#" | "#PDT#" => some Grammar.timestamp
  | "#EID#" | "#HEAD#" | "#LAC#" | "#CID#" | "#IGN#" | "#ENG#" =>
      some Grammar.integer
  | "#IN1#" | "#IN2#" | "#IN3#" | "#IN4#" => some Grammar.integer
  | "#OUT1#" | "#OUT2#" | "#OUT3#" | "#OUT4#" => some Grammar.integer
  | "#SPD#" | "#ODO#" | "#VIN#" | "#VBAT#" => some Grammar.decimal
  | _ => none

/-- The value is wholly of the grammar. -/
def Grammar.Accepts (value : Utf16) : Grammar -> Prop
  | timestamp => value.length = 12 ∧ value.all isDigitUnit = true
  | integer => IntegerText (chars value)
  | decimal => DecimalText (chars value)

/-- What the decoder asks of a value: that a number begins with one. -/
def Grammar.Takes (value : Utf16) : Grammar -> Prop
  | timestamp => True
  | integer => StartsInteger (chars value)
  | decimal => StartsNumeral (chars value)

def decodedBefore (data : Utf16) (formatTags : List String) (index : Nat) :
    StarlinkReportPayload × List StarlinkWarning :=
  ((formatTags.zip (data.splitOn comma)).take index).foldl applyField ({}, [])

/-- The field at an index left the payload as it was, and a warning that names
its tag was pushed, which the report comes with. -/
def RefusedAt (data : Utf16) (formatTags : List String) (index : Nat)
    (tag : String) (value : Utf16) : Prop :=
  (decodedBefore data formatTags (index + 1)).1 =
      (decodedBefore data formatTags index).1 ∧
    exists error, (decodedBefore data formatTags (index + 1)).2 =
        (decodedBefore data formatTags index).2 ++
          [StarlinkWarning.tagFailed tag value error] ∧
      StarlinkWarning.tagFailed tag value error ∈
        (parseEventReport data formatTags).2

/-- No malformed value is accepted silently. -/
def NothingSilent (data : Utf16) (formatTags : List String) : Prop :=
  forall (index : Nat) (tag : String) (value : Utf16) (grammar : Grammar),
    (formatTags.zip (data.splitOn comma))[index]? = some (tag, value) ->
      value ≠ [] -> tagGrammar tag = some grammar ->
        grammar.Accepts value ∨ RefusedAt data formatTags index tag value

/-!
## One value
-/

section Values

variable {value : Utf16} {payload : StarlinkReportPayload}

theorem parseStrictInt_isOk :
    (parseStrictInt value).isOk = true <-> StartsInteger (chars value) := by
  simp only [parseStrictInt]
  by_cases h : parseIntNumber (chars value) = JsNumber.nan
  · rw [if_pos h]
    simpa [Except.isOk, Except.toBool] using parseIntNumber_eq_nan_iff.mp h
  · rw [if_neg h]
    simpa [Except.isOk, Except.toBool, parseIntNumber_eq_nan_iff] using h

theorem parseStrictFloat_isOk :
    (parseStrictFloat value).isOk = true <-> StartsNumeral (chars value) := by
  simp only [parseStrictFloat]
  by_cases h : parseFloat (chars value) = JsNumber.nan
  · rw [if_pos h]
    simpa [Except.isOk, Except.toBool] using parseFloat_eq_nan_iff.mp h
  · rw [if_neg h]
    simpa [Except.isOk, Except.toBool, parseFloat_eq_nan_iff] using h

theorem isOk_bind_pure {α : Type} (x : Except TagError α)
    (f : α -> StarlinkReportPayload) :
    (do let a ← x; pure (f a) : Except TagError _).isOk = x.isOk := by
  cases x <;> rfl

theorem applyTag_isOk_iff {tag : String} {grammar : Grammar}
    (h : tagGrammar tag = some grammar) :
    (applyTag tag value payload).isOk = true <-> grammar.Takes value := by
  unfold tagGrammar at h
  split at h
  all_goals cases h
  all_goals unfold applyTag
  all_goals simp only [isOk_bind_pure, parseStrictInt_isOk,
    parseStrictFloat_isOk, Grammar.Takes]
  -- The two times are left, which are always written.
  all_goals exact iff_of_true rfl trivial

end Values

/-!
## Fields
-/

section Fields

variable {data : Utf16} {formatTags : List String} {index : Nat} {tag : String}
  {value : Utf16}

theorem decodedBefore_succ
    (h : (formatTags.zip (data.splitOn comma))[index]? = some (tag, value)) :
    decodedBefore data formatTags (index + 1) =
      applyField (decodedBefore data formatTags index) (tag, value) := by
  simp only [decodedBefore, List.take_add_one, h, Option.toList_some,
    List.foldl_append, List.foldl_cons, List.foldl_nil]

theorem warnings_applyField_isPrefix
    (decoded : StarlinkReportPayload × List StarlinkWarning)
    (field : String × Utf16) : decoded.2 <+: (applyField decoded field).2 := by
  by_cases hempty : field.2 = []
  · have hsame : applyField decoded field = decoded := if_pos hempty
    exists []
    rw [hsame, List.append_nil]
  · unfold applyField
    rw [if_neg hempty]
    cases applyTag field.1 field.2 decoded.1 with
    | error error => exact List.prefix_append _ _
    | ok payload => exact List.prefix_refl _

theorem warnings_foldl_isPrefix (fields : List (String × Utf16))
    (decoded : StarlinkReportPayload × List StarlinkWarning) :
    decoded.2 <+: (fields.foldl applyField decoded).2 := by
  induction fields generalizing decoded with
  | nil => exact List.prefix_refl _
  | cons field fields ih =>
      exact (warnings_applyField_isPrefix decoded field).trans
        (ih (applyField decoded field))

theorem warnings_decodedBefore_isPrefix (data : Utf16)
    (formatTags : List String) (index : Nat) :
    (decodedBefore data formatTags index).2 <+:
      (parseEventReport data formatTags).2 := by
  have hfold := warnings_foldl_isPrefix
    ((formatTags.zip (data.splitOn comma)).drop index)
    (decodedBefore data formatTags index)
  rw [decodedBefore, ← List.foldl_append, List.take_append_drop] at hfold
  apply hfold.trans
  simp only [parseEventReport, List.append_assoc]
  exact List.prefix_append _ _

/-- A field is refused with a warning when its tag refuses the value. -/
theorem refusedAt_iff
    (h : (formatTags.zip (data.splitOn comma))[index]? = some (tag, value))
    (hne : value ≠ []) :
    RefusedAt data formatTags index tag value <->
      ¬ (applyTag tag value (decodedBefore data formatTags index).1).isOk =
        true := by
  have hpushed := warnings_decodedBefore_isPrefix data formatTags (index + 1)
  simp only [decodedBefore_succ h, applyField, if_neg hne] at hpushed
  simp only [RefusedAt, decodedBefore_succ h, applyField, if_neg hne]
  revert hpushed
  cases applyTag tag value (decodedBefore data formatTags index).1 with
  | error error =>
      intro hpushed
      constructor
      · intro _ hok
        cases hok
      · intro _
        refine ⟨rfl, error, rfl, hpushed.subset ?_⟩
        exact List.mem_append_right _ (List.mem_singleton_self _)
  | ok payload =>
      intro _
      constructor
      · intro hrefused
        rcases hrefused.right with ⟨error, hwarnings, _⟩
        have hlen := congrArg List.length hwarnings
        simp at hlen
      · intro hc
        exact absurd rfl hc

theorem refusedAt_iff_not_takes {grammar : Grammar}
    (h : (formatTags.zip (data.splitOn comma))[index]? = some (tag, value))
    (hne : value ≠ []) (hgrammar : tagGrammar tag = some grammar) :
    RefusedAt data formatTags index tag value <-> ¬ grammar.Takes value := by
  rw [refusedAt_iff h hne, applyTag_isOk_iff hgrammar]

end Fields

/-- Nothing is silent exactly when every value that is not of its grammar does
not even begin with a number. -/
theorem nothingSilent_iff (data : Utf16) (formatTags : List String) :
    NothingSilent data formatTags <->
      forall field, field ∈ formatTags.zip (data.splitOn comma) ->
        field.2 ≠ [] -> forall grammar, tagGrammar field.1 = some grammar ->
          grammar.Accepts field.2 ∨ ¬ grammar.Takes field.2 := by
  constructor
  · intro h field hmem hne grammar hgrammar
    rcases List.mem_iff_getElem?.mp hmem with ⟨index, hindex⟩
    cases h index field.1 field.2 grammar hindex hne hgrammar with
    | inl haccepts => exact Or.inl haccepts
    | inr hrefused =>
        exact Or.inr ((refusedAt_iff_not_takes hindex hne hgrammar).mp hrefused)
  · intro h index tag value grammar hindex hne hgrammar
    have hmem := List.mem_iff_getElem?.mpr ⟨index, hindex⟩
    cases h (tag, value) hmem hne grammar hgrammar with
    | inl haccepts => exact Or.inl haccepts
    | inr htakes =>
        exact Or.inr ((refusedAt_iff_not_takes hindex hne hgrammar).mpr htakes)

/-- An event id with letters behind it is decoded without a warning. -/
theorem nothingSilent_fails_trailing :
    ¬ NothingSilent (utf16 "12abc") ["#EID#"] := by
  intro h
  have hfields : (utf16 "12abc").splitOn comma = [utf16 "12abc"] := by decide
  have hindex : (["#EID#"].zip ((utf16 "12abc").splitOn comma))[0]? =
      some ("#EID#", utf16 "12abc") := by
    rw [hfields]
    rfl
  cases h 0 "#EID#" (utf16 "12abc") Grammar.integer hindex (by decide) rfl with
  | inl haccepts =>
      have hinteger : ¬ IntegerText (chars (utf16 "12abc")) := by decide
      exact hinteger haccepts
  | inr hrefused =>
      have htakes : StartsInteger (chars (utf16 "12abc")) := by decide
      exact (refusedAt_iff_not_takes hindex (by decide) rfl).mp hrefused htakes

end Starlink
end AvtTracker
