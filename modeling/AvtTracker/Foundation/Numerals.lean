import AvtTracker.Foundation.Doubles
import Mathlib.Data.List.TakeWhile

/-!
# Numbers read from text

The conversions from text to numbers of the language standard:
{lit}`parseInt` with radix ten, {lit}`parseFloat`, and {lit}`Number` on strings.
-/

namespace AvtTracker
namespace Foundation

def isSpace (c : Char) : Bool :=
  (9 ≤ c.toNat && c.toNat ≤ 13) || (0x2000 ≤ c.toNat && c.toNat ≤ 0x200a) ||
    [0x20, 0xa0, 0x1680, 0x2028, 0x2029, 0x202f, 0x205f, 0x3000,
      0xfeff].contains c.toNat

def trim (text : List Char) : List Char :=
  ((text.dropWhile isSpace).reverse.dropWhile isSpace).reverse

def digitValue (radix : Nat) (c : Char) : Option Nat :=
  let value :=
    if c.isDigit then c.toNat - 48
    else if 'a' ≤ c ∧ c ≤ 'f' then c.toNat - 87
    else if 'A' ≤ c ∧ c ≤ 'F' then c.toNat - 55
    else 16
  if value < radix then some value else none

def digitsValue (digits : List Char) : Nat :=
  digits.foldl (fun n c => 10 * n + (c.toNat - 48)) 0

/-- {lit}`parseInt(text, 10)`: the longest signed decimal prefix. -/
def parseInt (text : List Char) : Option Int :=
  let trimmed := text.dropWhile isSpace
  let negative := trimmed.head? = some '-'
  let unsigned :=
    if trimmed.head? = some '-' ∨ trimmed.head? = some '+' then trimmed.tail
    else trimmed
  let digits := unsigned.takeWhile Char.isDigit
  if digits = [] then none
  else some (if negative then -(digitsValue digits : Int)
    else (digitsValue digits : Int))

theorem isDigit_iff {c : Char} :
    c.isDigit = true <-> 48 ≤ c.toNat ∧ c.toNat ≤ 57 := by
  simp [Char.isDigit, UInt32.le_iff_toNat_le]

theorem isSpace_of_isDigit {c : Char} (h : c.isDigit = true) :
    isSpace c = false := by
  rcases isDigit_iff.mp h with ⟨hlo, hhi⟩
  simp [isSpace]
  omega

theorem parseInt_digits {digits : List Char} (hne : digits ≠ [])
    (h : digits.all Char.isDigit = true) :
    parseInt digits = some (digitsValue digits : Int) := by
  cases digits with
  | nil => exact absurd rfl hne
  | cons c rest =>
      have hc : c.isDigit = true := List.all_eq_true.mp h c List.mem_cons_self
      have hminus : c ≠ '-' := by
        rintro rfl
        cases hc
      have hplus : c ≠ '+' := by
        rintro rfl
        cases hc
      have htrim : (c :: rest).dropWhile isSpace = c :: rest :=
        List.dropWhile_cons_of_neg (by rw [isSpace_of_isDigit hc]; simp)
      have htake : (c :: rest).takeWhile Char.isDigit = c :: rest :=
        List.takeWhile_eq_self_iff.mpr (List.all_eq_true.mp h)
      simp [parseInt, htrim, hminus, hplus, htake]

theorem digitsValue_toDigits (n : Nat) :
    digitsValue (Nat.toDigits 10 n) = n :=
  Nat.ofDigitChars_ten_toDigits

theorem foldl_digits (digits : List Char) (n : Nat) :
    digits.foldl (fun n c => 10 * n + (c.toNat - 48)) n =
      n * 10 ^ digits.length + digitsValue digits := by
  unfold digitsValue
  induction digits generalizing n with
  | nil => simp
  | cons c rest ih =>
      rw [List.foldl_cons, List.foldl_cons, ih, ih (10 * 0 + _),
        List.length_cons, Nat.pow_succ, Nat.mul_zero, Nat.zero_add,
        Nat.add_mul, Nat.add_assoc, Nat.mul_comm 10 n, Nat.mul_assoc,
        Nat.mul_comm 10]

theorem digitsValue_append (front back : List Char) :
    digitsValue (front ++ back) =
      digitsValue front * 10 ^ back.length + digitsValue back := by
  rw [digitsValue, List.foldl_append]
  exact foldl_digits back (digitsValue front)

theorem digitsValue_cons (c : Char) (rest : List Char) :
    digitsValue (c :: rest) =
      (c.toNat - 48) * 10 ^ rest.length + digitsValue rest := by
  have happend := digitsValue_append [c] rest
  simpa [digitsValue] using happend

theorem digitsValue_lt {digits : List Char}
    (h : forall c, c ∈ digits -> c.isDigit = true) :
    digitsValue digits < 10 ^ digits.length := by
  induction digits with
  | nil => exact Nat.one_pos
  | cons c rest ih =>
      have hc := isDigit_iff.mp (h c List.mem_cons_self)
      have hrest := ih (fun d hd => h d (List.mem_cons_of_mem _ hd))
      have hdigit : (c.toNat - 48) * 10 ^ rest.length ≤
          9 * 10 ^ rest.length := Nat.mul_le_mul_right _ (by lia)
      rw [digitsValue_cons, List.length_cons, Nat.pow_succ]
      lia

/-!
## Number
-/

/-- An unsigned integer in a radix other than ten. -/
def radixLiteral (radix : Nat) (digits : List Char) : Option Rat :=
  if digits = [] then none
  else
    (digits.foldlM (fun n c => (digitValue radix c).map (radix * n + ·))
      0).map (fun n : Nat => (n : Rat))

/-- The exponent behind a decimal literal; nothing may follow it. -/
def exponentPart : List Char -> Option Int
  | [] => some 0
  | c :: rest =>
      if c = 'e' ∨ c = 'E' then
        let digits := if rest.head? = some '-' ∨ rest.head? = some '+' then
          rest.tail else rest
        if digits ≠ [] ∧ digits.all Char.isDigit then
          some (if rest.head? = some '-' then -(digitsValue digits : Int)
            else (digitsValue digits : Int))
        else none
      else none

/-- An unsigned decimal literal. -/
def decimalLiteral (text : List Char) : Option Rat :=
  let whole := text.takeWhile Char.isDigit
  let rest := text.dropWhile Char.isDigit
  let fraction :=
    if rest.head? = some '.' then rest.tail.takeWhile Char.isDigit else []
  let rest :=
    if rest.head? = some '.' then rest.tail.dropWhile Char.isDigit else rest
  if whole = [] ∧ fraction = [] then none
  else
    (exponentPart rest).map (fun e : Int =>
      (digitsValue (whole ++ fraction) : Rat) *
        (10 : Rat) ^ (e - (fraction.length : Int)))

/-- The double nearest to a value; {lit}`none` stands for the infinities. -/
def finite (value : Rat) : Option Rat :=
  match JsNumber.ofRat value with
  | JsNumber.finite number => some number
  | _ => none

/-- {lit}`Number` of a string, {lit}`none` being {lit}`undefined`.  The outcome is
{lit}`none` where it is not finite. -/
def number : Option String -> Option Rat
  | none => none
  | some text =>
      match trim text.toList with
      | [] => some 0
      | '0' :: 'x' :: digits => (radixLiteral 16 digits).bind finite
      | '0' :: 'X' :: digits => (radixLiteral 16 digits).bind finite
      | '0' :: 'o' :: digits => (radixLiteral 8 digits).bind finite
      | '0' :: 'O' :: digits => (radixLiteral 8 digits).bind finite
      | '0' :: 'b' :: digits => (radixLiteral 2 digits).bind finite
      | '0' :: 'B' :: digits => (radixLiteral 2 digits).bind finite
      | '-' :: rest => (decimalLiteral rest).bind (fun v => finite (-v))
      | '+' :: rest => (decimalLiteral rest).bind finite
      | rest => (decimalLiteral rest).bind finite

/-!
## Numbers at the start of a text
-/

/-- {lit}`parseInt(text, 10)` -/
def parseIntNumber (text : List Char) : JsNumber :=
  match parseInt text with
  | none => JsNumber.nan
  | some value => JsNumber.ofInt value

/-- The exponent behind the digits of a number; what is not one is ignored. -/
def exponentAhead : List Char -> Int
  | [] => 0
  | c :: rest =>
      if c = 'e' ∨ c = 'E' then
        let digits := (if rest.head? = some '-' ∨ rest.head? = some '+' then
          rest.tail else rest).takeWhile Char.isDigit
        if rest.head? = some '-' then -(digitsValue digits : Int)
        else (digitsValue digits : Int)
      else 0

/-- {lit}`parseFloat`: the longest decimal literal in front. -/
def parseFloat (text : List Char) : JsNumber :=
  let trimmed := text.dropWhile isSpace
  let negative := decide (trimmed.head? = some '-')
  let unsigned :=
    if trimmed.head? = some '-' ∨ trimmed.head? = some '+' then trimmed.tail
    else trimmed
  let whole := unsigned.takeWhile Char.isDigit
  let rest := unsigned.dropWhile Char.isDigit
  let fraction :=
    if rest.head? = some '.' then rest.tail.takeWhile Char.isDigit else []
  let rest :=
    if rest.head? = some '.' then rest.tail.dropWhile Char.isDigit else rest
  if "Infinity".toList.isPrefixOf unsigned then JsNumber.infinity negative
  else if whole = [] ∧ fraction = [] then JsNumber.nan
  else
    let magnitude := (digitsValue (whole ++ fraction) : Rat) *
      (10 : Rat) ^ (exponentAhead rest - (fraction.length : Int))
    JsNumber.ofRat (if negative then -magnitude else magnitude)

end Foundation
end AvtTracker
