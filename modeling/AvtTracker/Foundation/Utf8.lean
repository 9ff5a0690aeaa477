import AvtTracker.Foundation.Bytes

/-!
# Strings

A string of the language is a sequence of UTF-16 code units.  Decoding bytes as
UTF-8 never fails: every maximal ill-formed part becomes one replacement
character, so only an empty buffer is the empty string.
-/

namespace AvtTracker
namespace Foundation

abbrev Utf16 : Type := List UInt16

def codeUnits (codePoint : Nat) : Utf16 :=
  if codePoint < 0x10000 then [UInt16.ofNat codePoint]
  else
    let offset := codePoint - 0x10000
    [UInt16.ofNat (0xd800 + offset / 0x400),
      UInt16.ofNat (0xdc00 + offset % 0x400)]

def utf16 (text : String) : Utf16 :=
  text.toList.flatMap (fun c => codeUnits c.toNat)

theorem codeUnits_ne_nil (codePoint : Nat) : codeUnits codePoint ≠ [] := by
  unfold codeUnits
  by_cases h : codePoint < 0x10000
  · rw [if_pos h]
    exact List.cons_ne_nil _ _
  · rw [if_neg h]
    exact List.cons_ne_nil _ _

/-!
## Decoding
-/

def replacementCharacter : UInt16 := 0xfffd

/-- The decoder is between two code points, or inside one: then it knows how
many bytes are missing, and the bounds of the next one. -/
inductive Utf8State where
  | start
  | inside (needed codePoint : Nat) (lower upper : UInt8)
  deriving DecidableEq, Repr

namespace Utf8State

def lead (b : UInt8) : Utf16 × Utf8State :=
  if b ≤ 0x7f then ([b.toUInt16], start)
  else if 0xc2 ≤ b ∧ b ≤ 0xdf then
    ([], inside 1 (b.toNat - 0xc0) 0x80 0xbf)
  else if b = 0xe0 then ([], inside 2 0x0 0xa0 0xbf)
  else if b = 0xed then ([], inside 2 0xd 0x80 0x9f)
  else if 0xe1 ≤ b ∧ b ≤ 0xef then
    ([], inside 2 (b.toNat - 0xe0) 0x80 0xbf)
  else if b = 0xf0 then ([], inside 3 0x0 0x90 0xbf)
  else if b = 0xf4 then ([], inside 3 0x4 0x80 0x8f)
  else if 0xf1 ≤ b ∧ b ≤ 0xf3 then
    ([], inside 3 (b.toNat - 0xf0) 0x80 0xbf)
  else ([replacementCharacter], start)

/-- A byte that cannot continue a code point starts a new one. -/
def next : Utf8State -> UInt8 -> Utf16 × Utf8State
  | start, b => lead b
  | inside needed codePoint lower upper, b =>
      if lower ≤ b ∧ b ≤ upper then
        let codePoint := codePoint * 64 + (b.toNat - 0x80)
        if needed ≤ 1 then (codeUnits codePoint, start)
        else ([], inside (needed - 1) codePoint 0x80 0xbf)
      else (replacementCharacter :: (lead b).1, (lead b).2)

/-- What is decoded from a state on. -/
def decode : Utf8State -> Bytes -> Utf16
  | start, [] => []
  | inside _ _ _ _, [] => [replacementCharacter]
  | s, b :: bytes => (s.next b).1 ++ (s.next b).2.decode bytes

theorem lead_progress (b : UInt8) :
    (lead b).1 ≠ [] ∨ (lead b).2 ≠ start := by
  unfold lead
  split_ifs <;> simp

theorem next_progress (s : Utf8State) (b : UInt8) :
    (s.next b).1 ≠ [] ∨ (s.next b).2 ≠ start := by
  cases s with
  | start => exact lead_progress b
  | inside needed codePoint lower upper =>
      unfold next
      by_cases hbounds : lower ≤ b ∧ b ≤ upper
      · by_cases hneeded : needed ≤ 1
        · simp only [if_pos hbounds, if_pos hneeded]
          exact Or.inl (codeUnits_ne_nil _)
        · simp only [if_pos hbounds, if_neg hneeded]
          exact Or.inr (fun h => nomatch h)
      · simp only [if_neg hbounds]
        exact Or.inl (List.cons_ne_nil _ _)

theorem decode_inside_ne_nil {s : Utf8State} (h : s ≠ start) (bytes : Bytes) :
    s.decode bytes ≠ [] := by
  induction bytes generalizing s with
  | nil =>
      cases s with
      | start => exact absurd rfl h
      | inside needed codePoint lower upper => exact List.cons_ne_nil _ _
  | cons b bytes ih =>
      intro hnil
      have hcons : s.decode (b :: bytes) =
          (s.next b).1 ++ (s.next b).2.decode bytes := by cases s <;> rfl
      rw [hcons, List.append_eq_nil_iff] at hnil
      rcases next_progress s b with hout | hstate
      · exact hout hnil.left
      · exact ih hstate hnil.right

end Utf8State

/-- {lit}`toString('utf8')` of a buffer. -/
def utf8Text (bytes : Bytes) : Utf16 :=
  Utf8State.start.decode bytes

@[simp] theorem utf8Text_eq_nil {bytes : Bytes} :
    utf8Text bytes = [] <-> bytes = [] := by
  constructor
  · intro h
    cases bytes with
    | nil => rfl
    | cons b bytes =>
        rcases List.append_eq_nil_iff.mp h with ⟨hout, hrest⟩
        rcases Utf8State.next_progress Utf8State.start b with hne | hstate
        · exact absurd hout hne
        · exact absurd hrest (Utf8State.decode_inside_ne_nil hstate bytes)
  · intro h
    rw [h]
    rfl

/-- A two-byte character, one cut short, and one of four bytes. -/
example : utf8Text [0xc3, 0xa9, 0xe2, 0x82, 0x41, 0xf0, 0x9f, 0x9a, 0x97] =
    [0xe9, 0xfffd, 0x41, 0xd83d, 0xde97] := by
  decide

end Foundation
end AvtTracker
