import AvtTracker.Tracker.Fixtures
import AvtTracker.Tracker.FrameParts

/-!
# Identity of devices

Seven bytes of the IMEI field hold two digits each and the last one holds one.
The decoder writes down a byte above ninety-nine with all its digits, and takes
the last byte modulo ten, so only fields that hold digits name one device each.
-/

namespace AvtTracker
namespace Tracker

open Foundation

/-- The bytes of the field are pairs of digits, and the last one is a digit. -/
def DigitPairs (field : Bytes) : Prop :=
  (forall i, i < 7 -> byteAt field i ≤ 99) ∧ byteAt field 7 ≤ 9

instance (field : Bytes) : Decidable (DigitPairs field) :=
  inferInstanceAs (Decidable ((forall i, i < 7 -> byteAt field i ≤ 99) ∧
    byteAt field 7 ≤ 9))

/-- The field is refused, or decoded to fifteen digits that encode it. -/
def FaithfulImei (field : Bytes) : Prop :=
  (exists error, decodeImei field = Except.error error) ∨
    exists imei, decodeImei field = Except.ok imei ∧
      imei.toList.length = 15 ∧ (forall c, c ∈ imei.toList -> c.isDigit) ∧
        encodeImei imei = Except.ok field

/-!
## Digits
-/

theorem exists_pair {n : Nat} (h : n ≤ 99) :
    exists a b : Fin 10, n = 10 * a + b := by
  refine ⟨⟨n / 10, by lia⟩, ⟨n % 10, by lia⟩, ?_⟩
  exact (Nat.div_add_mod n 10).symm

theorem isDigit_digitChars {ds : List (Fin 10)} :
    forall c, c ∈ digitChars ds -> c.isDigit := by
  have hdigit : forall d : Fin 10, (Nat.digitChar d.val).isDigit = true := by
    decide
  intro c hc
  rcases List.mem_map.mp hc with ⟨d, _, rfl⟩
  exact hdigit d

theorem pair_le (a b : Fin 10) :
    (toByte (parseInt [Nat.digitChar a, Nat.digitChar b])).toNat ≤ 99 := by
  rw [toByte_parseInt_pair]
  lia

theorem digit_le (a : Fin 10) :
    (toByte (parseInt [Nat.digitChar a])).toNat ≤ 9 := by
  rw [toByte_parseInt_digit]
  lia

theorem digitPairs_of_encodeImei {imei : String} {field : Bytes}
    (hdigits : forall c, c ∈ imei.toList -> c.isDigit)
    (h : encodeImei imei = Except.ok field) : DigitPairs field := by
  rcases ite_eq_iff.mp h with ⟨_, h⟩ | ⟨hlen, h⟩
  · cases h
  injection h with h
  rcases exists_digitChars hdigits with ⟨ds, hds⟩
  rw [hds] at h
  rw [hds, not_not, digitChars, List.length_map] at hlen
  rcases exists_fifteen hlen with
    ⟨d0, d1, d2, d3, d4, d5, d6, d7, d8, d9, d10, d11, d12, d13, d14, rfl⟩
  rw [← h]
  constructor
  · intro i hi
    have hcases : i = 0 ∨ i = 1 ∨ i = 2 ∨ i = 3 ∨ i = 4 ∨ i = 5 ∨ i = 6 := by
      lia
    rcases hcases with rfl | rfl | rfl | rfl | rfl | rfl | rfl
    · exact pair_le d0 d1
    · exact pair_le d2 d3
    · exact pair_le d4 d5
    · exact pair_le d6 d7
    · exact pair_le d8 d9
    · exact pair_le d10 d11
    · exact pair_le d12 d13
  · exact digit_le d14

theorem toByte_pair {b : UInt8} {a c : Fin 10} (h : b.toNat = 10 * a + c) :
    toByte (parseInt [Nat.digitChar a, Nat.digitChar c]) = b := by
  apply UInt8.toNat_inj.mp
  rw [toByte_parseInt_pair, h]

theorem toByte_digit {b : UInt8} {a : Fin 10} (h : b.toNat = a) :
    toByte (parseInt [Nat.digitChar a]) = b := by
  apply UInt8.toNat_inj.mp
  rw [toByte_parseInt_digit, h]

theorem exists_encodeImei {field : Bytes} (hlen : field.length = 8)
    (h : DigitPairs field) :
    exists imei, imei.toList.length = 15 ∧
      (forall c, c ∈ imei.toList -> c.isDigit) ∧
        encodeImei imei = Except.ok field := by
  match field, hlen with
  | [b0, b1, b2, b3, b4, b5, b6, b7], _ =>
      rcases h with ⟨hpairs, hlast⟩
      rcases exists_pair (hpairs 0 (by decide)) with ⟨d0, d1, h0⟩
      rcases exists_pair (hpairs 1 (by decide)) with ⟨d2, d3, h1⟩
      rcases exists_pair (hpairs 2 (by decide)) with ⟨d4, d5, h2⟩
      rcases exists_pair (hpairs 3 (by decide)) with ⟨d6, d7, h3⟩
      rcases exists_pair (hpairs 4 (by decide)) with ⟨d8, d9, h4⟩
      rcases exists_pair (hpairs 5 (by decide)) with ⟨d10, d11, h5⟩
      rcases exists_pair (hpairs 6 (by decide)) with ⟨d12, d13, h6⟩
      have h7 : b7.toNat = (⟨b7.toNat, Nat.lt_succ_of_le hlast⟩ : Fin 10) :=
        rfl
      refine ⟨String.ofList (digitChars [d0, d1, d2, d3, d4, d5, d6, d7, d8, d9,
        d10, d11, d12, d13, ⟨b7.toNat, Nat.lt_succ_of_le hlast⟩]), ?_, ?_, ?_⟩
      · simp [digitChars]
      · rw [String.toList_ofList]
        exact isDigit_digitChars
      · rw [encodeImei, String.toList_ofList, if_neg (by simp [digitChars])]
        simp only [digitChars, List.range, List.range.loop, List.map_cons,
          List.map_nil, List.cons_append, List.nil_append, List.drop,
          List.take, toByte_pair h0, toByte_pair h1, toByte_pair h2,
          toByte_pair h3, toByte_pair h4, toByte_pair h5, toByte_pair h6,
          toByte_digit h7, List.getD_cons_zero, List.getD_cons_succ]

theorem faithful_of_digitPairs {field : Bytes} (hlen : field.length = 8)
    (h : DigitPairs field) : FaithfulImei field := by
  rcases exists_encodeImei hlen h with ⟨imei, hfifteen, hdigits, hencode⟩
  exact Or.inr ⟨imei, decodeImei_encodeImei hdigits hencode, hfifteen, hdigits,
    hencode⟩

/-!
## Fields and devices
-/

theorem faithfulImei_iff {field : Bytes} (hlen : field.length = 8) :
    FaithfulImei field <-> DigitPairs field := by
  constructor
  · intro hfaithful
    rcases hfaithful with ⟨error, herror⟩ | ⟨imei, _, _, hdigits, hencode⟩
    · rcases decodeImei_accepts hlen with ⟨imei, hok⟩
      rw [hok] at herror
      cases herror
    · exact digitPairs_of_encodeImei hdigits hencode
  · exact faithful_of_digitPairs hlen

theorem encodeImei_of_decodeImei {field : Bytes} {imei : String}
    (hlen : field.length = 8) (h : DigitPairs field)
    (hdecode : decodeImei field = Except.ok imei) :
    imei.toList.length = 15 ∧ encodeImei imei = Except.ok field := by
  rcases exists_encodeImei hlen h with ⟨digits, hfifteen, hdigits, hencode⟩
  rw [decodeImei_encodeImei hdigits hencode] at hdecode
  cases hdecode
  exact ⟨hfifteen, hencode⟩

theorem eq_of_decodeImei {field other : Bytes} {imei : String}
    (hlen : field.length = 8) (hotherLen : other.length = 8)
    (h : DigitPairs field) (hother : DigitPairs other)
    (hdecode : decodeImei field = Except.ok imei)
    (hotherDecode : decodeImei other = Except.ok imei) : other = field := by
  have hencode := (encodeImei_of_decodeImei hlen h hdecode).right
  have hotherEncode :=
    (encodeImei_of_decodeImei hotherLen hother hotherDecode).right
  rw [hencode] at hotherEncode
  exact (Except.ok.inj hotherEncode).symm

/-- Frames that hold digit pairs are of one device only if their IMEI bytes are
the same. -/
theorem imei_bytes_of_same_device {parsed parsedOther : ParsedTrackerFrame}
    {parts partsOther : FrameParts} (h : Describes parsed parts)
    (hother : Describes parsedOther partsOther)
    (hpairs : DigitPairs parts.imei) (hpairsOther : DigitPairs partsOther.imei)
    (hsame : parsedOther.header.imei = parsed.header.imei) :
    partsOther.imei = parts.imei := by
  apply eq_of_decodeImei parts.imei_length partsOther.imei_length hpairs
    hpairsOther h.imei
  rw [hother.imei, hsame]

/-- The code meets what its fields promise exactly on digit pairs: there it
decodes to fifteen digits that encode the field, which fit the key column and
tell any two such fields apart. -/
theorem decodeImei_faithful_iff {field : Bytes} (hlen : field.length = 8) :
    (FaithfulImei field <-> DigitPairs field) ∧
      (DigitPairs field -> forall imei, decodeImei field = Except.ok imei ->
        imei.toList.length ≤ 20 ∧
          forall other : Bytes, other.length = 8 -> DigitPairs other ->
            decodeImei other = Except.ok imei -> other = field) := by
  constructor
  · exact faithfulImei_iff hlen
  · intro h imei hdecode
    constructor
    · have hfifteen := (encodeImei_of_decodeImei hlen h hdecode).left
      lia
    · intro other hotherLen hother hotherDecode
      exact eq_of_decodeImei hlen hotherLen h hother hdecode hotherDecode

/-- The field of the protocol's own example. -/
theorem decodeImei_faithful_example :
    FaithfulImei [13, 57, 90, 24, 68, 11, 22, 5] :=
  (decodeImei_faithful_iff rfl).left.mpr (by decide)

/-- A last byte of fifteen is read as the five of another field, and bytes above
ninety-nine outgrow the key column. -/
theorem decodeImei_confuses :
    ¬ FaithfulImei [13, 57, 90, 24, 68, 11, 22, 15] ∧
      decodeImei [13, 57, 90, 24, 68, 11, 22, 15] =
        decodeImei [13, 57, 90, 24, 68, 11, 22, 5] ∧
      exists imei, decodeImei [100, 100, 100, 100, 100, 100, 100, 0] =
        Except.ok imei ∧ 20 < imei.toList.length := by
  refine ⟨?_, by decide +kernel, _, rfl, by decide +kernel⟩
  rw [faithfulImei_iff rfl]
  decide

end Tracker
end AvtTracker
