import AvtTracker.Foundation.DecimalNumerals
import AvtTracker.Tracker.PeoRecords
import Mathlib.Data.List.Forall2
import Mathlib.Tactic.Linarith

/-!
# Lists of fence records

Records written in decimal numerals, with other fields around them, are decoded
one after the other.  A list that is cut off loses the records that are not
complete, and a record that is cut is reported with one warning.
-/

namespace AvtTracker
namespace Tracker

open Foundation

/-- A fence and the numerals it is written with; its start and end ask for its
points.  No list of the language is longer than the bound. -/
structure FenceRecord where
  fence : PeoFenceStatus
  numerals : List String
  numerals_values : List.Forall₂
    (fun numeral v => decimalValue numeral.toList = some v)
    numerals fence.numbers
  count : fence.endPoint - fence.startPoint + 1 = fence.points.length
  points_length_lt : fence.points.length < 2 ^ 53

def FenceRecord.fields (record : FenceRecord) : List String :=
  "PEO" :: record.numerals

/-- A record and the fields in front of it. -/
structure FenceItem where
  others : List String
  others_valid : forall field, field ∈ others -> field ≠ "PEO"
  record : FenceRecord

def FenceItem.fields (item : FenceItem) : List String :=
  item.others ++ item.record.fields

def FenceItem.fence (item : FenceItem) : PeoFenceStatus :=
  item.record.fence

def itemFields (items : List FenceItem) : List String :=
  items.flatMap FenceItem.fields

/-- A list of fence records, and the fields behind the last one. -/
structure FenceList where
  items : List FenceItem
  others : List String
  others_valid : forall field, field ∈ others -> field ≠ "PEO"

namespace FenceList

def fields (list : FenceList) : List String :=
  itemFields list.items ++ list.others

def fences (list : FenceList) : List PeoFenceStatus :=
  list.items.map FenceItem.fence

end FenceList

/-- How many fields there are up to the end of the record at an index. -/
def endOf (items : List FenceItem) (index : Nat) : Nat :=
  (itemFields (items.take (index + 1))).length

/-- The first fields end inside a record: behind its start and in front of its
last field. -/
def CutsRecord (items : List FenceItem) (n : Nat) : Prop :=
  exists index item, items[index]? = some item ∧
    (itemFields (items.take index)).length + item.others.length < n ∧
      n < endOf items index

/-!
## One record
-/

section Records

variable {record : FenceRecord} {i : Nat}

theorem FenceRecord.pointCount_eq (record : FenceRecord) :
    record.fence.pointCount =
      JsNumber.finite record.fence.points.length := by
  have hlt := record.points_length_lt
  have hdifference : record.fence.endPoint + -record.fence.startPoint =
      (((record.fence.points.length : Int) - 1 : Int) : Rat) := by
    have hcount := record.count
    push_cast
    linarith
  have hfirst := JsNumber.ofInt_eq
    (n := (record.fence.points.length : Int) - 1) (by lia)
  have hsecond := JsNumber.ofInt_natCast hlt
  have hsum : (((record.fence.points.length : Int) - 1 : Int) : Rat) + 1 =
      (((record.fence.points.length : Int) : Int) : Rat) := by
    push_cast
    linarith
  show (JsNumber.ofRat (record.fence.endPoint +
    -record.fence.startPoint)).add 1 = _
  rw [hdifference, show JsNumber.ofRat _ = _ from hfirst]
  show JsNumber.ofRat (_ + 1) = _
  rw [hsum]
  exact hsecond

theorem FenceRecord.counts (record : FenceRecord) : record.fence.Counts := by
  constructor
  · rw [record.pointCount_eq]
    exact decide_eq_false (not_lt.mpr (Nat.cast_nonneg _))
  · rw [record.pointCount_eq]
    exact rounds_natCast _

theorem FenceRecord.numerals_length (record : FenceRecord) :
    record.numerals.length = record.fence.fieldCount := by
  rw [record.numerals_values.length_eq, PeoFenceStatus.numbers_length]

theorem spells_numerals {numerals : List String} {values : List Rat}
    (more : List String)
    (h : List.Forall₂ (fun numeral v => decimalValue numeral.toList = some v)
      numerals values) : Spells (numerals ++ more) values := by
  induction h with
  | nil => exact spells_nil _
  | cons hnumeral _ ih =>
      apply spells_cons_iff.mpr
      exact ⟨number_of_decimalValue hnumeral, ih⟩

theorem parsePeoFence_numerals (more : List String) :
    parsePeoFence i (record.numerals ++ more) = Except.ok record.fence :=
  parsePeoFence_of_spells (spells_numerals more record.numerals_values)
    record.counts

/-- Start and end stand at the third and the fourth field, so they fix the number
of points. -/
theorem points_length_of_spells {fields : List String} {fence : PeoFenceStatus}
    {k : Nat} (hwhole : Spells fields record.fence.numbers)
    (hreads : Spells (fields.take k) fence.numbers) (hcounts : fence.Counts) :
    fence.points.length = record.fence.points.length := by
  have hlong := hreads.length_le
  rw [fence.numbers_length, List.length_take] at hlong
  simp only [PeoFenceStatus.fieldCount] at hlong
  have hstart : some fence.startPoint = some record.fence.startPoint := by
    rw [← hreads 2 _ rfl, ← hwhole 2 _ rfl, List.getElem?_take_of_lt (by lia)]
  have hend : some fence.endPoint = some record.fence.endPoint := by
    rw [← hreads 3 _ rfl, ← hwhole 3 _ rfl, List.getElem?_take_of_lt (by lia)]
  have hcount : fence.pointCount = record.fence.pointCount := by
    rw [PeoFenceStatus.pointCount, PeoFenceStatus.pointCount,
      Option.some.inj hstart, Option.some.inj hend]
  have hrounds := hcounts.rounds
  rw [hcount] at hrounds
  exact hrounds.unique record.counts.rounds

theorem parsePeoFence_cut {k : Nat} (h : k < record.numerals.length) :
    exists warning, parsePeoFence i (record.numerals.take k) =
      Except.error warning := by
  cases hparse : parsePeoFence i (record.numerals.take k) with
  | error warning => exact ⟨warning, rfl⟩
  | ok fence =>
      rcases spells_of_parsePeoFence hparse with ⟨hreads, hcounts⟩
      have hwhole := spells_numerals [] record.numerals_values
      rw [List.append_nil] at hwhole
      have hpoints := points_length_of_spells hwhole hreads hcounts
      have hlong := hreads.length_le
      rw [fence.numbers_length, List.length_take] at hlong
      rw [record.numerals_length] at h hlong
      simp only [PeoFenceStatus.fieldCount, hpoints] at h hlong
      lia

end Records

/-!
## The scan
-/

section Scan

variable {more : List String} {i : Nat}

theorem scan_skip (i : Nat) (skipped more : List String) :
    scanPeoFences i skipped.length (skipped ++ more) =
      scanPeoFences (i + skipped.length) 0 more := by
  induction skipped generalizing i with
  | nil => rfl
  | cons field skipped ih =>
      show scanPeoFences (i + 1) skipped.length (skipped ++ more) = _
      rw [ih, List.length_cons]
      congr 1
      lia

theorem scan_others {others : List String}
    (h : forall field, field ∈ others -> field ≠ "PEO") :
    scanPeoFences i 0 (others ++ more) =
      scanPeoFences (i + others.length) 0 more := by
  induction others generalizing i with
  | nil => rfl
  | cons field others ih =>
      have hfield := h field List.mem_cons_self
      rw [List.cons_append, scanPeoFences, if_pos hfield,
        ih (fun other hmem => h other (List.mem_cons_of_mem field hmem)),
        List.length_cons]
      congr 1
      lia

theorem scan_only_others {others : List String}
    (h : forall field, field ∈ others -> field ≠ "PEO") :
    scanPeoFences i 0 others = ([], []) := by
  rw [← List.append_nil others, scan_others h]
  rfl

theorem scan_record (record : FenceRecord) :
    scanPeoFences i 0 (record.fields ++ more) =
      (record.fence ::
          (scanPeoFences (i + record.fields.length) 0 more).1,
        (scanPeoFences (i + record.fields.length) 0 more).2) := by
  have hskip := scan_skip (i + 1) record.numerals more
  have hend : i + record.fields.length = i + 1 + record.numerals.length := by
    rw [FenceRecord.fields, List.length_cons]
    lia
  rw [hend, ← hskip, record.numerals_length, FenceRecord.fields,
    List.cons_append, scanPeoFences, if_neg (not_not_intro rfl),
    parsePeoFence_numerals]

theorem scan_item (item : FenceItem) :
    scanPeoFences i 0 (item.fields ++ more) =
      (item.fence :: (scanPeoFences (i + item.fields.length) 0 more).1,
        (scanPeoFences (i + item.fields.length) 0 more).2) := by
  rw [FenceItem.fields, List.append_assoc, scan_others item.others_valid,
    scan_record, List.length_append, Nat.add_assoc]
  rfl

/-- A cut in front of a record loses nothing; one inside it loses the record and
leaves one warning. -/
theorem scan_cut_item {item : FenceItem} {n : Nat}
    (h : n < item.fields.length) :
    (scanPeoFences i 0 (item.fields.take n)).1 = [] ∧
      (scanPeoFences i 0 (item.fields.take n)).2.length =
        if item.others.length < n then 1 else 0 := by
  by_cases hcut : item.others.length < n
  · rw [if_pos hcut]
    have hk : n - item.others.length - 1 < item.record.numerals.length := by
      simp only [FenceItem.fields, FenceRecord.fields, List.length_append,
        List.length_cons] at h
      lia
    have htake : item.fields.take n = item.others ++
        "PEO" :: item.record.numerals.take (n - item.others.length - 1) := by
      rw [FenceItem.fields, FenceRecord.fields, List.take_append,
        List.take_of_length_le (Nat.le_of_lt hcut)]
      congr 1
      exact List.take_cons (by lia)
    rcases parsePeoFence_cut (i := i + item.others.length) hk with
      ⟨warning, hwarning⟩
    rw [htake, scan_others item.others_valid, scanPeoFences,
      if_neg (not_not_intro rfl), hwarning]
    exact ⟨rfl, rfl⟩
  · rw [if_neg hcut]
    have htake : item.fields.take n = item.others.take n := by
      rw [FenceItem.fields]
      exact List.take_append_of_le_length (Nat.not_lt.mp hcut)
    rw [htake, scan_only_others (fun field hmem =>
      item.others_valid field (List.mem_of_mem_take hmem))]
    exact ⟨rfl, rfl⟩

end Scan

/-!
## Whole lists
-/

section Lists

variable {item : FenceItem} {items : List FenceItem} {others : List String}

theorem itemFields_cons (item : FenceItem) (items : List FenceItem) :
    itemFields (item :: items) = item.fields ++ itemFields items :=
  List.flatMap_cons

theorem endOf_zero : endOf (item :: items) 0 = item.fields.length := by
  rw [endOf, List.take_succ_cons, List.take_zero, itemFields_cons]
  simp [itemFields]

theorem endOf_succ (index : Nat) :
    endOf (item :: items) (index + 1) =
      item.fields.length + endOf items index := by
  rw [endOf, List.take_succ_cons, itemFields_cons, List.length_append]
  rfl

theorem length_le_endOf (item : FenceItem) (items : List FenceItem)
    (index : Nat) :
    item.fields.length ≤ endOf (item :: items) index := by
  cases index with
  | zero => rw [endOf_zero]
  | succ index =>
      rw [endOf_succ]
      exact Nat.le_add_right _ _

theorem cutsRecord_cons_of_lt (items : List FenceItem) {n : Nat}
    (h : n < item.fields.length) :
    CutsRecord (item :: items) n <-> item.others.length < n := by
  constructor
  · intro ⟨index, other, hother, hstart, _⟩
    cases index with
    | zero =>
        cases hother
        simpa [itemFields] using hstart
    | succ index =>
        rw [List.take_succ_cons, itemFields_cons, List.length_append] at hstart
        lia
  · intro hcut
    refine ⟨0, item, rfl, ?_, ?_⟩
    · simpa [itemFields] using hcut
    · rw [endOf_zero]
      exact h

theorem cutsRecord_cons_of_le (items : List FenceItem) {n : Nat}
    (h : item.fields.length ≤ n) :
    CutsRecord (item :: items) n <->
      CutsRecord items (n - item.fields.length) := by
  constructor
  · intro ⟨index, other, hother, hstart, hend⟩
    cases index with
    | zero =>
        rw [endOf_zero] at hend
        lia
    | succ index =>
        rw [endOf_succ] at hend
        rw [List.take_succ_cons, itemFields_cons, List.length_append] at hstart
        exact ⟨index, other, hother, by lia, by lia⟩
  · intro ⟨index, other, hother, hstart, hend⟩
    refine ⟨index + 1, other, hother, ?_, ?_⟩
    · rw [List.take_succ_cons, itemFields_cons, List.length_append]
      lia
    · rw [endOf_succ]
      lia

theorem scan_items (hothers : forall field, field ∈ others -> field ≠ "PEO")
    (i : Nat) :
    scanPeoFences i 0 (itemFields items ++ others) =
      (items.map FenceItem.fence, []) := by
  induction items generalizing i with
  | nil =>
      exact scan_only_others hothers
  | cons item items ih =>
      rw [itemFields_cons, List.append_assoc, scan_item, ih]
      rfl

/-- What is decoded of the first fields of a list: the records that end there,
and one warning if another one is cut. -/
structure DecodesCut (items : List FenceItem) (n : Nat)
    (decoded : List PeoFenceStatus × List Warning) : Prop where
  complete : exists k, k ≤ items.length ∧
    decoded.1 = (items.take k).map FenceItem.fence ∧
      forall index, index < items.length ->
        (index < k <-> endOf items index ≤ n)
  warned : CutsRecord items n -> decoded.2.length = 1
  quiet : ¬ CutsRecord items n -> decoded.2 = []

theorem DecodesCut.of_lt {n : Nat}
    {decoded : List PeoFenceStatus × List Warning}
    (h : n < item.fields.length) (hnone : decoded.1 = [])
    (hwarnings : decoded.2.length = if item.others.length < n then 1 else 0) :
    DecodesCut (item :: items) n decoded := by
  have hcuts := cutsRecord_cons_of_lt items h
  constructor
  · refine ⟨0, Nat.zero_le _, hnone, ?_⟩
    intro index _
    have hle := length_le_endOf item items index
    lia
  · intro hcut
    rw [hwarnings, if_pos (hcuts.mp hcut)]
  · intro hcut
    apply List.length_eq_zero_iff.mp
    rw [hwarnings, if_neg]
    intro hc
    exact hcut (hcuts.mpr hc)

theorem DecodesCut.of_le {n : Nat}
    {decoded : List PeoFenceStatus × List Warning}
    (hle : item.fields.length ≤ n)
    (h : DecodesCut items (n - item.fields.length) decoded) :
    DecodesCut (item :: items) n (item.fence :: decoded.1, decoded.2) := by
  have hcuts := cutsRecord_cons_of_le items hle
  rcases h.complete with ⟨k, hk, hfences, hends⟩
  constructor
  · refine ⟨k + 1, Nat.succ_le_succ hk, ?_, ?_⟩
    · rw [List.take_succ_cons, List.map_cons, ← hfences]
    · intro index hindex
      cases index with
      | zero =>
          rw [endOf_zero]
          lia
      | succ index =>
          rw [endOf_succ]
          have hiff := hends index (Nat.lt_of_succ_lt_succ hindex)
          lia
  · intro hcut
    exact h.warned (hcuts.mp hcut)
  · intro hcut
    apply h.quiet
    intro hc
    exact hcut (hcuts.mpr hc)

theorem decodesCut_nil (n : Nat) : DecodesCut [] n ([], []) := by
  constructor
  · exact ⟨0, Nat.le_refl 0, rfl, fun index h => absurd h (by simp)⟩
  · intro ⟨index, other, hother, _⟩
    cases hother
  · intro _
    rfl

theorem decodesCut_scan (hothers : forall field, field ∈ others ->
      field ≠ "PEO") (i n : Nat) :
    DecodesCut items n
      (scanPeoFences i 0 ((itemFields items ++ others).take n)) := by
  induction items generalizing i n with
  | nil =>
      show DecodesCut [] n (scanPeoFences i 0 (others.take n))
      rw [scan_only_others (fun field hmem =>
        hothers field (List.mem_of_mem_take hmem))]
      exact decodesCut_nil n
  | cons item items ih =>
      rw [itemFields_cons, List.append_assoc]
      cases Nat.lt_or_ge n item.fields.length with
      | inl h =>
          rw [List.take_append_of_le_length (Nat.le_of_lt h)]
          rcases scan_cut_item (i := i) h with ⟨hnone, hwarnings⟩
          exact DecodesCut.of_lt h hnone hwarnings
      | inr hle =>
          rw [List.take_append, List.take_of_length_le hle, scan_item]
          exact DecodesCut.of_le hle
            (ih (i + item.fields.length) (n - item.fields.length))

end Lists

/-- Lists of fence records are decoded exactly, and cut ones by whole fences. -/
theorem parsePeoFenceList_fields (list : FenceList) :
    parsePeoFenceList list.fields = (list.fences, []) ∧
      forall n, DecodesCut list.items n
        (parsePeoFenceList (list.fields.take n)) := by
  constructor
  · exact scan_items list.others_valid 0
  · intro n
    exact decodesCut_scan list.others_valid 0 n

end Tracker
end AvtTracker
