import AvtTracker.Foundation.DecimalNumerals
import AvtTracker.Tracker.PeoRecords
import Mathlib.Data.List.Forall2

/-!
# Fabricated fences

{lit}`Number` makes a number of a blank field, of one with spaces around it and of
a hexadecimal one, and a count that is not whole, as it was written or as it comes
out in doubles, asks for one more point.  A list yields such fences exactly when
the scan meets such a record.
-/

namespace AvtTracker
namespace Tracker

open Foundation

/-- There is a record at the index: its start and end ask for so many points, and
{lit}`Number` makes finite numbers of all its fields. -/
structure Readable (fields : List String) (i n : Nat) : Prop where
  peo : fields[i]? = some "PEO"
  numbers : forall j, j < 8 + 2 * n ->
    exists v, number fields[i + 1 + j]? = some v
  count : exists startPoint endPoint : Rat,
    number fields[i + 3]? = some startPoint ∧
      number fields[i + 4]? = some endPoint ∧
        (pointCountOf startPoint endPoint).lt 0 = false ∧
          Rounds (pointCountOf startPoint endPoint) n

/-- The scan looks for a record at the index. -/
inductive Scanned (fields : List String) : Nat -> Prop
  | start : Scanned fields 0
  | other {i : Nat} {field : String} : Scanned fields i ->
      fields[i]? = some field -> field ≠ "PEO" -> Scanned fields (i + 1)
  | record {i n : Nat} : Scanned fields i -> Readable fields i n ->
      Scanned fields (i + 1 + (8 + 2 * n))

/-- The fence is decoded from the record at the index. -/
structure ReportedAt (fields : List String) (i : Nat)
    (fence : PeoFenceStatus) : Prop where
  scanned : Scanned fields i
  peo : fields[i]? = some "PEO"
  decoded : parsePeoFence i (fields.drop (i + 1)) = Except.ok fence

/-- The record is that of the fence: its fields are decimal numerals of the
numbers, and it has as many points as the difference of its start and end, taken
in doubles like all numbers, asks for. -/
structure FenceAt (fields : List String) (i : Nat) (fence : PeoFenceStatus) :
    Prop where
  peo : fields[i]? = some "PEO"
  numerals : forall (j : Nat) (v : Rat), fence.numbers[j]? = some v ->
    exists numeral, fields[i + 1 + j]? = some numeral ∧
      decimalValue numeral.toList = some v
  count : pointCountOf fence.startPoint fence.endPoint =
    JsNumber.finite fence.points.length

def NothingFabricated (fields : List String) : Prop :=
  forall i fence, ReportedAt fields i fence -> FenceAt fields i fence

/-- The fields of the record are decimal numerals, and the count its start and end
give is the number of points that is read, not rounded up to it. -/
structure WellWritten (fields : List String) (i n : Nat) : Prop where
  numerals : forall j, j < 8 + 2 * n ->
    exists numeral, fields[i + 1 + j]? = some numeral ∧
      DecimalText numeral.toList
  count : exists startPoint endPoint : Rat,
    number fields[i + 3]? = some startPoint ∧
      number fields[i + 4]? = some endPoint ∧
        pointCountOf startPoint endPoint = JsNumber.finite n

/-!
## Readable records
-/

section Readable

variable {fields : List String} {i n m : Nat} {fence : PeoFenceStatus}

theorem Readable.count_unique (h : Readable fields i n)
    (h' : Readable fields i m) : n = m := by
  rcases h.count with ⟨s, e, hs, he, _, hrounds⟩
  rcases h'.count with ⟨s', e', hs', he', _, hrounds'⟩
  rw [hs] at hs'
  rw [he] at he'
  cases hs'
  cases he'
  exact hrounds.unique hrounds'

theorem spells_drop_iff {values : List Rat} :
    Spells (fields.drop (i + 1)) values <->
      forall (j : Nat) (v : Rat), values[j]? = some v ->
        number fields[i + 1 + j]? = some v := by
  simp only [Spells, List.getElem?_drop]

/-- A decoded record is readable. -/
theorem readable_of_parsePeoFence (hpeo : fields[i]? = some "PEO")
    (h : parsePeoFence i (fields.drop (i + 1)) = Except.ok fence) :
    Readable fields i fence.points.length := by
  rcases spells_of_parsePeoFence h with ⟨hreads, hcounts⟩
  rw [spells_drop_iff] at hreads
  constructor
  · exact hpeo
  · intro j hj
    have hlt : j < fence.numbers.length := by
      rw [fence.numbers_length, PeoFenceStatus.fieldCount]
      lia
    exact ⟨_, hreads j _ (List.getElem?_eq_getElem hlt)⟩
  · exact ⟨fence.startPoint, fence.endPoint, hreads 2 _ rfl, hreads 3 _ rfl,
      hcounts.accepted, hcounts.rounds⟩

theorem exists_points {values : List Rat} (h : values.length = 2 * n) :
    exists points : List PeoFencePoint, pointNumbers points = values ∧
      points.length = n := by
  induction n generalizing values with
  | zero =>
      cases List.length_eq_zero_iff.mp h
      exact ⟨[], rfl, rfl⟩
  | succ n ih =>
      cases values with
      | nil => simp at h
      | cons longitude values =>
          cases values with
          | nil =>
              simp only [List.length_singleton] at h
              lia
          | cons latitude values =>
              simp only [List.length_cons] at h
              rcases ih (show values.length = 2 * n by lia) with
                ⟨points, hnumbers, hlen⟩
              refine ⟨{ longitude := longitude, latitude := latitude } ::
                points, ?_, ?_⟩
              · rw [← hnumbers]
                rfl
              · rw [List.length_cons, hlen]

theorem exists_four {values : List Rat} (h : values.length = 4) :
    exists a b c d, values = [a, b, c, d] := by
  match values, h with
  | [a, b, c, d], _ => exact ⟨a, b, c, d, rfl⟩

theorem exists_fence {values : List Rat} (h : values.length = 8 + 2 * n) :
    exists fence : PeoFenceStatus, fence.numbers = values ∧
      fence.points.length = n := by
  have hhead : (values.take 4).length = 4 := by
    rw [List.length_take]
    lia
  have hmiddle : ((values.drop 4).take (2 * n)).length = 2 * n := by
    rw [List.length_take, List.length_drop]
    lia
  have htail : ((values.drop 4).drop (2 * n)).length = 4 := by
    rw [List.length_drop, List.length_drop]
    lia
  rcases exists_four hhead with ⟨peoId, mode, startPoint, endPoint, hfront⟩
  rcases exists_points hmiddle with ⟨points, hpoints, hlen⟩
  rcases exists_four htail with ⟨interval, alarmMode, threshold, duration, hback⟩
  refine ⟨{
    peoId := peoId
    mode := mode
    startPoint := startPoint
    endPoint := endPoint
    points := points
    checkIntervalSeconds := interval
    overSpeedAlarmMode := alarmMode
    overSpeedThresholdKmh := threshold
    overSpeedDurationSeconds := duration }, ?_, hlen⟩
  show [peoId, mode, startPoint, endPoint] ++ (pointNumbers points ++
    [interval, alarmMode, threshold, duration]) = values
  rw [hpoints, ← hfront, ← hback, List.take_append_drop,
    List.take_append_drop]

theorem Readable.exists_values (h : Readable fields i n) :
    exists values : List Rat, values.length = 8 + 2 * n ∧
      Spells (fields.drop (i + 1)) values := by
  refine ⟨(List.range (8 + 2 * n)).map (fun j =>
    (number fields[i + 1 + j]?).getD 0), by simp, ?_⟩
  rw [spells_drop_iff]
  intro j v hv
  rw [List.getElem?_map, Option.map_eq_some_iff] at hv
  rcases hv with ⟨k, hk, hv⟩
  rcases List.getElem?_eq_some_iff.mp hk with ⟨hlt, hjk⟩
  rw [List.getElem_range] at hjk
  subst hjk
  rw [List.length_range] at hlt
  rcases h.numbers j hlt with ⟨w, hw⟩
  rw [hw] at hv ⊢
  rw [← hv]
  rfl

theorem Readable.exists_reported (h : Readable fields i n)
    (hscanned : Scanned fields i) :
    exists fence, ReportedAt fields i fence ∧ fence.points.length = n := by
  rcases h.exists_values with ⟨values, hlen, hreads⟩
  rcases exists_fence hlen with ⟨fence, hnumbers, hpoints⟩
  rw [← hnumbers] at hreads
  refine ⟨fence, ⟨hscanned, h.peo, ?_⟩, hpoints⟩
  apply parsePeoFence_of_spells hreads
  rcases h.count with ⟨s, e, hs, he, haccepted, hrounds⟩
  rw [spells_drop_iff] at hreads
  have hstart := hreads 2 fence.startPoint rfl
  have hend := hreads 3 fence.endPoint rfl
  rw [show number fields[i + 1 + 2]? = some s from hs] at hstart
  rw [show number fields[i + 1 + 3]? = some e from he] at hend
  cases hstart
  cases hend
  rw [← hpoints] at hrounds
  exact ⟨haccepted, hrounds⟩

end Readable

/-!
## Positions of records
-/

section Positions

variable {fields : List String} {i n p : Nat} {fence : PeoFenceStatus}

/-- The scan does not look into a record. -/
theorem scanned_behind_record (hrecord : Readable fields i n) (p : Nat)
    (hi : Scanned fields i) (hp : Scanned fields p) (hlt : i < p) :
    i + 1 + (8 + 2 * n) ≤ p := by
  induction p using Nat.strongRecOn generalizing i n with
  | ind p ih =>
      cases hp with
      | start => lia
      | other hq hfield hne =>
          rename_i q field
          cases Nat.lt_or_eq_of_le (Nat.le_of_lt_succ hlt) with
          | inl hbefore =>
              have hle := ih q (Nat.lt_succ_self q) hrecord hi hq hbefore
              lia
          | inr heq =>
              subst heq
              rw [hrecord.peo] at hfield
              exact absurd (Option.some.inj hfield).symm hne
      | record hq hreadable =>
          rename_i q m
          rcases Nat.lt_trichotomy i q with hbefore | heq | hinside
          · have hle := ih q (by lia) hrecord hi hq hbefore
            lia
          · subst heq
            rw [hrecord.count_unique hreadable]
          · have hle := ih i hlt hreadable hq hi hinside
            lia

/-- The scan only goes on behind records it could read. -/
theorem readable_of_scanned_behind (hi : Scanned fields i)
    (hpeo : fields[i]? = some "PEO") (hp : Scanned fields p) (hlt : i < p) :
    exists n, Readable fields i n := by
  induction hp with
  | start => lia
  | other hq hfield hne ih =>
      rename_i q field
      cases Nat.lt_or_eq_of_le (Nat.le_of_lt_succ hlt) with
      | inl hbefore => exact ih hbefore
      | inr heq =>
          subst heq
          rw [hpeo] at hfield
          exact absurd (Option.some.inj hfield).symm hne
  | record hq hreadable ih =>
      rename_i q m
      rcases Nat.lt_trichotomy i q with hbefore | heq | hinside
      · exact ih hbefore
      · subst heq
        exact ⟨m, hreadable⟩
      · have hle := scanned_behind_record hreadable i hq hi hinside
        lia

theorem ReportedAt.scanned_behind (h : ReportedAt fields i fence) :
    Scanned fields (i + 1 + fence.fieldCount) := by
  have hreadable := readable_of_parsePeoFence h.peo h.decoded
  have hbehind := Scanned.record h.scanned hreadable
  rw [show i + 1 + (8 + 2 * fence.points.length) =
    i + 1 + fence.fieldCount by simp only [PeoFenceStatus.fieldCount]; lia]
    at hbehind
  exact hbehind

theorem ReportedAt.le_of_scanned (h : ReportedAt fields i fence)
    (hp : Scanned fields p) (hlt : i < p) : i + 1 + fence.fieldCount ≤ p := by
  have hreadable := readable_of_parsePeoFence h.peo h.decoded
  have hle := scanned_behind_record hreadable p h.scanned hp hlt
  simp only [PeoFenceStatus.fieldCount]
  lia

/-- The positions of the records a scan reports, from an index on. -/
structure Positions (fields : List String) (i : Nat) (positions : List Nat)
    (fences : List PeoFenceStatus) : Prop where
  ordered : positions.Pairwise (fun p q => p < q)
  reported : List.Forall₂ (ReportedAt fields) positions fences
  complete : forall p, p ∈ positions <->
    i ≤ p ∧ exists fence, ReportedAt fields p fence

theorem Positions.of_end (h : fields.length ≤ i) :
    Positions fields i [] [] := by
  refine ⟨List.Pairwise.nil, List.Forall₂.nil, ?_⟩
  intro p
  constructor
  · intro hp
    cases hp
  · intro ⟨hp, fence, hreported⟩
    have hpeo := hreported.peo
    rw [List.getElem?_eq_none (by lia)] at hpeo
    cases hpeo

theorem Positions.of_other {field : String} {positions : List Nat}
    {fences : List PeoFenceStatus} (hfield : fields[i]? = some field)
    (hne : field ≠ "PEO") (h : Positions fields (i + 1) positions fences) :
    Positions fields i positions fences := by
  refine ⟨h.ordered, h.reported, ?_⟩
  intro p
  rw [h.complete]
  constructor
  · intro ⟨hp, hreported⟩
    exact ⟨by lia, hreported⟩
  · intro ⟨hp, fence, hreported⟩
    refine ⟨?_, fence, hreported⟩
    apply Nat.lt_of_le_of_ne hp
    intro heq
    subst heq
    have hpeo := hreported.peo
    rw [hfield] at hpeo
    exact hne (Option.some.inj hpeo)

theorem Positions.of_failed {warning : Warning} (hscanned : Scanned fields i)
    (hpeo : fields[i]? = some "PEO")
    (hfailed : parsePeoFence i (fields.drop (i + 1)) = Except.error warning) :
    Positions fields i [] [] := by
  refine ⟨List.Pairwise.nil, List.Forall₂.nil, ?_⟩
  intro p
  constructor
  · intro hp
    cases hp
  · intro ⟨hp, fence, hreported⟩
    cases Nat.lt_or_eq_of_le hp with
    | inr heq =>
        subst heq
        have hdecoded := hreported.decoded
        rw [hfailed] at hdecoded
        cases hdecoded
    | inl hlt =>
        rcases readable_of_scanned_behind hscanned hpeo hreported.scanned hlt
          with ⟨n, hreadable⟩
        rcases hreadable.exists_reported hscanned with ⟨other, hother, _⟩
        have hdecoded := hother.decoded
        rw [hfailed] at hdecoded
        cases hdecoded

theorem Positions.cons {positions : List Nat} {fences : List PeoFenceStatus}
    (hreported : ReportedAt fields i fence)
    (h : Positions fields (i + 1 + fence.fieldCount) positions fences) :
    Positions fields i (i :: positions) (fence :: fences) := by
  constructor
  · apply List.Pairwise.cons _ h.ordered
    intro p hp
    have hle := ((h.complete p).mp hp).left
    lia
  · exact List.Forall₂.cons hreported h.reported
  · intro p
    rw [List.mem_cons, h.complete]
    constructor
    · intro hp
      cases hp with
      | inl heq =>
          rw [heq]
          exact ⟨Nat.le_refl i, fence, hreported⟩
      | inr hp => exact ⟨by lia, hp.right⟩
    · intro ⟨hp, other, hother⟩
      cases Nat.lt_or_eq_of_le hp with
      | inr heq => exact Or.inl heq.symm
      | inl hlt =>
          apply Or.inr
          exact ⟨hreported.le_of_scanned hother.scanned hlt, other, hother⟩

theorem exists_positions_scan (rest : List String) :
    forall i skip, fields.drop i = rest -> Scanned fields (i + skip) ->
      exists positions,
        Positions fields (i + skip) positions
          (scanPeoFences i skip rest).1 := by
  induction rest with
  | nil =>
      intro i skip hrest _
      have hlen := List.drop_eq_nil_iff.mp hrest
      exists []
      rw [scanPeoFences]
      exact Positions.of_end (by lia)
  | cons field rest ih =>
      intro i skip hrest hscanned
      have hfield : fields[i]? = some field := by
        rw [← List.head?_drop, hrest]
        rfl
      have hdrop : fields.drop (i + 1) = rest := by
        rw [← List.tail_drop, hrest]
        rfl
      cases skip with
      | succ skip =>
          have hshift : i + (skip + 1) = i + 1 + skip := by lia
          rw [hshift] at hscanned ⊢
          exact ih (i + 1) skip hdrop hscanned
      | zero =>
          by_cases hne : field ≠ "PEO"
          · rw [scanPeoFences, if_pos hne]
            rcases ih (i + 1) 0 hdrop (Scanned.other hscanned hfield hne) with
              ⟨positions, hpositions⟩
            exact ⟨positions, hpositions.of_other hfield hne⟩
          · rw [scanPeoFences, if_neg hne]
            have hpeo : fields[i]? = some "PEO" := by
              rw [hfield, not_not.mp hne]
            cases hfence : parsePeoFence i rest with
            | error warning =>
                rw [← hdrop] at hfence
                exact ⟨[], Positions.of_failed hscanned hpeo hfence⟩
            | ok fence =>
                rw [← hdrop] at hfence
                have hreported : ReportedAt fields i fence :=
                  ⟨hscanned, hpeo, hfence⟩
                rcases ih (i + 1) fence.fieldCount hdrop
                  hreported.scanned_behind with ⟨positions, hpositions⟩
                exact ⟨i :: positions, hpositions.cons hreported⟩

end Positions

/-!
## Which lists are safe
-/

section Safe

variable {fields : List String} {i : Nat} {fence : PeoFenceStatus}

/-- The numbers of a reported fence are what {lit}`Number` makes of the fields. -/
theorem ReportedAt.reads (h : ReportedAt fields i fence) {j : Nat} {v : Rat}
    (hv : fence.numbers[j]? = some v) :
    number fields[i + 1 + j]? = some v :=
  spells_drop_iff.mp (spells_of_parsePeoFence h.decoded).left j v hv

/-- A fence is that of its record exactly when the record is well written. -/
theorem fenceAt_iff_wellWritten (h : ReportedAt fields i fence) :
    FenceAt fields i fence <->
      WellWritten fields i fence.points.length := by
  have hstart : number fields[i + 3]? = some fence.startPoint :=
    h.reads (j := 2) rfl
  have hend : number fields[i + 4]? = some fence.endPoint :=
    h.reads (j := 3) rfl
  constructor
  · intro hfence
    constructor
    · intro j hj
      have hlt : j < fence.numbers.length := by
        rw [fence.numbers_length, PeoFenceStatus.fieldCount]
        lia
      rcases hfence.numerals j _ (List.getElem?_eq_getElem hlt) with
        ⟨numeral, hnumeral, hvalue⟩
      refine ⟨numeral, hnumeral, ?_⟩
      rw [DecimalText, hvalue]
      rfl
    · exact ⟨fence.startPoint, fence.endPoint, hstart, hend, hfence.count⟩
  · intro hwritten
    constructor
    · exact h.peo
    · intro j v hv
      have hlt := (List.getElem?_eq_some_iff.mp hv).choose
      rw [fence.numbers_length, PeoFenceStatus.fieldCount] at hlt
      rcases hwritten.numerals j (by lia) with ⟨numeral, hnumeral, htext⟩
      rcases Option.isSome_iff_exists.mp htext with ⟨w, hw⟩
      refine ⟨numeral, hnumeral, ?_⟩
      have hread := h.reads hv
      rw [hnumeral, number_of_decimalValue hw] at hread
      rw [hw, Option.some.inj hread]
    · rcases hwritten.count with ⟨s, e, hs, he, hcount⟩
      rw [hstart] at hs
      rw [hend] at he
      cases hs
      cases he
      exact hcount

end Safe

/-- The fences returned are those of the records the scan reads, one after the
other, and none is fabricated exactly when these records are well written. -/
theorem nothingFabricated_iff (fields : List String) :
    (exists positions,
        Positions fields 0 positions (parsePeoFenceList fields).1) ∧
      (NothingFabricated fields <->
        forall i n, Scanned fields i -> Readable fields i n ->
          WellWritten fields i n) := by
  constructor
  · exact exists_positions_scan fields 0 0 rfl Scanned.start
  · constructor
    · intro h i n hscanned hreadable
      rcases hreadable.exists_reported hscanned with ⟨fence, hreported, hlen⟩
      rw [← hlen]
      exact (fenceAt_iff_wellWritten hreported).mp (h i fence hreported)
    · intro h i fence hreported
      have hreadable :=
        readable_of_parsePeoFence hreported.peo hreported.decoded
      exact (fenceAt_iff_wellWritten hreported).mpr
        (h i _ hreported.scanned hreadable)

-- The double of 4.4 is by a little more than one larger than that of 3.4.
example : (parsePeoFenceList ["PEO", "1", "1", "3.4", "4.4", "10", "20", "11",
      "21", "1", "2", "3", "4", "5", "6"]).1.map
    (fun fence => fence.points.length) = [3] := by
  decide +kernel

def blankRecord : List String :=
  ["PEO", "", "1", "1", "0", "0", "0", "30", "0"]

/-- It is reported as fence 0. -/
theorem nothingFabricated_fails_blank :
    (parsePeoFenceList blankRecord).1.map PeoFenceStatus.peoId = [0] ∧
      ¬ NothingFabricated blankRecord := by
  have hdecoded : parsePeoFence 0 (blankRecord.drop 1) = Except.ok
      { peoId := 0, mode := 1, startPoint := 1, endPoint := 0, points := []
        checkIntervalSeconds := 0, overSpeedAlarmMode := 0
        overSpeedThresholdKmh := 30, overSpeedDurationSeconds := 0 } := by
    decide +kernel
  refine ⟨by decide +kernel, ?_⟩
  intro h
  have hfence := h 0 _ ⟨Scanned.start, rfl, hdecoded⟩
  rcases hfence.numerals 0 0 rfl with ⟨numeral, hnumeral, hvalue⟩
  cases hnumeral
  cases hvalue

end Tracker
end AvtTracker
