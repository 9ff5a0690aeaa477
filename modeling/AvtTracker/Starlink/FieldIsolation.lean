import AvtTracker.Foundation.Isolation
import AvtTracker.Starlink.ParseFrame

/-!
# Fields of an event report

A payload is looked at member by member, the digital lines entry by entry.  Every
tag writes members of its own, so a field can only change what its tag writes.
-/

namespace AvtTracker
namespace Starlink

open Foundation

/-!
## Members
-/

inductive Member where
  | eventId
  | eventName
  | alarm
  | deviceTime
  | fixTime
  | latitude
  | longitude
  | altitudeM
  | speedKnots
  | speedKmh
  | course
  | odometerM
  | digitalInput (name : String)
  | digitalOutput (name : String)
  | lac
  | cid
  | mainPowerVoltage
  | batteryVoltage
  | destination
  | ignition
  | satellites
  | pdop
  | unsupportedTags
  deriving DecidableEq, Repr

def Member.Value : Member -> Type
  | eventName | alarm => Option String
  | deviceTime | fixTime => Option (Option Date)
  | destination => Option Utf16
  | ignition => Option Bool
  | unsupportedTags => List String
  | _ => Option JsNumber

def Member.read : forall m : Member, StarlinkReportPayload -> m.Value
  | eventId => fun payload => payload.eventId
  | eventName => fun payload => payload.eventName
  | alarm => fun payload => payload.alarm
  | deviceTime => fun payload => payload.deviceTime
  | fixTime => fun payload => payload.fixTime
  | latitude => fun payload => payload.latitude
  | longitude => fun payload => payload.longitude
  | altitudeM => fun payload => payload.altitudeM
  | speedKnots => fun payload => payload.speedKnots
  | speedKmh => fun payload => payload.speedKmh
  | course => fun payload => payload.course
  | odometerM => fun payload => payload.odometerM
  | digitalInput name => fun payload => payload.digitalInputs.lookup name
  | digitalOutput name => fun payload => payload.digitalOutputs.lookup name
  | lac => fun payload => payload.lac
  | cid => fun payload => payload.cid
  | mainPowerVoltage => fun payload => payload.mainPowerVoltage
  | batteryVoltage => fun payload => payload.batteryVoltage
  | destination => fun payload => payload.destination
  | ignition => fun payload => payload.ignition
  | satellites => fun payload => payload.satellites
  | pdop => fun payload => payload.pdop
  | unsupportedTags => fun payload => payload.unsupportedTags

def writtenMembers (tag : String) : List Member :=
  match tag with
  | "#EDT#" => [Member.deviceTime]
  | "#EID#" =>
      [Member.eventId, Member.eventName, Member.alarm, Member.ignition]
  | "#PDT#" => [Member.fixTime]
  | "#LAT#" => [Member.latitude]
  | "#LONG#" => [Member.longitude]
  | "#SPD#" => [Member.speedKnots]
  | "#HEAD#" => [Member.course]
  | "#ODO#" => [Member.odometerM]
  | "#IN1#" | "#IN2#" | "#IN3#" | "#IN4#" =>
      [Member.digitalInput (lineName tag)]
  | "#OUT1#" | "#OUT2#" | "#OUT3#" | "#OUT4#" =>
      [Member.digitalOutput (lineName tag)]
  | "#LAC#" => [Member.lac]
  | "#CID#" => [Member.cid]
  | "#VIN#" => [Member.mainPowerVoltage]
  | "#VBAT#" => [Member.batteryVoltage]
  | "#DEST#" => [Member.destination]
  | "#IGN#" | "#ENG#" => [Member.ignition]
  | _ => [Member.unsupportedTags]

example : writtenMembers "#IN2#" = [Member.digitalInput "IN2"] := by decide

/-- What is decoded so far, looked at through a member. -/
def Member.view (m : Member)
    (decoded : StarlinkReportPayload × List StarlinkWarning) : m.Value :=
  m.read decoded.1

/-!
## One tag
-/

/-- What a tag may do to two payloads: refuse its value on both, or rewrite
them memberwise, and its own members only. -/
inductive Effects (written : List Member) (p q : StarlinkReportPayload) :
    Except TagError StarlinkReportPayload ->
    Except TagError StarlinkReportPayload -> Prop
  | refused (error : TagError) :
      Effects written p q (Except.error error) (Except.error error)
  | wrote {p' q' : StarlinkReportPayload}
      (memberwise : forall m : Member,
        m.read p = m.read q -> m.read p' = m.read q')
      (frame : forall m : Member, m ∉ written -> m.read p' = m.read p) :
      Effects written p q (Except.ok p') (Except.ok q')

variable {p q : StarlinkReportPayload}

theorem applyTag_unknown {tag : String} (value : Utf16)
    (h : tag ∉ defaultStarlinkFormatTags) :
    applyTag tag value p = Except.ok { p with
      unsupportedTags := p.unsupportedTags ++ [tag] } := by
  unfold applyTag
  split
  all_goals try (exact absurd (by decide) h)
  rfl

theorem writtenMembers_unknown {tag : String}
    (h : tag ∉ defaultStarlinkFormatTags) :
    writtenMembers tag = [Member.unsupportedTags] := by
  unfold writtenMembers
  split
  all_goals try (exact absurd (by decide) h)
  rfl

/-- An update of a payload that is memberwise and keeps to its members. -/
structure WritesOnly (written : List Member)
    (update : StarlinkReportPayload -> StarlinkReportPayload) : Prop where
  memberwise : forall (m : Member) (p q : StarlinkReportPayload),
    m.read p = m.read q -> m.read (update p) = m.read (update q)
  frame : forall (m : Member) (p : StarlinkReportPayload),
    m ∉ written -> m.read (update p) = m.read p

section Effects

variable {written : List Member} {tag : String}

theorem WritesOnly.effects_ok
    {update : StarlinkReportPayload -> StarlinkReportPayload}
    (h : WritesOnly written update) :
    Effects written p q (Except.ok (update p)) (Except.ok (update q)) := by
  apply Effects.wrote
  · intro m
    exact h.memberwise m p q
  · intro m
    exact h.frame m p

theorem WritesOnly.effects_parse {α : Type} {x : Except TagError α}
    {update : α -> StarlinkReportPayload -> StarlinkReportPayload}
    (h : forall a, WritesOnly written (update a)) :
    Effects written p q (do let a ← x; pure (update a p))
      (do let a ← x; pure (update a q)) := by
  cases x with
  | error error => exact Effects.refused error
  | ok a => exact (h a).effects_ok

theorem lookup_insert_congr {lines lines' : DigitalLines} {line name : String}
    {level : JsNumber} (h : lines.lookup name = lines'.lookup name) :
    (lines.insert line level).lookup name =
      (lines'.insert line level).lookup name := by
  by_cases hname : name = line
  · subst hname
    rw [AList.lookup_insert, AList.lookup_insert]
  · rw [AList.lookup_insert_ne hname, AList.lookup_insert_ne hname, h]

theorem writesOnly_digitalInput (line : String) (level : JsNumber) :
    WritesOnly [Member.digitalInput line] (fun p => { p with
      digitalInputs := p.digitalInputs.insert line level }) := by
  constructor
  · intro m p q h
    cases m with
    | digitalInput name => exact lookup_insert_congr h
    | _ => exact h
  · intro m p h
    cases m with
    | digitalInput name =>
        apply AList.lookup_insert_ne
        intro hname
        exact h (by rw [hname]; exact List.mem_singleton_self _)
    | _ => rfl

theorem writesOnly_digitalOutput (line : String) (level : JsNumber) :
    WritesOnly [Member.digitalOutput line] (fun p => { p with
      digitalOutputs := p.digitalOutputs.insert line level }) := by
  constructor
  · intro m p q h
    cases m with
    | digitalOutput name => exact lookup_insert_congr h
    | _ => exact h
  · intro m p h
    cases m with
    | digitalOutput name =>
        apply AList.lookup_insert_ne
        intro hname
        exact h (by rw [hname]; exact List.mem_singleton_self _)
    | _ => rfl

/-- Of the members an event id writes, only the ignition depends on its old
value. -/
theorem writesOnly_eventId (eventId : JsNumber) :
    WritesOnly
      [Member.eventId, Member.eventName, Member.alarm, Member.ignition]
      (applyEventId eventId) := by
  constructor
  · intro m p q h
    cases m with
    | ignition =>
        exact congrArg (fun old : Option Bool => if eventId = 24 then some true
          else if eventId = 25 then some false else old) h
    | eventId | eventName | alarm => rfl
    | _ => exact h
  · intro m p h
    cases m with
    | eventId | eventName | alarm | ignition => exact absurd (by decide) h
    | _ => rfl

theorem writesOnly_unsupportedTags (tag : String) :
    WritesOnly [Member.unsupportedTags] (fun p => { p with
      unsupportedTags := p.unsupportedTags ++ [tag] }) := by
  constructor
  · intro m p q h
    cases m with
    | unsupportedTags => exact congrArg (fun tags => tags ++ [tag]) h
    | _ => exact h
  · intro m p h
    cases m with
    | unsupportedTags => exact absurd (by decide) h
    | _ => rfl

theorem writesOnly_overwrite {m : Member}
    {update : StarlinkReportPayload -> StarlinkReportPayload}
    (hset : forall p q, m.read (update p) = m.read (update q))
    (hframe : forall (m' : Member) p, m' ≠ m ->
      m'.read (update p) = m'.read p) : WritesOnly [m] update := by
  constructor
  · intro m' p q h
    by_cases hm : m' = m
    · subst hm
      exact hset p q
    · rw [hframe m' p hm, hframe m' q hm, h]
  · intro m' p h
    apply hframe m' p
    intro hm
    exact h (List.mem_singleton.mpr hm)

end Effects

theorem applyTag_effects (tag : String) (value : Utf16) :
    Effects (writtenMembers tag) p q (applyTag tag value p)
      (applyTag tag value q) := by
  by_cases htag : tag ∈ defaultStarlinkFormatTags
  · simp only [defaultStarlinkFormatTags, List.mem_cons, List.not_mem_nil,
      or_false] at htag
    rcases htag with rfl | rfl | rfl | rfl | rfl | rfl | rfl | rfl | rfl | rfl
      | rfl | rfl | rfl | rfl | rfl | rfl | rfl | rfl | rfl | rfl | rfl | rfl
      | rfl
    case inr.inl => exact WritesOnly.effects_parse writesOnly_eventId
    all_goals try exact WritesOnly.effects_parse (writesOnly_digitalInput _)
    all_goals try exact WritesOnly.effects_parse (writesOnly_digitalOutput _)
    all_goals first
      | apply WritesOnly.effects_ok
      | apply WritesOnly.effects_parse
        intro a
    all_goals
      apply writesOnly_overwrite
      · intro p q
        rfl
      · intro m p hm
        cases m <;> first | rfl | exact absurd rfl hm
  · rw [applyTag_unknown value htag, applyTag_unknown value htag,
      writtenMembers_unknown htag]
    exact (writesOnly_unsupportedTags tag).effects_ok

/-!
## Whole reports
-/

section Fields

theorem applyField_memberwise : Memberwise Member.view applyField := by
  intro m s t field h
  unfold applyField
  by_cases hempty : field.2 = []
  · rw [if_pos hempty, if_pos hempty]
    exact h
  · rw [if_neg hempty, if_neg hempty]
    have heffects := applyTag_effects (p := s.1) (q := t.1) field.1 field.2
    revert heffects
    generalize applyTag field.1 field.2 s.1 = x
    generalize applyTag field.1 field.2 t.1 = y
    intro heffects
    cases heffects with
    | refused error => exact h
    | wrote memberwise frame => exact memberwise m h

theorem applyField_leaves {m : Member} {field : String × Utf16}
    (h : m ∉ writtenMembers field.1) :
    Leaves Member.view applyField field m := by
  intro s
  unfold applyField
  by_cases hempty : field.2 = []
  · rw [if_pos hempty]
  · rw [if_neg hempty]
    have heffects := applyTag_effects (p := s.1) (q := s.1) field.1 field.2
    revert heffects
    generalize applyTag field.1 field.2 s.1 = x
    intro heffects
    cases heffects with
    | refused error => rfl
    | wrote memberwise frame => exact frame m h

variable {formatTags : List String} {fields fields' : List Utf16} {j : Nat}

theorem getElem?_zip_congr {i : Nat} (h : fields[i]? = fields'[i]?) :
    (formatTags.zip fields)[i]? = (formatTags.zip fields')[i]? := by
  apply Option.ext
  intro field
  rw [List.getElem?_zip_eq_some, List.getElem?_zip_eq_some, h]

theorem zip_congr (hagree : forall i, i ≠ j -> fields[i]? = fields'[i]?)
    (hj : formatTags.length ≤ j) :
    formatTags.zip fields = formatTags.zip fields' := by
  apply List.ext_getElem?
  intro i
  by_cases hij : i = j
  · rw [List.getElem?_eq_none, List.getElem?_eq_none]
    · rw [List.length_zip]
      lia
    · rw [List.length_zip]
      lia
  · exact getElem?_zip_congr (hagree i hij)

end Fields

/-- Two reports that differ in one field agree on what its tag does not write,
and wholly when there is no tag for it. -/
theorem parseEventReport_isolates (formatTags : List String)
    (data data' : Utf16) (j : Nat)
    (hlen : (data.splitOn comma).length = (data'.splitOn comma).length)
    (hagree : forall i, i ≠ j ->
      (data.splitOn comma)[i]? = (data'.splitOn comma)[i]?) :
    (forall tag, formatTags[j]? = some tag -> forall m : Member,
      m ∉ writtenMembers tag ->
        m.read (parseEventReport data formatTags).1 =
          m.read (parseEventReport data' formatTags).1) ∧
      (formatTags.length ≤ j ->
        (parseEventReport data formatTags).1 =
          (parseEventReport data' formatTags).1) := by
  constructor
  · intro tag htag m hm
    have hleaves : forall (fields : List Utf16) (field : String × Utf16),
        (formatTags.zip fields)[j]? = some field ->
          Leaves Member.view applyField field m := by
      intro fields field hfield
      have hfirst := (List.getElem?_zip_eq_some.mp hfield).left
      rw [htag] at hfirst
      apply applyField_leaves
      rw [← Option.some.inj hfirst]
      exact hm
    apply view_foldl_of_agree applyField_memberwise j
    · rw [List.length_zip, List.length_zip, hlen]
    · intro i hij
      exact getElem?_zip_congr (hagree i hij)
    · exact hleaves _
    · exact hleaves _
  · intro hj
    simp only [parseEventReport, zip_congr hagree hj]

/-- A corrupt event id leaves the speed as it is. -/
theorem parseEventReport_isolates_eventId :
    (parseEventReport (utf16 "24,5") ["#EID#", "#SPD#"]).1.speedKnots =
      (parseEventReport (utf16 "?,5") ["#EID#", "#SPD#"]).1.speedKnots := by
  have hfields : (utf16 "24,5").splitOn comma = [utf16 "24", utf16 "5"] := by
    decide
  have hfields' : (utf16 "?,5").splitOn comma = [utf16 "?", utf16 "5"] := by
    decide
  refine (parseEventReport_isolates ["#EID#", "#SPD#"] (utf16 "24,5")
    (utf16 "?,5") 0 ?_ ?_).left "#EID#" rfl Member.speedKnots (by decide)
  · rw [hfields, hfields']
    rfl
  · intro i hi
    rw [hfields, hfields']
    cases i with
    | zero => exact absurd rfl hi
    | succ i => rfl

end Starlink
end AvtTracker
