import AvtTracker.Foundation.Calendar
import Mathlib.Algebra.Group.Int.Defs
import Mathlib.Algebra.Group.Nat.Defs

/-!
# Columns of a table

A database refuses a statement if it has a value its column cannot take: a
text that is too long, a number out of range, an invalid time, or a null where
none is allowed.
-/

namespace AvtTracker
namespace Foundation

/-- The column types that do not take every value. -/
inductive ColumnType where
  | varchar (length : Nat) | int | bigint | timestamptz

/-- A value as the driver is handed it; large integers come as texts. -/
inductive ColumnValue where
  | text (text : String) | number (value : Int) | date (date : Date)

def ColumnValue.ofNat (n : Nat) : ColumnValue := ColumnValue.number n

/-- The times of {lit}`timestamptz` begin in 4714 BC and end behind the last
valid {lit}`Date`. -/
def ColumnType.Accepts : ColumnType -> ColumnValue -> Prop
  | varchar length, ColumnValue.text text => text.length ≤ length
  | int, ColumnValue.number value => -2 ^ 31 ≤ value ∧ value < 2 ^ 31
  | bigint, ColumnValue.text text => exists n : Int,
      text = toString n ∧ -2 ^ 63 ≤ n ∧ n < 2 ^ 63
  | timestamptz, ColumnValue.date date => exists t, date.time = some t ∧
      -210866803200000 ≤ t ∧ t < 9224318016000000
  | _, _ => False

/-- A column of a statement, with the value it is given if there is one. -/
structure Column where
  name : String
  type : ColumnType
  nullable : Bool
  value : Option ColumnValue

namespace Column

def Accepted (column : Column) : Prop :=
  (column.value = none -> column.nullable = true) ∧
    forall value, column.value = some value -> column.type.Accepts value

def required (name : String) (type : ColumnType) (value : ColumnValue) :
    Column where
  name := name
  type := type
  nullable := false
  value := some value

def optional (name : String) (type : ColumnType)
    (value : Option ColumnValue) : Column where
  name := name
  type := type
  nullable := true
  value := value

/-!
Columns that may be null, by their type.
-/

def varchar (length : Nat) (name : String) (value : Option String) : Column :=
  optional name (ColumnType.varchar length) (value.map ColumnValue.text)

def int (name : String) (value : Option Nat) : Column :=
  optional name ColumnType.int (value.map ColumnValue.ofNat)

def signedInt (name : String) (value : Option Int) : Column :=
  optional name ColumnType.int (value.map ColumnValue.number)

def bigint (name : String) (value : Option String) : Column :=
  optional name ColumnType.bigint (value.map ColumnValue.text)

def timestamptz (name : String) (value : Option Date) : Column :=
  optional name ColumnType.timestamptz (value.map ColumnValue.date)

section Acceptance

variable {name : String}

theorem required_accepted_iff {type : ColumnType} {value : ColumnValue} :
    (required name type value).Accepted <-> type.Accepts value := by
  constructor
  · intro h
    exact h.right value rfl
  · intro h
    constructor
    · rintro ⟨⟩
    · rintro value ⟨⟩
      exact h

theorem optional_accepted {α : Type} {type : ColumnType} {value : Option α}
    {toValue : α -> ColumnValue}
    (h : forall a, value = some a -> type.Accepts (toValue a)) :
    (optional name type (value.map toValue)).Accepted := by
  constructor
  · intro _
    rfl
  · intro v hv
    rcases Option.map_eq_some_iff.mp hv with ⟨a, ha, rfl⟩
    exact h a ha

theorem varchar_accepted {length : Nat} {value : Option String}
    (h : forall text, value = some text -> text.length ≤ length) :
    (varchar length name value).Accepted :=
  optional_accepted h

theorem varchar_some_accepted {length : Nat} {text : String}
    (h : text.length ≤ length) :
    (varchar length name (some text)).Accepted := by
  apply varchar_accepted
  rintro other ⟨⟩
  exact h

theorem int_accepted {value : Option Nat}
    (h : forall n, value = some n -> n < 2 ^ 31) :
    (int name value).Accepted := by
  apply optional_accepted
  intro n hn
  have hlt := h n hn
  show -2 ^ 31 ≤ (n : Int) ∧ (n : Int) < 2 ^ 31
  lia

theorem int_some_accepted {n : Nat} (h : n < 2 ^ 31) :
    (int name (some n)).Accepted := by
  apply int_accepted
  rintro other ⟨⟩
  exact h

end Acceptance

/-- The database takes a statement with these columns. -/
def AllAccepted (columns : List Column) : Prop :=
  forall column, column ∈ columns -> column.Accepted

theorem allAccepted_nil : AllAccepted [] :=
  fun _ hmem => absurd hmem List.not_mem_nil

theorem allAccepted_cons {column : Column} {columns : List Column} :
    AllAccepted (column :: columns) <->
      column.Accepted ∧ AllAccepted columns :=
  List.forall_mem_cons

end Column

end Foundation
end AvtTracker
