import AvtTracker.Foundation.Runs
import AvtTracker.Foundation.Selection

/-!
# The event outbox

Every event of the tracker is recorded in the table {lit}`tracker_event`, and
handed out by {lit}`GET /tracker/events/unread`.  A request asks for undelivered
events and then marks what it got as delivered: two statements, between which
those of other requests and recorded events may come.
-/

namespace AvtTracker
namespace Tracker

open Foundation EventSystem

/-!
## The table
-/

/-- A row of {lit}`tracker_event`. -/
structure OutboxRow (Id Data : Type) where
  id : Id
  eventType : String
  imei : String
  data : Data
  occurredAt : Int
  delivered : Bool := false
  deliveredAt : Option Int := none

/-- An event as a response shows it. -/
structure UnreadEvent (Id Data : Type) where
  id : Id
  eventType : String
  imei : String
  occurredAt : Int
  data : Data

structure UnreadEvents (Id Data : Type) where
  count : Nat
  events : List (UnreadEvent Id Data)

variable {Id Data : Type}

def OutboxRow.event (row : OutboxRow Id Data) : UnreadEvent Id Data where
  id := row.id
  eventType := row.eventType
  imei := row.imei
  occurredAt := row.occurredAt
  data := row.data

def unreadEvents (rows : List (OutboxRow Id Data)) : UnreadEvents Id Data where
  count := rows.length
  events := rows.map OutboxRow.event

/-- {lit}`query.limit && query.limit > 0 ? query.limit : 100` -/
def unreadLimit : Option Int -> Nat
  | some limit => if limit > 0 then limit.toNat else 100
  | none => 100

def undelivered (table : List (OutboxRow Id Data)) :
    List (OutboxRow Id Data) :=
  table.filter (fun row => !row.delivered)

/-- {lit}`findUnread` may return these rows. -/
def FindsUnread (table : List (OutboxRow Id Data)) (limit : Nat)
    (found : List (OutboxRow Id Data)) : Prop :=
  Selects OutboxRow.occurredAt limit (undelivered table) found

/-- {lit}`record`: the database chooses the id. -/
def record (table : List (OutboxRow Id Data)) (id : Id)
    (eventType imei : String) (data : Data) (occurredAt : Int) :
    List (OutboxRow Id Data) :=
  table ++
    [{ id := id
       eventType := eventType
       imei := imei
       data := data
       occurredAt := occurredAt
       delivered := false }]

def OutboxRow.updated [DecidableEq Id] (row : OutboxRow Id Data)
    (ids : List Id) (now : Int) : OutboxRow Id Data :=
  if row.id ∈ ids then
    { row with delivered := true, deliveredAt := some now }
  else row

def markDelivered [DecidableEq Id] (table : List (OutboxRow Id Data))
    (ids : List Id) (now : Int) : List (OutboxRow Id Data) :=
  if ids.length = 0 then table
  else table.map (fun row => row.updated ids now)

section Table

variable {table : List (OutboxRow Id Data)} {row : OutboxRow Id Data}

theorem mem_undelivered :
    row ∈ undelivered table <-> row ∈ table ∧ row.delivered = false := by
  unfold undelivered
  rw [List.mem_filter, Bool.not_eq_true']

variable [DecidableEq Id] {ids : List Id} {now : Int}

theorem updated_event : (row.updated ids now).event = row.event := by
  unfold OutboxRow.updated
  by_cases h : row.id ∈ ids
  · rw [if_pos h]
    rfl
  · rw [if_neg h]

theorem updated_delivered :
    (row.updated ids now).delivered = true <->
      row.delivered = true ∨ row.id ∈ ids := by
  unfold OutboxRow.updated
  by_cases h : row.id ∈ ids
  · rw [if_pos h]
    exact iff_of_true rfl (Or.inr h)
  · rw [if_neg h]
    exact (or_iff_left h).symm

theorem markDelivered_eq_map :
    markDelivered table ids now = table.map (fun row => row.updated ids now) := by
  unfold markDelivered
  by_cases h : ids.length = 0
  · have hsame : (fun row : OutboxRow Id Data => row.updated ids now) = id := by
      funext row
      unfold OutboxRow.updated
      rw [List.length_eq_zero_iff.mp h]
      exact if_neg List.not_mem_nil
    rw [if_pos h, hsame, List.map_id]
  · rw [if_neg h]

end Table

/-!
## Requests
-/

/-- How far {lit}`listUnreadEvents` has got: awaiting the query, awaiting the
update, answered, or failed with one of them. -/
inductive PollPhase (Id Data : Type) where
  | querying
  | marking (found : List (OutboxRow Id Data))
  | responded (response : UnreadEvents Id Data)
  | failed

structure Poll (Id Data : Type) where
  limit : Nat
  phase : PollPhase Id Data

structure Outbox (Id Data : Type) where
  table : List (OutboxRow Id Data) := []
  polls : List (Poll Id Data) := []

inductive OutboxEvent (Id Data : Type) where
  | recorded (id : Id) (eventType imei : String) (data : Data)
      (occurredAt : Int)
  | requested (limit : Option Int)
  | found (poll : Nat) (rows : List (OutboxRow Id Data))
  | findFailed (poll : Nat)
  | marked (poll : Nat) (now : Int)
  | markFailed (poll : Nat)

namespace OutboxEvent

def poll : OutboxEvent Id Data -> Option Nat
  | recorded _ _ _ _ _ => none
  | requested _ => none
  | found i _ => some i
  | findFailed i => some i
  | marked i _ => some i
  | markFailed i => some i

end OutboxEvent

namespace Outbox

def phaseOf (o : Outbox Id Data) (i : Nat) : Option (PollPhase Id Data) :=
  (o.polls[i]?).map Poll.phase

def setPhase (o : Outbox Id Data) (i : Nat) (phase : PollPhase Id Data) :
    Outbox Id Data :=
  { o with polls := o.polls.modify i (fun poll =>
      { poll with phase := phase }) }

/-- An empty result is returned at once. -/
def settleFound (o : Outbox Id Data) (i : Nat)
    (rows : List (OutboxRow Id Data)) : Outbox Id Data :=
  if rows.length > 0 then o.setPhase i (PollPhase.marking rows)
  else o.setPhase i (PollPhase.responded (unreadEvents rows))

def settleMarked [DecidableEq Id] (o : Outbox Id Data) (i : Nat)
    (now : Int) : Outbox Id Data :=
  match o.phaseOf i with
  | some (PollPhase.marking rows) =>
      { o.setPhase i (PollPhase.responded (unreadEvents rows)) with
        table := markDelivered o.table (rows.map OutboxRow.id) now }
  | _ => o

end Outbox

/-- Ids are primary keys, and a request takes its steps one by one. -/
def OutboxEvent.Enabled (o : Outbox Id Data) : OutboxEvent Id Data -> Prop
  | recorded id _ _ _ _ => id ∉ o.table.map OutboxRow.id
  | requested _ => True
  | found i rows => exists poll, o.polls[i]? = some poll ∧
      poll.phase = PollPhase.querying ∧ FindsUnread o.table poll.limit rows
  | findFailed i => o.phaseOf i = some PollPhase.querying
  | marked i _ => exists rows, o.phaseOf i = some (PollPhase.marking rows)
  | markFailed i => exists rows, o.phaseOf i = some (PollPhase.marking rows)

/-- The table and any number of requests. -/
def eventOutbox (Id Data : Type) [DecidableEq Id] :
    EventSystem (Outbox Id Data) (OutboxEvent Id Data) where
  initial := {}
  Enabled o e := e.Enabled o
  step o
    | OutboxEvent.recorded id eventType imei data occurredAt =>
        { o with table := record o.table id eventType imei data occurredAt }
    | OutboxEvent.requested limit =>
        { o with polls := o.polls ++
            [{ limit := unreadLimit limit, phase := PollPhase.querying }] }
    | OutboxEvent.found i rows => o.settleFound i rows
    | OutboxEvent.findFailed i => o.setPhase i PollPhase.failed
    | OutboxEvent.marked i now => o.settleMarked i now
    | OutboxEvent.markFailed i => o.setPhase i PollPhase.failed

/-!
## What the steps do to the requests
-/

namespace Outbox

variable {o : Outbox Id Data} {i k : Nat} {old phase : PollPhase Id Data}

theorem phaseOf_setPhase (h : o.phaseOf i = some old) :
    (o.setPhase i phase).phaseOf k =
      if k = i then some phase else o.phaseOf k := by
  show ((o.polls.modify i _)[k]?).map Poll.phase = _
  by_cases hk : k = i
  · rcases Option.map_eq_some_iff.mp h with ⟨poll, hpoll, _⟩
    rw [if_pos hk, hk, List.getElem?_modify_eq, hpoll]
    rfl
  · rw [if_neg hk, List.getElem?_modify_ne _ _ (fun hc => hk hc.symm)]
    rfl

theorem exists_found_enabled
    (h : o.phaseOf i = some PollPhase.querying) :
    exists rows, (OutboxEvent.found i rows).Enabled o := by
  rcases Option.map_eq_some_iff.mp h with ⟨poll, hpoll, hphase⟩
  rcases exists_selects OutboxRow.occurredAt poll.limit
    (undelivered o.table) with ⟨rows, hrows⟩
  exact ⟨rows, poll, hpoll, hphase, hrows⟩

theorem phaseOf_requested [DecidableEq Id] {limit : Option Int} :
    ((eventOutbox Id Data).step o (OutboxEvent.requested limit)).phaseOf k =
      if k = o.polls.length then some PollPhase.querying
      else o.phaseOf k := by
  show ((o.polls ++ [_])[k]?).map Poll.phase = _
  by_cases hk : k = o.polls.length
  · rw [if_pos hk, hk, List.getElem?_concat_length]
    rfl
  · rw [if_neg hk]
    by_cases hlt : k < o.polls.length
    · rw [List.getElem?_append_left hlt]
      rfl
    · rw [List.getElem?_eq_none (by simp; lia)]
      show none = (o.polls[k]?).map Poll.phase
      rw [List.getElem?_eq_none (Nat.not_lt.mp hlt)]
      rfl

theorem settleFound_table (rows : List (OutboxRow Id Data)) :
    (o.settleFound i rows).table = o.table := by
  unfold settleFound
  by_cases h : rows.length > 0
  · rw [if_pos h]
    rfl
  · rw [if_neg h]
    rfl

theorem settleMarked_eq [DecidableEq Id] {rows : List (OutboxRow Id Data)}
    (now : Int) (h : o.phaseOf i = some (PollPhase.marking rows)) :
    o.settleMarked i now =
      { o.setPhase i (PollPhase.responded (unreadEvents rows)) with
        table := markDelivered o.table (rows.map OutboxRow.id) now } := by
  unfold settleMarked
  rw [h]

end Outbox

end Tracker
end AvtTracker
