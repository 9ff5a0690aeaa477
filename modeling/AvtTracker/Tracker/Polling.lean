import AvtTracker.Tracker.EventOutbox

/-!
# Polling for events

What any number of concurrent requests for unread events do to the outbox.
Nothing is lost: a delivered event is in the response of a request that marked
it.  An event can be handed out twice, though: this module determines the runs
throughout which it is not.
-/

namespace AvtTracker
namespace Tracker

open Foundation EventSystem

variable {Id Data : Type}

/-!
## What one step does
-/

/-- The request takes no further step. -/
def PollPhase.Final : PollPhase Id Data -> Prop
  | responded _ => True
  | failed => True
  | _ => False

/-- Rows keep their contents and their flags, and requests that are over stay
as they are. -/
structure Outbox.Grows (o o' : Outbox Id Data) : Prop where
  rows : forall row, row ∈ o.table ->
    exists row', row' ∈ o'.table ∧ row'.event = row.event ∧
      (row.delivered = true -> row'.delivered = true)
  final : forall k phase, o.phaseOf k = some phase -> phase.Final ->
    o'.phaseOf k = some phase

theorem Outbox.Grows.refl (o : Outbox Id Data) : Outbox.Grows o o where
  rows row hrow := ⟨row, hrow, rfl, id⟩
  final _ _ hk _ := hk

theorem Outbox.Grows.trans {o o' o'' : Outbox Id Data} (h : Outbox.Grows o o')
    (h' : Outbox.Grows o' o'') : Outbox.Grows o o'' := by
  constructor
  · intro row hrow
    rcases h.rows row hrow with ⟨row', hrow', hevent, hflag⟩
    rcases h'.rows row' hrow' with ⟨row'', hrow'', hevent', hflag'⟩
    exact ⟨row'', hrow'', hevent'.trans hevent, fun hd => hflag' (hflag hd)⟩
  · intro k phase hk hfinal
    exact h'.final k phase (h.final k phase hk hfinal) hfinal

theorem Outbox.grows_setPhase {o : Outbox Id Data} {i : Nat}
    {old phase : PollPhase Id Data} (h : o.phaseOf i = some old)
    (hold : ¬ old.Final) : Outbox.Grows o (o.setPhase i phase) := by
  refine ⟨fun row hrow => ⟨row, hrow, rfl, id⟩, ?_⟩
  intro k other hk hfinal
  rw [Outbox.phaseOf_setPhase h]
  by_cases hki : k = i
  · rw [hki, h] at hk
    rw [Option.some.inj hk] at hold
    exact absurd hfinal hold
  · rw [if_neg hki]
    exact hk

section Steps

variable {o : Outbox Id Data} {e : OutboxEvent Id Data} {i : Nat}

theorem OutboxEvent.phaseOf_of_found {rows : List (OutboxRow Id Data)}
    (h : (OutboxEvent.found i rows).Enabled o) :
    o.phaseOf i = some PollPhase.querying := by
  rcases h with ⟨poll, hpoll, hphase, _⟩
  show (o.polls[i]?).map Poll.phase = _
  rw [hpoll, ← hphase]
  rfl

variable [DecidableEq Id]

theorem Outbox.settleMarked_table {i : Nat}
    {rows : List (OutboxRow Id Data)} (now : Int)
    (h : o.phaseOf i = some (PollPhase.marking rows)) :
    (o.settleMarked i now).table =
      o.table.map (fun row => row.updated (rows.map OutboxRow.id) now) := by
  rw [Outbox.settleMarked_eq now h, ← markDelivered_eq_map]

theorem Outbox.phaseOf_settleMarked {i : Nat}
    {rows : List (OutboxRow Id Data)} (now : Int)
    (h : o.phaseOf i = some (PollPhase.marking rows)) (k : Nat) :
    (o.settleMarked i now).phaseOf k =
      if k = i then some (PollPhase.responded (unreadEvents rows))
      else o.phaseOf k := by
  rw [Outbox.settleMarked_eq now h]
  exact Outbox.phaseOf_setPhase h

theorem Outbox.grows_step (h : e.Enabled o) :
    Outbox.Grows o ((eventOutbox Id Data).step o e) := by
  cases e with
  | recorded id eventType imei data occurredAt =>
      refine ⟨?_, fun _ _ hk _ => hk⟩
      intro row hrow
      exact ⟨row, List.mem_append_left _ hrow, rfl, fun hd => hd⟩
  | requested limit =>
      refine ⟨fun row hrow => ⟨row, hrow, rfl, fun hd => hd⟩, ?_⟩
      intro k phase hk _
      rw [Outbox.phaseOf_requested, if_neg]
      · exact hk
      · intro hsame
        have hnone : o.phaseOf k = none := by
          show (o.polls[k]?).map Poll.phase = none
          rw [List.getElem?_eq_none (Nat.le_of_eq hsame.symm)]
          rfl
        rw [hnone] at hk
        cases hk
  | found i rows =>
      have hphase := OutboxEvent.phaseOf_of_found h
      show Outbox.Grows o (o.settleFound i rows)
      unfold Outbox.settleFound
      by_cases hsome : rows.length > 0
      · rw [if_pos hsome]
        exact Outbox.grows_setPhase hphase id
      · rw [if_neg hsome]
        exact Outbox.grows_setPhase hphase id
  | findFailed i => exact Outbox.grows_setPhase h id
  | marked i now =>
      rcases h with ⟨rows, hphase⟩
      constructor
      · intro row hrow
        refine ⟨row.updated (rows.map OutboxRow.id) now, ?_, updated_event, ?_⟩
        · show _ ∈ (o.settleMarked i now).table
          rw [Outbox.settleMarked_table now hphase]
          exact List.mem_map_of_mem hrow
        · intro hdelivered
          exact updated_delivered.mpr (Or.inl hdelivered)
      · show forall k phase, _ -> _ ->
          (o.settleMarked i now).phaseOf k = some phase
        rw [Outbox.settleMarked_eq now hphase]
        exact (Outbox.grows_setPhase hphase id).final
  | markFailed i =>
      rcases h with ⟨rows, hphase⟩
      exact Outbox.grows_setPhase hphase id

/-- The phases a step can put a request in. -/
inductive Outbox.Enters (o : Outbox Id Data) (e : OutboxEvent Id Data)
    (i : Nat) : PollPhase Id Data -> Prop where
  | querying : Enters o e i PollPhase.querying
  | marking (rows : List (OutboxRow Id Data))
      (event : e = OutboxEvent.found i rows)
      (unread : forall row, row ∈ rows -> row ∈ o.table) :
      Enters o e i (PollPhase.marking rows)
  | nothing : Enters o e i (PollPhase.responded (unreadEvents []))
  | responded (rows : List (OutboxRow Id Data)) (now : Int)
      (event : e = OutboxEvent.marked i now)
      (held : o.phaseOf i = some (PollPhase.marking rows)) :
      Enters o e i (PollPhase.responded (unreadEvents rows))
  | failed : Enters o e i PollPhase.failed

theorem Outbox.enters_of_step {phase : PollPhase Id Data} (h : e.Enabled o)
    (hphase : ((eventOutbox Id Data).step o e).phaseOf i = some phase) :
    o.phaseOf i = some phase ∨ Outbox.Enters o e i phase := by
  cases e with
  | recorded id eventType imei data occurredAt => exact Or.inl hphase
  | requested limit =>
      rw [Outbox.phaseOf_requested] at hphase
      rcases ite_eq_iff.mp hphase with ⟨_, hnew⟩ | ⟨_, hold⟩
      · rw [← Option.some.inj hnew]
        exact Or.inr Enters.querying
      · exact Or.inl hold
  | found j rows =>
      have hquerying := OutboxEvent.phaseOf_of_found h
      have hstep : (o.settleFound j rows).phaseOf i = some phase := hphase
      unfold Outbox.settleFound at hstep
      by_cases hsome : rows.length > 0
      · rw [if_pos hsome, Outbox.phaseOf_setPhase hquerying] at hstep
        rcases ite_eq_iff.mp hstep with ⟨hij, hnew⟩ | ⟨_, hold⟩
        · rw [← Option.some.inj hnew]
          rcases h with ⟨poll, _, _, hfinds⟩
          refine Or.inr (Enters.marking rows (by rw [hij]) ?_)
          intro row hrow
          exact (mem_undelivered.mp (hfinds.mem hrow)).left
        · exact Or.inl hold
      · rw [if_neg hsome, Outbox.phaseOf_setPhase hquerying] at hstep
        rcases ite_eq_iff.mp hstep with ⟨_, hnew⟩ | ⟨_, hold⟩
        · have hempty : rows = [] := List.eq_nil_of_length_eq_zero
            (Nat.eq_zero_of_not_pos hsome)
          rw [← Option.some.inj hnew, hempty]
          exact Or.inr Enters.nothing
        · exact Or.inl hold
  | findFailed j =>
      have hstep : (o.setPhase j PollPhase.failed).phaseOf i = _ := hphase
      rw [Outbox.phaseOf_setPhase h] at hstep
      rcases ite_eq_iff.mp hstep with ⟨_, hnew⟩ | ⟨_, hold⟩
      · rw [← Option.some.inj hnew]
        exact Or.inr Enters.failed
      · exact Or.inl hold
  | marked j now =>
      rcases h with ⟨held, hheld⟩
      have hstep : (o.settleMarked j now).phaseOf i = _ := hphase
      rw [Outbox.phaseOf_settleMarked now hheld] at hstep
      rcases ite_eq_iff.mp hstep with ⟨hij, hnew⟩ | ⟨_, hold⟩
      · rw [← Option.some.inj hnew]
        exact Or.inr (Enters.responded held now (by rw [hij])
          (by rw [hij, hheld]))
      · exact Or.inl hold
  | markFailed j =>
      rcases h with ⟨held, hheld⟩
      have hstep : (o.setPhase j PollPhase.failed).phaseOf i = _ := hphase
      rw [Outbox.phaseOf_setPhase hheld] at hstep
      rcases ite_eq_iff.mp hstep with ⟨_, hnew⟩ | ⟨_, hold⟩
      · rw [← Option.some.inj hnew]
        exact Or.inr Enters.failed
      · exact Or.inl hold

/-- A row that is delivered after a step was so before, or has been found and
marked by a request. -/
theorem Outbox.delivered_of_step {row : OutboxRow Id Data}
    (h : e.Enabled o) (hrow : row ∈ ((eventOutbox Id Data).step o e).table)
    (hdelivered : row.delivered = true) :
    exists before, before ∈ o.table ∧ before.event = row.event ∧
      (before.delivered = true ∨
        exists k rows now, e = OutboxEvent.marked k now ∧
          o.phaseOf k = some (PollPhase.marking rows) ∧
            before.id ∈ rows.map OutboxRow.id) := by
  cases e with
  | recorded id eventType imei data occurredAt =>
      rcases List.mem_append.mp hrow with hold | hnew
      · exact ⟨row, hold, rfl, Or.inl hdelivered⟩
      · rw [List.mem_singleton.mp hnew] at hdelivered
        cases hdelivered
  | requested limit => exact ⟨row, hrow, rfl, Or.inl hdelivered⟩
  | found j rows =>
      have hold : row ∈ (o.settleFound j rows).table := hrow
      rw [Outbox.settleFound_table] at hold
      exact ⟨row, hold, rfl, Or.inl hdelivered⟩
  | findFailed j => exact ⟨row, hrow, rfl, Or.inl hdelivered⟩
  | marked j now =>
      rcases h with ⟨rows, hheld⟩
      have htable : row ∈ (o.settleMarked j now).table := hrow
      rw [Outbox.settleMarked_table now hheld] at htable
      rcases List.mem_map.mp htable with ⟨before, hbefore, hrow⟩
      rw [← hrow] at hdelivered ⊢
      refine ⟨before, hbefore, updated_event.symm, ?_⟩
      exact (updated_delivered.mp hdelivered).imp_right
        (fun hid => ⟨j, rows, now, rfl, hheld, hid⟩)
  | markFailed j => exact ⟨row, hrow, rfl, Or.inl hdelivered⟩

theorem Outbox.ids_nodup_step (h : e.Enabled o)
    (hids : (o.table.map OutboxRow.id).Nodup) :
    (((eventOutbox Id Data).step o e).table.map OutboxRow.id).Nodup := by
  cases e with
  | recorded id eventType imei data occurredAt =>
      have hnew : id ∉ o.table.map OutboxRow.id := h
      show ((o.table ++ [_]).map OutboxRow.id).Nodup
      rw [List.map_append, List.nodup_append]
      refine ⟨hids, List.nodup_singleton _, ?_⟩
      intro old hold added hadded hsame
      rw [hsame, List.mem_singleton.mp hadded] at hold
      exact hnew hold
  | requested limit => exact hids
  | found j rows =>
      show ((o.settleFound j rows).table.map OutboxRow.id).Nodup
      rw [Outbox.settleFound_table]
      exact hids
  | findFailed j => exact hids
  | marked j now =>
      rcases h with ⟨rows, hheld⟩
      have hkept : OutboxRow.id ∘ (fun row : OutboxRow Id Data =>
          row.updated (rows.map OutboxRow.id) now) = OutboxRow.id := by
        funext row
        exact congrArg UnreadEvent.id updated_event
      show ((o.settleMarked j now).table.map OutboxRow.id).Nodup
      rw [Outbox.settleMarked_table now hheld, List.map_map, hkept]
      exact hids
  | markFailed j => exact hids

end Steps

/-!
## What is known of rows and requests
-/

section Runs

variable [DecidableEq Id]

/-- The table is accounted for by the requests, and the requests by their
steps. -/
structure Outbox.Accounted (history : List (OutboxEvent Id Data))
    (o : Outbox Id Data) : Prop where
  ids_nodup : (o.table.map OutboxRow.id).Nodup
  marking : forall i rows, o.phaseOf i = some (PollPhase.marking rows) ->
    OutboxEvent.found i rows ∈ history ∧ forall row, row ∈ rows ->
      exists kept, kept ∈ o.table ∧ kept.event = row.event
  responded : forall i response,
    o.phaseOf i = some (PollPhase.responded response) ->
      forall event, event ∈ response.events -> exists row,
        row ∈ o.table ∧ row.event = event ∧ row.delivered = true
  delivered : forall row, row ∈ o.table -> row.delivered = true ->
    exists i rows now, OutboxEvent.found i rows ∈ history ∧
      OutboxEvent.marked i now ∈ history ∧
        o.phaseOf i = some (PollPhase.responded (unreadEvents rows)) ∧
          row.event ∈ (unreadEvents rows).events
  marked : forall i now, OutboxEvent.marked i now ∈ history ->
    exists response, o.phaseOf i = some (PollPhase.responded response)
  failed : forall i, OutboxEvent.markFailed i ∈ history ->
    o.phaseOf i = some PollPhase.failed

namespace Outbox.Accounted

variable {history : List (OutboxEvent Id Data)} {o : Outbox Id Data}
variable {e : OutboxEvent Id Data}

omit [DecidableEq Id] in
theorem event_of_marking (h : Outbox.Accounted history o) {i : Nat}
    {rows : List (OutboxRow Id Data)} {before : OutboxRow Id Data}
    (hbefore : before ∈ o.table)
    (hphase : o.phaseOf i = some (PollPhase.marking rows))
    (hid : before.id ∈ rows.map OutboxRow.id) :
    before.event ∈ (unreadEvents rows).events := by
  rcases List.mem_map.mp hid with ⟨row, hrow, hsame⟩
  rcases (h.marking i rows hphase).right row hrow with ⟨kept, hkept, hevent⟩
  have hkeptId : kept.id = before.id :=
    (congrArg UnreadEvent.id hevent).trans hsame
  rw [← List.inj_on_of_nodup_map h.ids_nodup hkept hbefore hkeptId, hevent]
  exact List.mem_map_of_mem hrow

theorem marking_step (h : Outbox.Accounted history o) (henabled : e.Enabled o)
    {i : Nat} {rows : List (OutboxRow Id Data)}
    (hphase : ((eventOutbox Id Data).step o e).phaseOf i =
      some (PollPhase.marking rows)) :
    OutboxEvent.found i rows ∈ history ++ [e] ∧ forall row, row ∈ rows ->
      exists kept, kept ∈ ((eventOutbox Id Data).step o e).table ∧
        kept.event = row.event := by
  have hgrows := Outbox.grows_step henabled
  rcases Outbox.enters_of_step henabled hphase with hold | hnew
  · rcases h.marking i rows hold with ⟨hfound, hkept⟩
    refine ⟨List.mem_append_left _ hfound, fun row hrow => ?_⟩
    rcases hkept row hrow with ⟨kept, hmem, hevent⟩
    rcases hgrows.rows kept hmem with ⟨kept', hmem', hevent', _⟩
    exact ⟨kept', hmem', hevent'.trans hevent⟩
  · cases hnew with
    | marking rows hevent hunread =>
        rw [hevent] at hgrows ⊢
        refine ⟨List.mem_append_right _ List.mem_cons_self, ?_⟩
        intro row hrow
        rcases hgrows.rows row (hunread row hrow) with ⟨kept, hmem, hkept, _⟩
        exact ⟨kept, hmem, hkept⟩

theorem responded_step (h : Outbox.Accounted history o)
    (henabled : e.Enabled o) {i : Nat} {response : UnreadEvents Id Data}
    (hphase : ((eventOutbox Id Data).step o e).phaseOf i =
      some (PollPhase.responded response)) {event : UnreadEvent Id Data}
    (hevent : event ∈ response.events) :
    exists row, row ∈ ((eventOutbox Id Data).step o e).table ∧
      row.event = event ∧ row.delivered = true := by
  have hgrows := Outbox.grows_step henabled
  rcases Outbox.enters_of_step henabled hphase with hold | hnew
  · rcases h.responded i response hold event hevent with
      ⟨row, hrow, hsame, hdelivered⟩
    rcases hgrows.rows row hrow with ⟨row', hrow', hsame', hflag⟩
    exact ⟨row', hrow', hsame'.trans hsame, hflag hdelivered⟩
  · cases hnew with
    | nothing => cases hevent
    | responded rows now hmarked hmarking =>
        rcases List.mem_map.mp hevent with ⟨row, hrow, hsame⟩
        rcases (h.marking i rows hmarking).right row hrow with
          ⟨kept, hkept, hkeptEvent⟩
        have hid : kept.id ∈ rows.map OutboxRow.id := by
          rw [show kept.id = row.id from congrArg UnreadEvent.id hkeptEvent]
          exact List.mem_map_of_mem hrow
        refine ⟨kept.updated (rows.map OutboxRow.id) now, ?_, ?_, ?_⟩
        · rw [hmarked]
          show _ ∈ (o.settleMarked i now).table
          rw [Outbox.settleMarked_table now hmarking]
          exact List.mem_map_of_mem hkept
        · rw [updated_event, hkeptEvent, hsame]
        · exact updated_delivered.mpr (Or.inr hid)

theorem delivered_step (h : Outbox.Accounted history o)
    (henabled : e.Enabled o) {row : OutboxRow Id Data}
    (hrow : row ∈ ((eventOutbox Id Data).step o e).table)
    (hdelivered : row.delivered = true) :
    exists i rows now, OutboxEvent.found i rows ∈ history ++ [e] ∧
      OutboxEvent.marked i now ∈ history ++ [e] ∧
        ((eventOutbox Id Data).step o e).phaseOf i =
          some (PollPhase.responded (unreadEvents rows)) ∧
            row.event ∈ (unreadEvents rows).events := by
  have hgrows := Outbox.grows_step henabled
  rcases Outbox.delivered_of_step henabled hrow hdelivered with
    ⟨before, hbefore, hsame, hold | ⟨k, rows, now, he, hphase, hid⟩⟩
  · rcases h.delivered before hbefore hold with
      ⟨i, rows, now, hfound, hmarked, hphase, hin⟩
    rw [hsame] at hin
    exact ⟨i, rows, now, List.mem_append_left _ hfound,
      List.mem_append_left _ hmarked,
      hgrows.final i _ hphase trivial, hin⟩
  · have hin := h.event_of_marking hbefore hphase hid
    rw [hsame] at hin
    refine ⟨k, rows, now,
      List.mem_append_left _ (h.marking k rows hphase).left, ?_, ?_, hin⟩
    · rw [he]
      exact List.mem_append_right _ List.mem_cons_self
    · rw [he]
      exact (Outbox.phaseOf_settleMarked now hphase k).trans (if_pos rfl)

theorem step (h : Outbox.Accounted history o) (henabled : e.Enabled o) :
    Outbox.Accounted (history ++ [e]) ((eventOutbox Id Data).step o e) := by
  have hgrows := Outbox.grows_step henabled
  constructor
  · exact Outbox.ids_nodup_step henabled h.ids_nodup
  · intro i rows hphase
    exact h.marking_step henabled hphase
  · intro i response hphase event hevent
    exact h.responded_step henabled hphase hevent
  · intro row hrow hdelivered
    exact h.delivered_step henabled hrow hdelivered
  · intro i now hmem
    rcases List.mem_append.mp hmem with hold | hnew
    · rcases h.marked i now hold with ⟨response, hphase⟩
      exact ⟨response, hgrows.final i _ hphase trivial⟩
    · rw [← List.mem_singleton.mp hnew] at henabled ⊢
      rcases henabled with ⟨rows, hphase⟩
      exact ⟨_, (Outbox.phaseOf_settleMarked now hphase i).trans (if_pos rfl)⟩
  · intro i hmem
    rcases List.mem_append.mp hmem with hold | hnew
    · exact hgrows.final i _ (h.failed i hold) trivial
    · rw [← List.mem_singleton.mp hnew] at henabled ⊢
      rcases henabled with ⟨rows, hphase⟩
      exact (Outbox.phaseOf_setPhase hphase).trans (if_pos rfl)

end Outbox.Accounted

def outboxAfter (history : List (OutboxEvent Id Data)) : Outbox Id Data :=
  (eventOutbox Id Data).stateAfter history

theorem outboxAfter_snoc (history : List (OutboxEvent Id Data))
    (e : OutboxEvent Id Data) :
    outboxAfter (history ++ [e]) =
      (eventOutbox Id Data).step (outboxAfter history) e :=
  stateAfter_snoc history e

theorem accounted {history : List (OutboxEvent Id Data)}
    (h : (eventOutbox Id Data).Legal history) :
    Outbox.Accounted history (outboxAfter history) := by
  refine invariant ?_ ?_ h
  · constructor
    · exact List.nodup_nil
    · intro i rows hphase
      cases hphase
    · intro i response hphase
      cases hphase
    · intro row hrow
      cases hrow
    · intro i now hmem
      cases hmem
    · intro i hmem
      cases hmem
  · intro history e _ henabled ih
    rw [outboxAfter_snoc]
    exact ih.step henabled

/-!
## Nothing is lost
-/

/-- A recorded event stays in the table under an id of its own, and its flag
never goes back to false. -/
def FlagsKept (history : List (OutboxEvent Id Data)) : Prop :=
  forall seen, seen <+: history ->
    ((outboxAfter seen).table.map OutboxRow.id).Nodup ∧
      forall row, row ∈ (outboxAfter seen).table ->
        exists row', row' ∈ (outboxAfter history).table ∧
          row'.event = row.event ∧
            (row.delivered = true -> row'.delivered = true)

/-- A delivered event was found by a request that marked it, and is in the
response of this request. -/
def DeliveriesReturned (history : List (OutboxEvent Id Data)) : Prop :=
  forall row, row ∈ (outboxAfter history).table -> row.delivered = true ->
    exists i rows now, OutboxEvent.found i rows ∈ history ∧
      OutboxEvent.marked i now ∈ history ∧
        (outboxAfter history).phaseOf i =
          some (PollPhase.responded (unreadEvents rows)) ∧
            row.event ∈ (unreadEvents rows).events

/-- No step of a request whose update fails changes the table. -/
def FailuresHarmless (history : List (OutboxEvent Id Data)) : Prop :=
  forall i, OutboxEvent.markFailed i ∈ history ->
    forall seen e later, history = seen ++ e :: later -> e.poll = some i ->
      (outboxAfter (seen ++ [e])).table = (outboxAfter seen).table

/-- A request finds all undelivered events if its limit allows, and else as many
as it allows, none of them younger than one it leaves out. -/
def UnreadFound (history : List (OutboxEvent Id Data)) : Prop :=
  forall seen i rows later, history = seen ++ OutboxEvent.found i rows :: later ->
    exists poll, (outboxAfter seen).polls[i]? = some poll ∧
      ((undelivered (outboxAfter seen).table).length ≤ poll.limit ->
        rows.Perm (undelivered (outboxAfter seen).table)) ∧
      (poll.limit < (undelivered (outboxAfter seen).table).length ->
        rows.length = poll.limit ∧
        (forall row, row ∈ rows ->
          row ∈ undelivered (outboxAfter seen).table) ∧
        forall row left, row ∈ rows ->
          left ∈ undelivered (outboxAfter seen).table -> left ∉ rows ->
            row.occurredAt ≤ left.occurredAt)

theorem legal_of_append {history later : List (OutboxEvent Id Data)}
    (h : (eventOutbox Id Data).Legal (history ++ later)) :
    (eventOutbox Id Data).Legal history :=
  (legalFrom_append.mp h).left

theorem grows_append {history later : List (OutboxEvent Id Data)}
    (h : (eventOutbox Id Data).Legal (history ++ later)) :
    Outbox.Grows (outboxAfter history) (outboxAfter (history ++ later)) := by
  induction later using List.reverseRecOn with
  | nil =>
      rw [List.append_nil]
      exact Outbox.Grows.refl _
  | append_singleton later e ih =>
      rw [← List.append_assoc] at h ⊢
      rcases legal_snoc.mp h with ⟨hlegal, henabled⟩
      rw [outboxAfter_snoc]
      exact (ih hlegal).trans (Outbox.grows_step henabled)

theorem flagsKept {history : List (OutboxEvent Id Data)}
    (h : (eventOutbox Id Data).Legal history) : FlagsKept history := by
  rintro seen ⟨later, rfl⟩
  exact ⟨(accounted (legal_of_append h)).ids_nodup, (grows_append h).rows⟩

theorem failuresHarmless {history : List (OutboxEvent Id Data)}
    (h : (eventOutbox Id Data).Legal history) : FailuresHarmless history := by
  intro i hfailed seen e later heq hpoll
  rw [outboxAfter_snoc]
  cases e with
  | recorded id eventType imei data occurredAt => cases hpoll
  | requested limit => cases hpoll
  | found j rows => exact Outbox.settleFound_table rows
  | findFailed j => rfl
  | marked j now =>
      -- An update that failed has not been applied as well.
      rw [Option.some.inj hpoll] at heq
      have haccounted := accounted h
      rcases haccounted.marked i now (by rw [heq]; simp) with
        ⟨response, hresponded⟩
      rw [haccounted.failed i hfailed] at hresponded
      cases hresponded
  | markFailed j => rfl

theorem unreadFound {history : List (OutboxEvent Id Data)}
    (h : (eventOutbox Id Data).Legal history) : UnreadFound history := by
  intro seen i rows later heq
  rw [heq] at h
  rcases (legalFrom_append.mp h).right.left with ⟨poll, hpoll, _, hfinds⟩
  refine ⟨poll, hpoll, hfinds.perm_of_length_le, ?_⟩
  intro hmore
  refine ⟨hfinds.length_eq (Nat.le_of_lt hmore), fun row => hfinds.mem, ?_⟩
  intro row left hrow hleft hout
  exact hfinds.key_le hrow hleft hout

/--
Polling loses nothing, whatever the interleaving and whichever updates fail:
recorded events and their flags are kept, every delivered event is in the
response of a request that marked it, failed requests change nothing, and what
is undelivered is found.
-/
theorem polling_loses_nothing (run : (eventOutbox Id Data).Run) :
    FlagsKept run.history ∧ DeliveriesReturned run.history ∧
      FailuresHarmless run.history ∧ UnreadFound run.history := by
  refine ⟨flagsKept run.legal, ?_, failuresHarmless run.legal,
    unreadFound run.legal⟩
  intro row hrow hdelivered
  exact (accounted run.legal).delivered row hrow hdelivered

/-!
## Events handed out twice
-/

/-- No event is in the responses of two requests. -/
def HandedOutOnce (history : List (OutboxEvent Id Data)) : Prop :=
  forall i j response response', i ≠ j ->
    (outboxAfter history).phaseOf i = some (PollPhase.responded response) ->
    (outboxAfter history).phaseOf j = some (PollPhase.responded response') ->
      forall event event', event ∈ response.events ->
        event' ∈ response'.events -> event.id ≠ event'.id

/-- When an update is applied, everything it marks is still undelivered. -/
def Outbox.MarksUnread (o : Outbox Id Data) : OutboxEvent Id Data -> Prop
  | OutboxEvent.marked i _ => forall rows,
      o.phaseOf i = some (PollPhase.marking rows) ->
        forall row, row ∈ o.table -> row.id ∈ rows.map OutboxRow.id ->
          row.delivered = false
  | _ => True

theorem apart_of_marksUnread {history : List (OutboxEvent Id Data)}
    {i : Nat} {now : Int} {rows : List (OutboxRow Id Data)}
    (hlegal : (eventOutbox Id Data).Legal history)
    (hmarking : (outboxAfter history).phaseOf i =
      some (PollPhase.marking rows))
    (hmarks : (outboxAfter history).MarksUnread (OutboxEvent.marked i now))
    (j : Nat) (response : UnreadEvents Id Data)
    (hresponded : (outboxAfter history).phaseOf j =
      some (PollPhase.responded response)) :
    forall event event', event ∈ (unreadEvents rows).events ->
      event' ∈ response.events -> event.id ≠ event'.id := by
  intro event event' hevent hevent' hsame
  rcases (accounted hlegal).responded j response hresponded event' hevent' with
    ⟨row, hrow, hrowEvent, hdelivered⟩
  rcases List.mem_map.mp hevent with ⟨held, hheld, hheldEvent⟩
  have hid : row.id ∈ rows.map OutboxRow.id := by
    refine List.mem_map.mpr ⟨held, hheld, ?_⟩
    calc held.id = event.id := congrArg UnreadEvent.id hheldEvent
      _ = event'.id := hsame
      _ = row.id := (congrArg UnreadEvent.id hrowEvent).symm
  rw [hmarks rows hmarking row hrow hid] at hdelivered
  cases hdelivered

theorem handedOutOnce_marked_iff {history : List (OutboxEvent Id Data)}
    {i : Nat} {now : Int} (hlegal : (eventOutbox Id Data).Legal history)
    (henabled : (OutboxEvent.marked i now).Enabled (outboxAfter history))
    (h : HandedOutOnce history) :
    HandedOutOnce (history ++ [OutboxEvent.marked i now]) <->
      (outboxAfter history).MarksUnread (OutboxEvent.marked i now) := by
  have haccounted := accounted hlegal
  rcases henabled with ⟨rows, hmarking⟩
  have hphase : forall k,
      (outboxAfter (history ++ [OutboxEvent.marked i now])).phaseOf k =
        if k = i then some (PollPhase.responded (unreadEvents rows))
        else (outboxAfter history).phaseOf k := by
    intro k
    rw [outboxAfter_snoc]
    exact Outbox.phaseOf_settleMarked now hmarking k
  constructor
  · intro hafter rows' hrows' row hrow hid
    rw [hmarking] at hrows'
    rw [← PollPhase.marking.inj (Option.some.inj hrows')] at hid
    by_contra hdelivered
    rw [Bool.not_eq_false] at hdelivered
    rcases haccounted.delivered row hrow hdelivered with
      ⟨j, found, _, _, _, hresponded, hevent⟩
    have hne : i ≠ j := by
      intro hsame
      rw [← hsame] at hresponded
      have hboth := hmarking.symm.trans hresponded
      cases hboth
    rcases List.mem_map.mp hid with ⟨held, hheld, hsameId⟩
    refine hafter i j _ _ hne ((hphase i).trans (if_pos rfl))
      ((hphase j).trans ((if_neg hne.symm).trans hresponded)) held.event
      row.event (List.mem_map_of_mem hheld) hevent hsameId
  · intro hmarks
    have hfresh := apart_of_marksUnread hlegal hmarking hmarks
    intro j k response response' hne hj hk event event' hevent hevent'
    rw [hphase] at hj hk
    rcases ite_eq_iff.mp hj with ⟨hji, hj⟩ | ⟨hji, hj⟩
    · rcases ite_eq_iff.mp hk with ⟨hki, _⟩ | ⟨hki, hk⟩
      · exact absurd (hji.trans hki.symm) hne
      · rw [← PollPhase.responded.inj (Option.some.inj hj)] at hevent
        exact hfresh k response' hk event event' hevent hevent'
    · rcases ite_eq_iff.mp hk with ⟨_, hk⟩ | ⟨_, hk⟩
      · rw [← PollPhase.responded.inj (Option.some.inj hk)] at hevent'
        exact (hfresh j response hj event' event hevent' hevent).symm
      · exact h j k response response' hne hj hk event event' hevent hevent'

theorem handedOutOnce_step {history : List (OutboxEvent Id Data)}
    {e : OutboxEvent Id Data} (henabled : e.Enabled (outboxAfter history))
    (hmarked : forall i now, e ≠ OutboxEvent.marked i now)
    (h : HandedOutOnce history) : HandedOutOnce (history ++ [e]) := by
  have hold : forall k response event,
      (outboxAfter (history ++ [e])).phaseOf k =
        some (PollPhase.responded response) -> event ∈ response.events ->
      (outboxAfter history).phaseOf k =
        some (PollPhase.responded response) := by
    intro k response event hphase hevent
    rw [outboxAfter_snoc] at hphase
    rcases Outbox.enters_of_step henabled hphase with hsame | hnew
    · exact hsame
    · cases hnew with
      | nothing => cases hevent
      | responded rows now he _ => exact absurd he (hmarked k now)
  intro i j response response' hne hi hj event event' hevent hevent'
  exact h i j response response' hne (hold i response event hi hevent)
    (hold j response' event' hj hevent') event event' hevent hevent'

/--
Throughout a run no event is handed out twice if and only if whatever an update
marks is still undelivered when it is applied.
-/
theorem handedOutOnce_throughout_iff (run : (eventOutbox Id Data).Run) :
    Throughout HandedOutOnce run.history <->
      (eventOutbox Id Data).EveryStep Outbox.MarksUnread run.history := by
  refine throughout_iff_everyStep ?_ ?_ run.legal
  · intro i j response response' _ hi
    cases hi
  · intro history e hlegal henabled hbefore
    have honce := hbefore history List.prefix_rfl
    cases e with
    | marked i now => exact handedOutOnce_marked_iff hlegal henabled honce
    | recorded id eventType imei data occurredAt =>
        exact iff_of_true (handedOutOnce_step henabled (by simp) honce) trivial
    | requested limit =>
        exact iff_of_true (handedOutOnce_step henabled (by simp) honce) trivial
    | found i rows =>
        exact iff_of_true (handedOutOnce_step henabled (by simp) honce) trivial
    | findFailed i =>
        exact iff_of_true (handedOutOnce_step henabled (by simp) honce) trivial
    | markFailed i =>
        exact iff_of_true (handedOutOnce_step henabled (by simp) honce) trivial

end Runs

def polledRow : OutboxRow Nat Unit where
  id := 7
  eventType := "tracker.device.connected"
  imei := "356938035643809"
  data := ()
  occurredAt := 0

/-- Two requests find the event before either of them marks it. -/
def overlappingPolls : List (OutboxEvent Nat Unit) :=
  [OutboxEvent.recorded 7 "tracker.device.connected" "356938035643809" () 0,
    OutboxEvent.requested none, OutboxEvent.requested none,
    OutboxEvent.found 0 [polledRow], OutboxEvent.found 1 [polledRow],
    OutboxEvent.marked 0 1, OutboxEvent.marked 1 2]

theorem overlappingPolls_legal :
    (eventOutbox Nat Unit).Legal overlappingPolls := by
  have hfinds : FindsUnread [polledRow] 100 [polledRow] :=
    ⟨[polledRow], List.Perm.refl _, List.pairwise_singleton _ _, rfl⟩
  refine ⟨List.not_mem_nil, trivial, trivial, ⟨_, rfl, rfl, hfinds⟩,
    ⟨_, rfl, rfl, hfinds⟩, ⟨_, rfl⟩, ⟨_, rfl⟩, trivial⟩

/-- The event is in both responses. -/
theorem overlappingPolls_hand_out_twice :
    (eventOutbox Nat Unit).Legal overlappingPolls ∧
      ¬ HandedOutOnce overlappingPolls := by
  refine ⟨overlappingPolls_legal, fun honce => ?_⟩
  have hboth : forall i, i < 2 -> (outboxAfter overlappingPolls).phaseOf i =
      some (PollPhase.responded (unreadEvents [polledRow])) := by
    intro i hi
    rcases Nat.lt_succ_iff_lt_or_eq.mp hi with hi | rfl
    · rw [Nat.lt_one_iff.mp hi]
      rfl
    · rfl
  exact honce 0 1 _ _ (by decide) (hboth 0 (by decide)) (hboth 1 (by decide))
    polledRow.event polledRow.event List.mem_cons_self List.mem_cons_self rfl

end Tracker
end AvtTracker
