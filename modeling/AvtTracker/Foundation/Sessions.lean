import AvtTracker.Foundation.Runs
import Mathlib.Data.List.AList

/-!
# Sessions

A server keeps one state machine per session and feeds it the inputs of that
session.  However the sessions interleave, each machine sees the inputs of its
own session only, in order, and answers as it would have on its own.  So the
server is one that receives the answers in the first place.
-/

namespace AvtTracker
namespace Foundation

/-- A machine that answers every input. -/
structure Transducer (State Input Output : Type) where
  initial : State
  step : State -> Input -> Output × State

namespace Transducer

variable {State Input Output : Type} (T : Transducer State Input Output)

def outputsFrom : State -> List Input -> List Output
  | _, [] => []
  | s, x :: inputs => (T.step s x).1 :: outputsFrom (T.step s x).2 inputs

def stateFrom (s : State) (inputs : List Input) : State :=
  inputs.foldl (fun s x => (T.step s x).2) s

/-- What the machine answers to a sequence of inputs. -/
def outputs (inputs : List Input) : List Output :=
  T.outputsFrom T.initial inputs

def stateAfter (inputs : List Input) : State :=
  T.stateFrom T.initial inputs

variable {T}

theorem outputsFrom_append (inputs more : List Input) :
    forall s, T.outputsFrom s (inputs ++ more) =
      T.outputsFrom s inputs ++ T.outputsFrom (T.stateFrom s inputs) more := by
  induction inputs with
  | nil => intro s; rfl
  | cons x inputs ih =>
      intro s
      exact congrArg (List.cons _) (ih _)

theorem stateAfter_snoc (inputs : List Input) (x : Input) :
    T.stateAfter (inputs ++ [x]) = (T.step (T.stateAfter inputs) x).2 :=
  List.foldl_append

theorem outputs_snoc (inputs : List Input) (x : Input) :
    T.outputs (inputs ++ [x]) =
      T.outputs inputs ++ [(T.step (T.stateAfter inputs) x).1] :=
  outputsFrom_append _ _ _

end Transducer

/-!
## Machines side by side
-/

section Parallel

variable {Key State Input Output : Type} [DecidableEq Key]

/-- What belongs to one session, in order. -/
def ofSession {α : Type} (key : Key) (all : List (Key × α)) : List α :=
  all.filterMap (fun keyed => if keyed.1 = key then some keyed.2 else none)

theorem ofSession_append {α : Type} (key : Key) (all more : List (Key × α)) :
    ofSession key (all ++ more) = ofSession key all ++ ofSession key more :=
  List.filterMap_append

theorem ofSession_cons {α : Type} (key : Key) (keyed : Key × α)
    (all : List (Key × α)) : ofSession key (keyed :: all) =
      if keyed.1 = key then keyed.2 :: ofSession key all
      else ofSession key all := by
  unfold ofSession
  rw [List.filterMap_cons]
  by_cases h : keyed.1 = key
  · rw [if_pos h, if_pos h]
  · rw [if_neg h, if_neg h]

/-- One machine for each session. -/
def Transducer.parallel (T : Transducer State Input Output) :
    Transducer (Key -> State) (Key × Input) (Key × Output) where
  initial _ := T.initial
  step states keyed :=
    let answer := T.step (states keyed.1) keyed.2
    ((keyed.1, answer.1), Function.update states keyed.1 answer.2)

variable {T : Transducer State Input Output}

theorem parallel_stateAfter (inputs : List (Key × Input)) (key : Key) :
    T.parallel.stateAfter inputs key =
      T.stateAfter (ofSession key inputs) := by
  induction inputs using List.reverseRecOn with
  | nil => rfl
  | append_singleton inputs keyed ih =>
      rw [Transducer.stateAfter_snoc, ofSession_append, ofSession_cons]
      show Function.update (T.parallel.stateAfter inputs) keyed.1
        (T.step (T.parallel.stateAfter inputs keyed.1) keyed.2).2 key = _
      by_cases h : keyed.1 = key
      · rw [if_pos h, ← h, Function.update_self]
        rw [← h] at ih
        rw [ih]
        exact (Transducer.stateAfter_snoc _ _).symm
      · rw [if_neg h, Function.update_of_ne (Ne.symm h), ih]
        exact congrArg T.stateAfter (List.append_nil _).symm

theorem parallel_outputs (inputs : List (Key × Input)) (key : Key) :
    ofSession key (T.parallel.outputs inputs) =
      T.outputs (ofSession key inputs) := by
  induction inputs using List.reverseRecOn with
  | nil => rfl
  | append_singleton inputs keyed ih =>
      rw [Transducer.outputs_snoc, ofSession_append, ofSession_append, ih,
        ofSession_cons, ofSession_cons]
      show _ ++ (if keyed.1 = key then
        [(T.step (T.parallel.stateAfter inputs keyed.1) keyed.2).1] else []) = _
      by_cases h : keyed.1 = key
      · rw [if_pos h, if_pos h, parallel_stateAfter, h]
        exact (Transducer.outputs_snoc _ _).symm
      · rw [if_neg h, if_neg h]
        exact (List.append_nil _).trans
          (congrArg T.outputs (List.append_nil _).symm)

end Parallel

/-!
## Tables of sessions
-/

section Tables

variable {Key State Input Output : Type} [DecidableEq Key]

/-- The table holds the machine of every session that was opened, in the state
that the inputs of the session put it in. -/
structure Sessions (T : Transducer State Input Output)
    (table : AList (fun _ : Key => State)) (inputs : Key -> List Input) :
    Prop where
  opened : forall key s, table.lookup key = some s ->
    s = T.stateAfter (inputs key)
  unopened : forall key, key ∉ table -> inputs key = []

namespace Sessions

variable {T : Transducer State Input Output}
variable {table : AList (fun _ : Key => State)}
variable {inputs inputs' : Key -> List Input} {key : Key}

theorem empty (hinputs : forall key, inputs key = []) :
    Sessions T ∅ inputs where
  opened key s h := by cases h
  unopened key _ := hinputs key

theorem congr (h : Sessions T table inputs)
    (hinputs : forall key, inputs' key = inputs key) :
    Sessions T table inputs' := by
  rw [funext hinputs]
  exact h

theorem start (h : Sessions T table inputs) (hnew : key ∉ table) :
    Sessions T (table.insert key T.initial) inputs := by
  constructor
  · intro other s hlookup
    by_cases hsame : other = key
    · rw [hsame, AList.lookup_insert] at hlookup
      rw [hsame, h.unopened key hnew, ← Option.some.inj hlookup]
      rfl
    · rw [AList.lookup_insert_ne hsame] at hlookup
      exact h.opened other s hlookup
  · intro other hother
    exact h.unopened other fun hmem =>
      hother ((AList.mem_insert _).mpr (Or.inr hmem))

theorem feed (h : Sessions T table inputs) {s : State} {x : Input}
    (hlookup : table.lookup key = some s)
    (hinputs : forall other, inputs' other =
      if other = key then inputs key ++ [x] else inputs other) :
    Sessions T (table.insert key (T.step s x).2) inputs' := by
  have hstate := h.opened key s hlookup
  constructor
  · intro other s' hother
    rw [hinputs]
    by_cases hsame : other = key
    · rw [hsame, AList.lookup_insert] at hother
      rw [if_pos hsame, Transducer.stateAfter_snoc, ← hstate]
      exact (Option.some.inj hother).symm
    · rw [AList.lookup_insert_ne hsame] at hother
      rw [if_neg hsame]
      exact h.opened other s' hother
  · intro other hother
    rw [AList.mem_insert, not_or] at hother
    rw [hinputs, if_neg hother.left]
    exact h.unopened other hother.right

end Sessions

end Tables

/-!
## Servers with sessions
-/

section Servers

variable {Key State Input Output Message : Type} [DecidableEq Key]

theorem ofSession_same {α : Type} (key : Key) (xs : List α) :
    ofSession key (xs.map (fun x => (key, x))) = xs := by
  unfold ofSession
  rw [List.filterMap_map]
  exact (List.filterMap_congr fun x _ => if_pos rfl).trans List.filterMap_some

theorem ofSession_other {α : Type} {key other : Key} (h : other ≠ key)
    (xs : List α) : ofSession other (xs.map (fun x => (key, x))) = [] := by
  unfold ofSession
  rw [List.filterMap_map]
  exact List.filterMap_eq_nil_iff.mpr fun x _ => if_neg (Ne.symm h)

theorem ofSession_map {α β : Type} (key : Key) (f : α -> β)
    (all : List (Key × α)) :
    ofSession key (all.map (fun keyed => (keyed.1, f keyed.2))) =
      (ofSession key all).map f := by
  unfold ofSession
  rw [List.filterMap_map, List.map_filterMap]
  refine List.filterMap_congr fun keyed _ => ?_
  by_cases h : keyed.1 = key
  · simp only [Function.comp_apply, if_pos h, Option.map_some]
  · simp only [Function.comp_apply, if_neg h, Option.map_none]

theorem ofSession_filter {α : Type} (key : Key) (p : α -> Bool)
    (all : List (Key × α)) :
    ofSession key (all.filter (fun keyed => p keyed.2)) =
      (ofSession key all).filter p := by
  unfold ofSession
  rw [List.filterMap_filter, List.filter_filterMap]
  refine List.filterMap_congr fun keyed _ => ?_
  by_cases h : keyed.1 = key
  · rw [if_pos h, Option.filter_some]
  · rw [if_neg h]
    exact ite_self none

theorem ofSession_eq {α : Type} (key : Key) (all : List (Key × α)) :
    ofSession key all =
      (all.filter (fun keyed => decide (keyed.1 = key))).map Prod.snd := by
  unfold ofSession
  rw [← List.filterMap_eq_map', List.filterMap_filter]
  refine List.filterMap_congr fun keyed _ => ?_
  simp only [decide_eq_true_eq]

theorem ofSession_flatMap {α β : Type} (key : Key) (f : α -> List β)
    (all : List (Key × α)) :
    ofSession key (all.flatMap (fun keyed =>
      (f keyed.2).map (fun b => (keyed.1, b)))) =
        (ofSession key all).flatMap f := by
  induction all with
  | nil => rfl
  | cons keyed all ih =>
      rw [List.flatMap_cons, ofSession_append, ih, ofSession_cons]
      by_cases h : keyed.1 = key
      · rw [if_pos h, h, ofSession_same, List.flatMap_cons]
      · rw [if_neg h, ofSession_other (Ne.symm h), List.nil_append]

/-- What stands for the parts of every session stands, interleaved alike, for the
whole. -/
theorem exists_interleaving {α β : Type} (f : β -> α) {all : List (Key × α)}
    {parts : Key -> List β}
    (h : forall key, ofSession key all = (parts key).map f) :
    exists whole : List (Key × β),
      (forall key, ofSession key whole = parts key) ∧
        whole.map (fun keyed => (keyed.1, f keyed.2)) = all := by
  induction all generalizing parts with
  | nil =>
      refine ⟨[], fun key => ?_, rfl⟩
      exact (List.map_eq_nil_iff.mp (h key).symm).symm
  | cons keyed all ih =>
      rcases keyed with ⟨first, a⟩
      have hfirst := h first
      rw [ofSession_cons, if_pos rfl] at hfirst
      rcases List.map_eq_cons_iff.mp hfirst.symm with ⟨b, rest, hparts, hb, hrest⟩
      have hothers : forall key, ofSession key all =
          ((if key = first then rest else parts key).map f) := by
        intro key
        by_cases hkey : key = first
        · rw [if_pos hkey, hkey, hrest]
        · have hkept := h key
          rw [ofSession_cons, if_neg (Ne.symm hkey)] at hkept
          rw [if_neg hkey, hkept]
      rcases ih hothers with ⟨whole, hsessions, hwhole⟩
      refine ⟨(first, b) :: whole, fun key => ?_, ?_⟩
      · rw [ofSession_cons, hsessions]
        by_cases hkey : first = key
        · rw [if_pos hkey, if_pos hkey.symm, ← hkey, hparts]
        · rw [if_neg hkey, if_neg (Ne.symm hkey)]
      · rw [List.map_cons, hwhole, hb]

variable {S S' Event Event' : Type}

/-- A server that feeds its inputs to machines, one for each session, and then
does what another server does on the messages they answer with. -/
structure SessionServer (M : EventSystem S Event) (N : EventSystem S' Event')
    (Key State Input Output Message Label : Type) [DecidableEq Key] where
  machine : Transducer State Input Output
  messages : Output -> List Message
  project : S -> S'
  table : S -> AList (fun _ : Key => State)
  Inv : S -> Prop
  input : Event -> Option (Key × Input)
  message : Event' -> Option (Key × Message)
  label : Event -> Option Label
  label' : Event' -> Option Label
  initial : Inv M.initial
  project_initial : project M.initial = N.initial
  table_initial : table M.initial = ∅
  kept : forall s e, Inv s -> M.Enabled s e -> Inv (M.step s e)
  idle : forall s e, Inv s -> M.Enabled s e -> input e = none ->
    (exists events, N.LegalFrom (project s) events ∧
        N.stateFrom (project s) events = project (M.step s e) ∧
        events.filterMap message = [] ∧
        events.filterMap label' = [e].filterMap label) ∧
      (table (M.step s e) = table s ∨
        exists key, key ∉ table s ∧
          table (M.step s e) = (table s).insert key machine.initial)
  fed : forall s e key x, Inv s -> M.Enabled s e -> input e = some (key, x) ->
    exists m, (table s).lookup key = some m ∧
      table (M.step s e) = (table s).insert key (machine.step m x).2 ∧
      exists events, N.LegalFrom (project s) events ∧
        N.stateFrom (project s) events = project (M.step s e) ∧
        events.filterMap message =
          (messages (machine.step m x).1).map (fun answer => (key, answer)) ∧
        events.filterMap label' = [e].filterMap label

namespace SessionServer

variable {Label : Type}
variable {M : EventSystem S Event} {N : EventSystem S' Event'}
variable (V : SessionServer M N Key State Input Output Message Label)

def inputsOf (history : List Event) (key : Key) : List Input :=
  ofSession key (history.filterMap V.input)

def answers (inputs : List Input) : List Message :=
  (V.machine.outputs inputs).flatMap V.messages

/-- The messages of all sessions, in the order of the inputs they answer. -/
def allAnswers (inputs : List (Key × Input)) : List (Key × Message) :=
  (V.machine.parallel.outputs inputs).flatMap (fun keyed =>
    (V.messages keyed.2).map (fun answer => (keyed.1, answer)))

theorem ofSession_allAnswers (inputs : List (Key × Input)) (key : Key) :
    ofSession key (V.allAnswers inputs) = V.answers (ofSession key inputs) := by
  unfold allAnswers answers
  rw [ofSession_flatMap, parallel_outputs]

theorem allAnswers_snoc (inputs : List (Key × Input)) (key : Key)
    (x : Input) : V.allAnswers (inputs ++ [(key, x)]) =
      V.allAnswers inputs ++ (V.messages (V.machine.step
        (V.machine.stateAfter (ofSession key inputs)) x).1).map
          (fun answer => (key, answer)) := by
  unfold allAnswers
  rw [Transducer.outputs_snoc, List.flatMap_append, List.flatMap_singleton]
  show _ ++ (V.messages (V.machine.step
    (V.machine.parallel.stateAfter inputs key) x).1).map _ = _
  rw [parallel_stateAfter]
  rfl

/-- A run on messages that does what a run on inputs did: the messages are the
answers to the inputs, in their order, and its labels are the same. -/
structure MessageRun (history : List Event) (trace : List Event') : Prop where
  legal : N.Legal trace
  state : N.stateAfter trace = V.project (M.stateAfter history)
  messages : trace.filterMap V.message =
    V.allAnswers (history.filterMap V.input)
  labels : trace.filterMap V.label' = history.filterMap V.label

variable {V} {history : List Event} {trace : List Event'}

theorem MessageRun.extend (h : V.MessageRun history trace) {e : Event}
    {events : List Event'}
    (hlegal : N.LegalFrom (V.project (M.stateAfter history)) events)
    (hstate : N.stateFrom (V.project (M.stateAfter history)) events =
      V.project (M.step (M.stateAfter history) e))
    (hmessages : V.allAnswers ((history ++ [e]).filterMap V.input) =
      V.allAnswers (history.filterMap V.input) ++ events.filterMap V.message)
    (hlabels : events.filterMap V.label' = [e].filterMap V.label) :
    V.MessageRun (history ++ [e]) (trace ++ events) := by
  rw [← h.state] at hlegal hstate
  refine ⟨EventSystem.legalFrom_append.mpr ⟨h.legal, hlegal⟩, ?_, ?_, ?_⟩
  · rw [EventSystem.stateAfter_snoc, ← hstate]
    exact EventSystem.stateFrom_append _ _ _
  · rw [List.filterMap_append, h.messages, hmessages]
  · rw [List.filterMap_append, List.filterMap_append, h.labels, hlabels]

theorem input_idle {e : Event} (h : V.input e = none) :
    (history ++ [e]).filterMap V.input = history.filterMap V.input := by
  rw [List.filterMap_append, List.filterMap_cons_none h]
  exact List.append_nil _

theorem input_fed {e : Event} {keyed : Key × Input}
    (h : V.input e = some keyed) :
    (history ++ [e]).filterMap V.input =
      history.filterMap V.input ++ [keyed] := by
  rw [List.filterMap_append, List.filterMap_cons_some h]
  rfl

theorem inputsOf_fed {e : Event} {key : Key} {x : Input}
    (h : V.input e = some (key, x)) (other : Key) :
    V.inputsOf (history ++ [e]) other =
      if other = key then V.inputsOf history key ++ [x]
      else V.inputsOf history other := by
  unfold inputsOf
  rw [input_fed h, ofSession_append, ofSession_cons]
  by_cases hsame : other = key
  · rw [if_pos hsame, if_pos hsame.symm, hsame]
    rfl
  · rw [if_neg hsame, if_neg (Ne.symm hsame)]
    exact List.append_nil _

/-- The messages and machines a history comes to. -/
structure Served (history : List Event) (trace : List Event') : Prop where
  run : V.MessageRun history trace
  inv : V.Inv (M.stateAfter history)
  sessions : Sessions V.machine (V.table (M.stateAfter history))
    (V.inputsOf history)

theorem Served.exists_step (h : Served (V := V) history trace) {e : Event}
    (henabled : M.Enabled (M.stateAfter history) e) :
    exists trace', Served (V := V) (history ++ [e]) trace' := by
  have hkept := V.kept _ e h.inv henabled
  cases hinput : V.input e with
  | none =>
      rcases V.idle _ e h.inv henabled hinput with
        ⟨⟨events, hlegal, hstate, hnone, hlabels⟩, htable⟩
      refine ⟨trace ++ events, h.run.extend hlegal hstate ?_ hlabels, ?_, ?_⟩
      · rw [input_idle hinput, hnone]
        exact (List.append_nil _).symm
      · rw [EventSystem.stateAfter_snoc]
        exact hkept
      · have hsame : V.inputsOf (history ++ [e]) = V.inputsOf history :=
          funext (fun key => congrArg (ofSession key) (input_idle hinput))
        rw [EventSystem.stateAfter_snoc, hsame]
        rcases htable with htable | ⟨key, hnew, htable⟩
        · rw [htable]
          exact h.sessions
        · rw [htable]
          exact h.sessions.start hnew
  | some keyed =>
      rcases keyed with ⟨key, x⟩
      rcases V.fed _ e key x h.inv henabled hinput with
        ⟨m, hlookup, htable, events, hlegal, hstate, hanswers, hlabels⟩
      refine ⟨trace ++ events, h.run.extend hlegal hstate ?_ hlabels, ?_, ?_⟩
      · rw [input_fed hinput, allAnswers_snoc, hanswers,
          h.sessions.opened key m hlookup]
        rfl
      · rw [EventSystem.stateAfter_snoc]
        exact hkept
      · rw [EventSystem.stateAfter_snoc, htable]
        exact h.sessions.feed hlookup (inputsOf_fed hinput)

variable (V) in
/-- Every run on inputs is a run on messages, which answer the inputs in their
order, each session as if it were alone. -/
theorem exists_message_run (h : M.Legal history) :
    exists trace, V.MessageRun history trace := by
  have hserved : exists trace, Served (V := V) history trace := by
    refine EventSystem.invariant ?_ ?_ h
    · refine ⟨[], ⟨trivial, V.project_initial.symm, rfl, rfl⟩, V.initial, ?_⟩
      show Sessions V.machine (V.table M.initial) _
      rw [V.table_initial]
      exact Sessions.empty fun _ => rfl
    · rintro history e _ henabled ⟨trace, hserved⟩
      exact hserved.exists_step henabled
  rcases hserved with ⟨trace, hserved⟩
  exact ⟨trace, hserved.run⟩

end SessionServer

end Servers

end Foundation
end AvtTracker
