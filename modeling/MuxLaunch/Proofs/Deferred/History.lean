import MuxLaunch.Proofs.Deferred.Queue

/-! # Histories of a queue

A queue goes through enqueuing and draining, and the runner of a drain may enqueue values of its
own. All of this is recorded moment by moment.
-/

namespace MuxLaunch

inductive QueueEvent where
  /-- A value has been accepted, in place of an earlier one of its option. -/
  | accepted (d : Deferrable) (value : String)
  | begun
  /-- A value has left the queue and been handed to a runner. -/
  | handed (d : Deferrable) (value : String)
  deriving Repr, DecidableEq

/-- An event and the queue right after it. -/
structure Moment where
  event : QueueEvent
  queue : DeferredQueue
  deriving Repr, DecidableEq

abbrev History := List Moment

/-- What a runner does with a value: it enqueues others and then replies or fails. -/
structure Conduct where
  offers : List (String × String)
  reply : Option Bool
  deriving Repr, DecidableEq

/-- A runner whose conduct may depend on all that has happened. The option and the value determine
    the order that it is given. -/
abbrev QueueRunner := History → Deferrable → String → Conduct

namespace DeferredQueue

def events (h : History) : List QueueEvent :=
  h.map Moment.event

/-- Enqueue a value. One that is refused leaves no trace. -/
def offer (state : DeferredQueue × History) (entry : String × String) : DeferredQueue × History :=
  match Deferrable.ofName? entry.1, state.1.enqueue entry.1 entry.2 with
  | some d, .ok q => (q, state.2 ++ [⟨.accepted d entry.2, q⟩])
  | _, _ => state

def attend (runner : QueueRunner) : Delivery Unit History := fun d value _ => do
  let (q, h) ← get
  let conduct := runner h d value
  set (conduct.offers.foldl offer (q, h ++ [⟨.handed d value, q⟩]))
  match conduct.reply with
  | some succeeded => return succeeded
  | none => throw (.runner ())

/-- The state that a computation ends in, however it ends. -/
def finalState {ε σ α : Type} : EStateM.Result ε σ α → σ
  | .ok _ s => s
  | .error _ s => s

inductive Call where
  | enqueue (name value : String)
  | drain (runner : QueueRunner)

def Call.perform (state : DeferredQueue × History) : Call → DeferredQueue × History
  | enqueue name value => offer state (name, value)
  | drain runner =>
      finalState
        (DeferredQueue.drain (attend runner) (state.1, state.2 ++ [⟨.begun, state.1⟩]))

def history (calls : List Call) : History :=
  (calls.foldl Call.perform (empty, [])).2

/-- The value accepted last for an option since the last drain began. -/
def latest? (d : Deferrable) (es : List QueueEvent) : Option String :=
  es.foldl (fun last e => match e with
    | .accepted d' value => if d' = d then some value else last
    | .begun => none
    | .handed _ _ => last) none

theorem latest?_accepted (d d' : Deferrable) (value : String) (es : List QueueEvent) :
    latest? d (es ++ [.accepted d' value]) = if d' = d then some value else latest? d es := by
  simp only [latest?, List.foldl_append, List.foldl_cons, List.foldl_nil]

theorem latest?_begun (d : Deferrable) (es : List QueueEvent) :
    latest? d (es ++ [.begun]) = none := by
  simp only [latest?, List.foldl_append, List.foldl_cons, List.foldl_nil]

theorem latest?_handed (d d' : Deferrable) (value : String) (es : List QueueEvent) :
    latest? d (es ++ [.handed d' value]) = latest? d es := by
  simp only [latest?, List.foldl_append, List.foldl_cons, List.foldl_nil]

theorem events_concat (h : History) (m : Moment) : events (h ++ [m]) = events h ++ [m.event] :=
  List.map_append

/-- All that can happen to a queue. A drain hands over what it found at its start, while the queue
    holds what has been accepted since, if anything. -/
inductive IsLog : DeferredQueue → History → Prop
  | fresh : IsLog empty []
  | accepted {q h} (d : Deferrable) (value : String) :
      IsLog q h → IsLog (q.put d value) (h ++ [⟨.accepted d value, q.put d value⟩])
  | begun {q h} : IsLog q h → IsLog q (h ++ [⟨.begun, q⟩])
  | handed {q h} (d : Deferrable) (value : String) :
      IsLog q h → q.get? d = some ((latest? d (events h)).getD value) →
        IsLog (q.erase d) (h ++ [⟨.handed d value, q.erase d⟩])

/-- The entries that a drain has still to hand over are in the queue, or newer values are. -/
def Awaits (entries : List (Deferrable × String)) (q : DeferredQueue) (h : History) : Prop :=
  ∀ d value, (d, value) ∈ entries → q.get? d = some ((latest? d (events h)).getD value)

theorem offer_isLog (entries : List (Deferrable × String)) {state : DeferredQueue × History}
    (isLog : IsLog state.1 state.2) (awaits : Awaits entries state.1 state.2)
    (entry : String × String) :
    IsLog (offer state entry).1 (offer state entry).2 ∧
      Awaits entries (offer state entry).1 (offer state entry).2 := by
  obtain ⟨q, h⟩ := state
  obtain ⟨name, value⟩ := entry
  cases isName : Deferrable.ofName? name with
  | none =>
      simp only [offer, isName]
      exact ⟨isLog, awaits⟩
  | some d =>
      simp only [offer, enqueue, isName]
      refine ⟨.accepted d value isLog, ?_⟩
      intro d' old member
      rw [get?_put, events_concat, latest?_accepted]
      by_cases same : d' = d
      · simp [same]
      · rw [if_neg same, if_neg (Ne.symm same)]
        exact awaits d' old member

theorem offers_isLog {entries : List (Deferrable × String)} (offers : List (String × String))
    (state : DeferredQueue × History) (isLog : IsLog state.1 state.2)
    (awaits : Awaits entries state.1 state.2) :
    IsLog (offers.foldl offer state).1 (offers.foldl offer state).2 ∧
      Awaits entries (offers.foldl offer state).1 (offers.foldl offer state).2 := by
  induction offers generalizing state with
  | nil => exact ⟨isLog, awaits⟩
  | cons entry rest ih =>
      obtain ⟨stepLog, stepAwaits⟩ := offer_isLog entries isLog awaits entry
      exact ih _ stepLog stepAwaits

/-- A runner has its offers accepted before it replies or fails. -/
theorem attend_eq (runner : QueueRunner) (d : Deferrable) (value : String) (o : Order)
    (q : DeferredQueue) (h : History) :
    attend runner d value o (q, h) =
      match (runner h d value).reply with
      | some succeeded =>
          .ok succeeded
            ((runner h d value).offers.foldl offer (q, h ++ [⟨.handed d value, q⟩]))
      | none =>
          .error (.runner ())
            ((runner h d value).offers.foldl offer (q, h ++ [⟨.handed d value, q⟩])) := by
  cases replies : (runner h d value).reply with
  | none =>
      simp [attend, replies, bind, EStateM.bind, get, getThe, MonadStateOf.get, EStateM.get,
        set, EStateM.set, throw, throwThe, MonadExceptOf.throw, EStateM.throw]
  | some succeeded =>
      simp [attend, replies, bind, EStateM.bind, get, getThe, MonadStateOf.get, EStateM.get,
        set, EStateM.set, pure, EStateM.pure]

theorem finalState_count (counted : Drain Unit History Nat) (state : DeferredQueue × History) :
    finalState ((do return (← counted) + 1 : Drain Unit History Nat) state) =
      finalState (counted state) := by
  simp only [bind, EStateM.bind]
  cases counted state with
  | ok count last => rfl
  | error fault last => rfl

/-- A delivery keeps the log, whatever the runner does and wherever it stops. -/
theorem deliver_isLog (runner : QueueRunner) (entries : List (Deferrable × String))
    (distinct : (entries.map (·.1)).Nodup) {q : DeferredQueue} {h : History} (isLog : IsLog q h)
    (awaits : Awaits entries q h) :
    IsLog (finalState (deliver (attend runner) entries (q, h))).1
      (finalState (deliver (attend runner) entries (q, h))).2 := by
  induction entries generalizing q h with
  | nil => exact isLog
  | cons entry rest ih =>
      obtain ⟨d, value⟩ := entry
      obtain ⟨fresh, distinct⟩ := List.nodup_cons.mp distinct
      have waiting := awaits d value List.mem_cons_self
      have waits : (q.get? d).isSome := by rw [waiting]; rfl
      have taken : IsLog (q.erase d) (h ++ [⟨.handed d value, q.erase d⟩]) :=
        .handed d value isLog waiting
      -- An option comes once in a delivery, so handing it over takes nothing from the others.
      have still : Awaits rest (q.erase d) (h ++ [⟨.handed d value, q.erase d⟩]) := by
        intro d' later member
        have other : d' ≠ d := ne_of_mem_of_fresh fresh member
        rw [get?_erase, if_neg other, events_concat, latest?_handed]
        exact awaits d' later (List.mem_cons_of_mem _ member)
      obtain ⟨offered, ready⟩ := offers_isLog (runner h d value).offers (q.erase d, _) taken still
      have ran := attend_eq runner d value (order (d, value)) (q.erase d) h
      rw [deliver, stateBind_of_ok (release_eq waits h)]
      cases replies : (runner h d value).reply with
      | none =>
          rw [replies] at ran
          rw [stateBind_of_error ran]
          exact offered
      | some succeeded =>
          rw [replies] at ran
          rw [stateBind_of_ok ran, finalState_count]
          exact ih distinct offered ready

theorem perform_isLog {state : DeferredQueue × History} (isLog : IsLog state.1 state.2)
    (call : Call) : IsLog (call.perform state).1 (call.perform state).2 := by
  cases call with
  | enqueue name value =>
      exact (offer_isLog [] isLog (fun _ _ member => nomatch member) (name, value)).1
  | drain runner =>
      have awaits : Awaits state.1.pending state.1 (state.2 ++ [⟨.begun, state.1⟩]) := by
        intro d value member
        rw [events_concat, latest?_begun]
        exact mem_pending.mp member
      have last := deliver_isLog runner _ state.1.nodup_pending isLog.begun awaits
      have step : Call.perform state (.drain runner) =
          finalState (deliver (attend runner) state.1.pending
            (state.1, state.2 ++ [⟨.begun, state.1⟩])) := rfl
      rw [step]
      exact last

theorem performs_isLog (calls : List Call) {state : DeferredQueue × History}
    (isLog : IsLog state.1 state.2) :
    IsLog (calls.foldl Call.perform state).1 (calls.foldl Call.perform state).2 := by
  induction calls generalizing state with
  | nil => exact isLog
  | cons call rest ih => exact ih (perform_isLog isLog call)

/-- Whatever is done to a fresh queue, its history is a log. -/
theorem history_isLog (calls : List Call) : ∃ q, IsLog q (history calls) :=
  ⟨_, performs_isLog calls .fresh⟩

end DeferredQueue

end MuxLaunch
