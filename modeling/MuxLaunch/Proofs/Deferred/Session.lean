import MuxLaunch.Proofs.Deferred.Handover
import MuxLaunch.Proofs.Launch.Delivery

/-! # Sessions of a queue

A session is a row of calls on one queue, with runners that have no access to it. All that can be
told of a session is in its records. A value that has been accepted is handed over at most once
before the next value of its option, and once if a drain comes to its turn.
-/

namespace MuxLaunch

inductive QueueCall (ε σ : Type) where
  | enqueue (name value : String)
  | drain (runner : OrderRunner ε σ)

/-- What a call on a queue comes to. -/
inductive QueueAnswer (ε : Type) where
  | accepted
  | refused (f : DeferralFault)
  | delivered (count : Nat)
  | failed (f : DeferredQueue.DrainFault ε)

/-- A call, the queue and the runners' state before and after it, and what happened in between. -/
structure QueueRecord (ε σ : Type) where
  queue : DeferredQueue
  state : σ
  call : QueueCall ε σ
  handed : List (Handover ε)
  answer : QueueAnswer ε
  nextQueue : DeferredQueue
  nextState : σ

namespace DeferredQueue

variable {ε σ : Type}

def performOn (q : DeferredQueue) (s : σ) (call : QueueCall ε σ) : QueueRecord ε σ :=
  match call with
  | .enqueue name value =>
      match q.enqueue name value with
      | .ok q' => ⟨q, s, call, [], .accepted, q', s⟩
      | .error f => ⟨q, s, call, [], .refused f, q, s⟩
  | .drain runner =>
      match drain (serve runner) (q, s, []) with
      | .ok count (q', s', handed) => ⟨q, s, call, handed, .delivered count, q', s'⟩
      | .error f (q', s', handed) => ⟨q, s, call, handed, .failed f, q', s'⟩

def session (q : DeferredQueue) (s : σ) : List (QueueCall ε σ) → List (QueueRecord ε σ)
  | [] => []
  | call :: rest =>
      performOn q s call ::
        session (performOn q s call).nextQueue (performOn q s call).nextState rest

end DeferredQueue

namespace QueueRecord

open DeferredQueue

variable {ε σ : Type}

def answerOf (count : Nat) : Option ε → QueueAnswer ε
  | none => .delivered count
  | some e => .failed (.runner e)

/-- What may come of a call. A name is refused, and nothing changes, when it belongs to no option
    that can wait. A drain serves the runner with what waits, takes out what it hands over and
    nothing else, and counts it unless the runner fails. -/
inductive IsProper : QueueRecord ε σ → Prop
  | accepted (q : DeferredQueue) (s : σ) (d : Deferrable) (value : String) :
      IsProper ⟨q, s, .enqueue d.name value, [], .accepted, q.put d value, s⟩
  | refused (q : DeferredQueue) (s : σ) {name : String} (value : String) :
      (∀ d : Deferrable, d.name ≠ name) →
        IsProper ⟨q, s, .enqueue name value, [], .refused ⟨name⟩, q, s⟩
  | drained {q q' : DeferredQueue} {s t : σ} {runner : OrderRunner ε σ}
      {handed : List (Handover ε)} {failure : Option ε} :
      Served runner s q.pending handed failure t →
        (∀ d, q'.get? d = if d ∈ handed.map Handover.option then none else q.get? d) →
          IsProper ⟨q, s, .drain runner, handed, answerOf handed.length failure, q', t⟩

/-- Does the call enqueue a value of the option? -/
def enqueues (d : Deferrable) (r : QueueRecord ε σ) : Bool :=
  match r.call with
  | .enqueue name _ => name = d.name
  | .drain _ => false

/-- A drain comes to the turn of an option unless its runner fails on an option before it. -/
def Reaches (d : Deferrable) (r : QueueRecord ε σ) : Prop :=
  (∃ runner, r.call = .drain runner) ∧ ∀ h ∈ r.handed, h.IsFailed → d.turn ≤ h.option.turn

/-- What a call makes of the value that waits for an option. -/
def next? (d : Deferrable) (held : Option String) (r : QueueRecord ε σ) : Option String :=
  match r.call with
  | .enqueue name value => if name = d.name then some value else held
  | .drain _ => if d ∈ r.handed.map Handover.option then none else held

/-- The value enqueued last for an option, unless it has been handed over since. -/
def waiting? (d : Deferrable) (log : List (QueueRecord ε σ)) : Option String :=
  log.foldl (next? d) none

/-- The records up to the next value of an option. -/
def current (d : Deferrable) (log : List (QueueRecord ε σ)) : List (QueueRecord ε σ) :=
  log.takeWhile fun r => !r.enqueues d

/-- The handovers of an option up to its next value. -/
def deliveries (d : Deferrable) (log : List (QueueRecord ε σ)) : List (Handover ε) :=
  (current d log).flatMap fun r => r.handed.filter fun h => h.option = d

/-- A value is never handed over, and no drain comes to its turn, or it is handed over once. -/
def IsDeliveredOnce (d : Deferrable) (value : String) (log : List (QueueRecord ε σ)) : Prop :=
  deliveries d log = [] ∧ (¬∃ r ∈ current d log, r.Reaches d) ∨
    ∃ reply, deliveries d log = [⟨d, order (d, value), reply⟩]

/-- The records of a session are faithful to its calls: what waits at each is what has been
    enqueued last and not been handed over, each comes to what it may come to, and every value
    that is accepted is delivered once. -/
structure AreFaithful (calls : List (QueueCall ε σ)) (log : List (QueueRecord ε σ)) : Prop where
  complete : log.map QueueRecord.call = calls
  waits : ∀ earlier r later, log = earlier ++ r :: later →
    ∀ d, r.queue.get? d = waiting? d earlier
  proper : ∀ r ∈ log, r.IsProper
  once : ∀ earlier r later, log = earlier ++ r :: later →
    ∀ (d : Deferrable) value, r.call = .enqueue d.name value → IsDeliveredOnce d value later

/-- What comes of a call is proper. -/
theorem performOn_isProper (q : DeferredQueue) (s : σ) (call : QueueCall ε σ) :
    (q.performOn s call).IsProper := by
  cases call with
  | enqueue name value =>
      cases isName : Deferrable.ofName? name with
      | none =>
          simp only [performOn, enqueue, isName]
          refine .refused q s value fun d same => ?_
          have unnamed := List.find?_eq_none.mp isName d d.mem_all
          simp [same] at unnamed
      | some d =>
          simp only [performOn, enqueue, isName]
          have same : d.name = name := by simpa using List.find?_some isName
          subst same
          exact .accepted q s d value
  | drain runner =>
      obtain ⟨handed, failure, t, q', served, left, drained⟩ := drain_serve runner q s
      cases failure with
      | none =>
          simp only [performOn, drained]
          exact .drained served left
      | some e =>
          simp only [performOn, drained]
          exact .drained served left

theorem call_performOn (q : DeferredQueue) (s : σ) (call : QueueCall ε σ) :
    (q.performOn s call).call = call := by
  cases call with
  | enqueue name value => simp only [performOn]; split <;> rfl
  | drain runner => simp only [performOn]; split <;> rfl

theorem queue_performOn (q : DeferredQueue) (s : σ) (call : QueueCall ε σ) :
    (q.performOn s call).queue = q := by
  cases call with
  | enqueue name value => simp only [performOn]; split <;> rfl
  | drain runner => simp only [performOn]; split <;> rfl

theorem call_session (q : DeferredQueue) (s : σ) (calls : List (QueueCall ε σ)) :
    (session q s calls).map QueueRecord.call = calls := by
  induction calls generalizing q s with
  | nil => rfl
  | cons call rest ih => rw [session, List.map_cons, call_performOn, ih]

theorem session_isProper (q : DeferredQueue) (s : σ) (calls : List (QueueCall ε σ)) :
    ∀ r ∈ session q s calls, r.IsProper := by
  induction calls generalizing q s with
  | nil => exact fun _ member => nomatch member
  | cons call rest ih =>
      intro r member
      rcases List.mem_cons.mp member with rfl | later
      · exact performOn_isProper q s call
      · exact ih _ _ r later

/-- Behind any of its records a session goes on like one that begins there. -/
theorem session_split {q : DeferredQueue} {s : σ} {calls : List (QueueCall ε σ)}
    {earlier later : List (QueueRecord ε σ)} {r : QueueRecord ε σ}
    (split : session q s calls = earlier ++ r :: later) :
    ∃ rest, later = session r.nextQueue r.nextState rest := by
  induction earlier generalizing q s calls with
  | nil =>
      cases calls with
      | nil => cases split
      | cons call rest =>
          obtain ⟨rfl, rfl⟩ := List.cons.inj split
          exact ⟨rest, rfl⟩
  | cons first before ih =>
      cases calls with
      | nil => cases split
      | cons call rest => exact ih (List.cons.inj split).2

theorem IsProper.get?_next {r : QueueRecord ε σ} (proper : r.IsProper) (d : Deferrable) :
    r.nextQueue.get? d = next? d (r.queue.get? d) r := by
  cases proper with
  | accepted q s d' value =>
      simp only [next?, get?_put]
      by_cases same : d = d'
      · simp [same]
      · have different : d'.name ≠ d.name := fun h => same (Deferrable.name_injective h).symm
        simp [same, different]
  | refused q s value unknown => simp only [next?, Ne.symm (unknown d), if_false]
  | drained _ left => exact left d

/-- The value that waits at a record follows from the calls before it. -/
theorem get?_session {q : DeferredQueue} {s : σ} {calls : List (QueueCall ε σ)}
    {earlier later : List (QueueRecord ε σ)} {r : QueueRecord ε σ}
    (split : session q s calls = earlier ++ r :: later) (d : Deferrable) :
    r.queue.get? d = earlier.foldl (next? d) (q.get? d) := by
  induction earlier generalizing q s calls with
  | nil =>
      cases calls with
      | nil => cases split
      | cons call rest =>
          obtain ⟨rfl, -⟩ := List.cons.inj split
          rw [queue_performOn]
          rfl
  | cons first before ih =>
      cases calls with
      | nil => cases split
      | cons call rest =>
          obtain ⟨rfl, behind⟩ := List.cons.inj split
          rw [ih behind, (performOn_isProper q s call).get?_next, queue_performOn]
          rfl

theorem filter_option_of_not_mem {handed : List (Handover ε)} {d : Deferrable}
    (missed : d ∉ handed.map Handover.option) :
    (handed.filter fun h => h.option = d) = [] := by
  rw [List.filter_eq_nil_iff]
  intro h member same
  exact missed (List.mem_map.mpr ⟨h, member, by simpa using same⟩)

theorem filter_option_of_mem {handed : List (Handover ε)}
    (distinct : (handed.map Handover.option).Nodup) {h : Handover ε} (member : h ∈ handed) :
    (handed.filter fun other => other.option = h.option) = [h] := by
  induction handed with
  | nil => cases member
  | cons first rest ih =>
      obtain ⟨fresh, distinct⟩ := List.nodup_cons.mp distinct
      rcases List.mem_cons.mp member with rfl | later
      · rw [List.filter_cons_of_pos (by simp), filter_option_of_not_mem fresh]
      · have different : first.option ≠ h.option := by
          intro same
          exact fresh (same ▸ List.mem_map_of_mem later)
        rw [List.filter_cons_of_neg (by simpa using different), ih distinct later]

/-- Nothing is handed over for an option that does not wait. -/
theorem IsProper.filter_of_idle {r : QueueRecord ε σ} (proper : r.IsProper) {d : Deferrable}
    (idle : r.queue.get? d = none) : (r.handed.filter fun h => h.option = d) = [] := by
  cases proper with
  | accepted => rfl
  | refused => rfl
  | drained served _ =>
      refine filter_option_of_not_mem fun member => ?_
      obtain ⟨h, isHanded, rfl⟩ := List.mem_map.mp member
      obtain ⟨value, isEntry, -⟩ := served.order_eq isHanded
      have waits := mem_pending.mp isEntry
      rw [idle] at waits
      cases waits

/-- A value that waits is handed over once and is gone, or it stays and its turn has not come. -/
theorem IsProper.filter_of_waiting {r : QueueRecord ε σ} (proper : r.IsProper) {d : Deferrable}
    {value : String} (waits : r.queue.get? d = some value) (same : r.enqueues d = false) :
    (r.handed.filter fun h => h.option = d) = [] ∧ r.nextQueue.get? d = some value ∧
        ¬r.Reaches d ∨
      (∃ reply, (r.handed.filter fun h => h.option = d) = [⟨d, order (d, value), reply⟩]) ∧
        r.nextQueue.get? d = none := by
  cases proper with
  | accepted q s d' newer =>
      refine .inl ⟨rfl, ?_, fun ⟨⟨_, isDrain⟩, _⟩ => nomatch isDrain⟩
      have different : d ≠ d' := by
        rintro rfl
        simp [enqueues] at same
      rw [get?_put, if_neg different]
      exact waits
  | refused q s newer unknown =>
      exact .inl ⟨rfl, waits, fun ⟨⟨_, isDrain⟩, _⟩ => nomatch isDrain⟩
  | @drained q q' s t runner handed failure served left =>
      have isEntry := mem_pending.mpr waits
      by_cases member : d ∈ handed.map Handover.option
      · right
        obtain ⟨h, isHanded, rfl⟩ := List.mem_map.mp member
        obtain ⟨told, isTold, isOrder⟩ := served.order_eq isHanded
        have sameValue : told = value := Option.some.inj ((mem_pending.mp isTold).symm.trans waits)
        have distinct := q.nodup_pending.sublist served.options_prefix.sublist
        have isGiven : h = ⟨h.option, order (h.option, value), h.reply⟩ := by
          rw [← sameValue, ← isOrder]
        refine ⟨⟨h.reply, ?_⟩, (left h.option).trans (if_pos member)⟩
        exact (filter_option_of_mem distinct isHanded).trans (congrArg (fun h => [h]) isGiven)
      · left
        refine ⟨filter_option_of_not_mem member, (left d).trans ((if_neg member).trans waits), ?_⟩
        rintro ⟨-, inTime⟩
        obtain ⟨h, isHanded, isFailed, before⟩ := served.exists_failed q.pairwise_turn_pending
          (List.mem_map_of_mem isEntry) member
        exact Nat.not_le.mpr before (inTime h isHanded isFailed)

theorem deliveries_of_idle {q : DeferredQueue} {d : Deferrable} (idle : q.get? d = none) (s : σ)
    (calls : List (QueueCall ε σ)) : deliveries d (session q s calls) = [] := by
  induction calls generalizing q s with
  | nil => rfl
  | cons call rest ih =>
      have proper := performOn_isProper q s call
      have isIdle : (q.performOn s call).queue.get? d = none := by rw [queue_performOn, idle]
      rw [session, deliveries, current]
      by_cases isNext : (q.performOn s call).enqueues d = true
      · rw [List.takeWhile_cons_of_neg (by simp [isNext])]
        rfl
      · have stillIdle : (q.performOn s call).nextQueue.get? d = none := by
          rw [proper.get?_next, isIdle, next?]
          rw [enqueues] at isNext
          split <;> simp_all
        rw [List.takeWhile_cons_of_pos (by simpa using isNext), List.flatMap_cons,
          proper.filter_of_idle isIdle]
        exact ih stillIdle _

theorem isDeliveredOnce_session {q : DeferredQueue} {d : Deferrable} {value : String}
    (waits : q.get? d = some value) (s : σ) (calls : List (QueueCall ε σ)) :
    IsDeliveredOnce d value (session q s calls) := by
  induction calls generalizing q s with
  | nil => exact .inl ⟨rfl, fun ⟨_, member, _⟩ => nomatch member⟩
  | cons call rest ih =>
      have proper := performOn_isProper q s call
      have held : (q.performOn s call).queue.get? d = some value := by rw [queue_performOn, waits]
      rw [session, IsDeliveredOnce, deliveries, current]
      by_cases isNext : (q.performOn s call).enqueues d = true
      · rw [List.takeWhile_cons_of_neg (by simp [isNext])]
        exact .inl ⟨rfl, fun ⟨_, member, _⟩ => nomatch member⟩
      · have other : (q.performOn s call).enqueues d = false := by simpa using isNext
        rw [List.takeWhile_cons_of_pos (by simp [other]), List.flatMap_cons]
        rcases proper.filter_of_waiting held other with ⟨none, stays, missed⟩ | ⟨⟨reply, one⟩, gone⟩
        · rw [none, List.nil_append]
          refine (ih stays _).imp (fun ⟨never, unreached⟩ => ⟨never, ?_⟩) id
          rintro ⟨r, member, reaches⟩
          rcases List.mem_cons.mp member with rfl | later
          · exact missed reaches
          · exact unreached ⟨r, later, reaches⟩
        · have nothing := deliveries_of_idle gone (q.performOn s call).nextState rest
          rw [deliveries, current] at nothing
          rw [one, nothing]
          exact .inr ⟨reply, rfl⟩

end QueueRecord

/-- The launch delivers its options by these orders. It adds nothing but notes for the journal. -/
theorem Launch.deliverTo_eq_obey (d : Deferrable) (value : String) (q : DeferredQueue)
    (r : CommandRunner) :
    ∃ succeeded r' notes, CommandRunner.obey (DeferredQueue.order (d, value)) r = .ok succeeded r' ∧
      deliverTo d value (DeferredQueue.order (d, value)) (q, r) =
        .ok succeeded (q, { r' with notes := r'.notes ++ notes }) := by
  have obeyed := CommandRunner.obey_order (d, value) r
  cases outcome : r.runDeferred (DeferredQueue.command d value) none with
  | mk succeeded r' =>
      rw [outcome] at obeyed
      have delivered := deliverTo_of_obey obeyed d value q
      cases succeeded with
      | true => exact ⟨true, r', [], obeyed, by simpa using delivered⟩
      | false => exact ⟨false, r', [_], obeyed, delivered⟩

namespace DeferredQueue

open QueueRecord

/-- Whatever is called on a fresh queue, and whatever the runners reply, every call comes to what
    it should, and every value that is accepted is handed over at most once: exactly once as soon
    as a drain comes to its turn. The launch itself is such a runner. -/
theorem session_areFaithful {ε σ : Type} (calls : List (QueueCall ε σ)) (s : σ) :
    AreFaithful calls (session empty s calls) ∧
      ∀ d value (q : DeferredQueue) r, ∃ succeeded r' notes,
        CommandRunner.obey (order (d, value)) r = .ok succeeded r' ∧
          Launch.deliverTo d value (order (d, value)) (q, r) =
            .ok succeeded (q, { r' with notes := r'.notes ++ notes }) := by
  refine ⟨⟨call_session empty s calls, fun _ _ _ split d => get?_session split d,
    session_isProper empty s calls, ?_⟩, Launch.deliverTo_eq_obey⟩
  intro earlier r later split d value isEnqueue
  obtain ⟨rest, rfl⟩ := session_split split
  have proper := session_isProper empty s calls r (by rw [split]; simp)
  have waits : r.nextQueue.get? d = some value := by
    rw [proper.get?_next, next?, isEnqueue]
    exact if_pos rfl
  exact isDeliveredOnce_session waits r.nextState rest

/-- A runner that fails on the first option leaves the second to the next drain. -/
example :
    (session empty () [.enqueue "tmate-session-name" "n", .enqueue "tmate-api-key" "k",
      .drain fun _ s => .error () s, .drain fun _ s => .ok false s]).map (fun r =>
        r.handed.map fun h => h.order.words) =
      [[], [], [["set-option", "tmate-api-key", "k"]],
        [["set-option", "tmate-session-name", "n"]]] := by
  decide

end DeferredQueue

end MuxLaunch
