import MuxLaunch.Deferred.Script
import MuxLaunch.Proofs.Deferred.History

/-! # Draining a queue from inside a drain

A runner may drain the very queue that it is being handed values from. The inner drain then takes
what the outer one has still to hand over. Nothing is handed over twice and nothing is left behind,
but the outer drain fails as soon as it comes to an option that is gone.
-/

namespace MuxLaunch

inductive DrainEvent where
  | handed (d : Deferrable) (value : String)
  /-- The runner drains the queue again, with some entries still in it. -/
  | again (waiting : List (Deferrable × String))
  /-- A drain that the runner has begun is over and has returned its count. -/
  | counted (count : Nat)
  deriving Repr, DecidableEq

/-- What a runner does with a value. It drains the queue again as often as it likes and replies in
    the end, and at every turn it goes by all that has happened. -/
inductive Response where
  | reply (succeeded : Bool)
  | again (next : List DrainEvent → Response)

abbrev ReentrantRunner := List DrainEvent → Deferrable → String → Response

namespace DrainEvent

def handedIn (es : List DrainEvent) : List (Deferrable × String) :=
  es.filterMap fun
    | .handed d value => some (d, value)
    | _ => none

def countsIn (es : List DrainEvent) : List Nat :=
  es.filterMap fun
    | .counted count => some count
    | _ => none

/-- Whenever the runner drains the queue again, nothing is left in it. -/
def IsLate (es : List DrainEvent) : Prop :=
  ∀ waiting, .again waiting ∈ es → waiting = []

theorem handedIn_append (es more : List DrainEvent) :
    handedIn (es ++ more) = handedIn es ++ handedIn more :=
  List.filterMap_append

theorem countsIn_append (es more : List DrainEvent) :
    countsIn (es ++ more) = countsIn es ++ countsIn more :=
  List.filterMap_append

theorem countsIn_counted (count : Nat) (es : List DrainEvent) :
    countsIn (.counted count :: es) = count :: countsIn es :=
  rfl

theorem isLate_nil : IsLate [] :=
  fun _ member => nomatch member

theorem isLate_append {es more : List DrainEvent} :
    IsLate (es ++ more) ↔ IsLate es ∧ IsLate more := by
  simp only [IsLate, List.mem_append, or_imp, forall_and]

end DrainEvent

namespace ReentrantRunner

open DeferredQueue DrainEvent

/-- Carry out what a runner does with a value, given the drain that it begins. -/
def carryOut (inner : Drain Unit (List DrainEvent) Nat) :
    Response → Drain Unit (List DrainEvent) Bool
  | .reply succeeded => return succeeded
  | .again next => do
      let (q, es) ← get
      set (q, es ++ [.again q.pending])
      let count ← inner
      let (q, es) ← get
      set (q, es ++ [.counted count])
      carryOut inner (next (es ++ [.counted count]))

/-- Attend to values with inner drains up to a depth. Each inner drain finds fewer entries in the
    queue than the one around it, so their number is a bound that is never reached. -/
def attend (runner : ReentrantRunner) : Nat → Delivery Unit (List DrainEvent)
  | 0, _, _, _ => throw (.runner ())
  | depth + 1, d, value, _ => do
      let (q, es) ← get
      set (q, es ++ [.handed d value])
      carryOut (DeferredQueue.drain (attend runner depth)) (runner es d value)

/-- Drain a queue with a runner that may drain it again. -/
def drain (runner : ReentrantRunner) (q : DeferredQueue) :
    EStateM.Result (DrainFault Unit) (DeferredQueue × List DrainEvent) Nat :=
  DeferredQueue.drain (attend runner q.size) (q, [])

/-- How a drain of a queue ends. All that waits is handed over in its order and nothing is left.
    The drain returns the number if the runner has been late whenever it drained the queue again,
    and otherwise fails at an option that is gone. -/
inductive Ends (q : DeferredQueue) (es : List DrainEvent) :
    EStateM.Result (DrainFault Unit) (DeferredQueue × List DrainEvent) Nat → Prop
  | counted {es' later : List DrainEvent} : es' = es ++ later → handedIn later = q.pending →
      IsLate later → (countsIn later).sum = 0 → Ends q es (.ok q.size (empty, es'))
  | gone {es' later : List DrainEvent} {d : Deferrable} : es' = es ++ later →
      handedIn later = q.pending → ¬IsLate later → d ∈ q.pending.map (·.1) →
        Ends q es (.error (.gone d) (empty, es'))

/-- How a runner leaves a queue: untouched, or emptied by draining it again, which may fail. -/
inductive Leaves (q : DeferredQueue) (es : List DrainEvent) :
    EStateM.Result (DrainFault Unit) (DeferredQueue × List DrainEvent) Bool → Prop
  | untouched {es' later : List DrainEvent} {succeeded : Bool} : es' = es ++ later →
      handedIn later = [] → IsLate later → (countsIn later).sum = 0 →
        Leaves q es (.ok succeeded (q, es'))
  | emptied {es' later : List DrainEvent} {succeeded : Bool} : es' = es ++ later →
      q.pending ≠ [] → handedIn later = q.pending → ¬IsLate later →
        Leaves q es (.ok succeeded (empty, es'))
  | failed {es' later : List DrainEvent} {d : Deferrable} : es' = es ++ later →
      handedIn later = q.pending → ¬IsLate later → d ∈ q.pending.map (·.1) →
        Leaves q es (.error (.gone d) (empty, es'))

theorem carryOut_again (inner : Drain Unit (List DrainEvent) Nat)
    (next : List DrainEvent → Response) (q : DeferredQueue) (es : List DrainEvent) :
    carryOut inner (.again next) (q, es) =
      match inner (q, es ++ [.again q.pending]) with
      | .ok count (q, es) =>
          carryOut inner (next (es ++ [.counted count])) (q, es ++ [.counted count])
      | .error fault state => .error fault state := by
  simp only [carryOut, bind, EStateM.bind, get, getThe, MonadStateOf.get, EStateM.get, set,
    EStateM.set]
  cases inner (q, es ++ [.again q.pending]) with
  | ok count state => rfl
  | error fault state => rfl

theorem attend_eq (runner : ReentrantRunner) (depth : Nat) (d : Deferrable) (value : String)
    (o : Order) (q : DeferredQueue) (es : List DrainEvent) :
    attend runner (depth + 1) d value o (q, es) =
      carryOut (DeferredQueue.drain (attend runner depth)) (runner es d value)
        (q, es ++ [.handed d value]) :=
  rfl

theorem isLate_handed {d : Deferrable} {value : String} {later : List DrainEvent} :
    IsLate (.handed d value :: later) ↔ IsLate later := by
  simp [IsLate]

theorem isLate_again {waiting : List (Deferrable × String)} {later : List DrainEvent} :
    IsLate (.again waiting :: later) ↔ waiting = [] ∧ IsLate later := by
  simp [IsLate]

theorem Leaves.of_empty {es : List DrainEvent}
    {result : EStateM.Result (DrainFault Unit) (DeferredQueue × List DrainEvent) Bool}
    (leaves : Leaves empty es result) :
    ∃ succeeded later, result = .ok succeeded (empty, es ++ later) ∧ handedIn later = [] ∧
      IsLate later ∧ (countsIn later).sum = 0 := by
  cases leaves with
  | @untouched es' later succeeded grown handed late counts =>
      exact ⟨succeeded, later, by rw [grown], handed, late, counts⟩
  | emptied _ waits => exact absurd rfl waits
  | failed _ _ _ listed => cases listed

/-- A runner that goes on after an inner drain finds an empty queue. -/
theorem Leaves.of_again {q : DeferredQueue} {es later : List DrainEvent}
    {result : EStateM.Result (DrainFault Unit) (DeferredQueue × List DrainEvent) Bool}
    (handed : handedIn later = q.pending) (late : IsLate later) (counts : (countsIn later).sum = 0)
    (leaves : Leaves empty (es ++ [.again q.pending] ++ later ++ [.counted q.size]) result) :
    Leaves q es result := by
  obtain ⟨succeeded, more, rfl, handed', late', counts'⟩ := leaves.of_empty
  have grown : es ++ [.again q.pending] ++ later ++ [.counted q.size] ++ more =
      es ++ .again q.pending :: (later ++ .counted q.size :: more) := by
    simp
  have all : handedIn (.again q.pending :: (later ++ .counted q.size :: more)) = q.pending := by
    rw [← handed, ← List.append_nil (handedIn later), ← handed']
    exact handedIn_append later _
  by_cases waits : q.pending = []
  · have nothing := eq_empty_of_pending waits
    subst nothing
    refine .untouched grown all (isLate_again.mpr ⟨rfl, isLate_append.mpr ⟨late, ?_⟩⟩) ?_
    · exact fun waiting member => late' waiting (by simpa using member)
    · have sum := congrArg List.sum (countsIn_append later (.counted empty.size :: more))
      rw [List.sum_append, counts, countsIn_counted, List.sum_cons, counts'] at sum
      exact sum
  · exact .emptied grown waits all fun isLate => waits (isLate_again.mp isLate).1

/-- Whatever a runner does with a value, if the inner drains end as they should. -/
theorem carryOut_leaves {inner : Drain Unit (List DrainEvent) Nat} {depth : Nat}
    (ends : ∀ q es, q.size ≤ depth → Ends q es (inner (q, es))) (response : Response)
    {q : DeferredQueue} (small : q.size ≤ depth) (es : List DrainEvent) :
    Leaves q es (carryOut inner response (q, es)) := by
  induction response generalizing q es with
  | reply succeeded =>
      exact .untouched (List.append_nil es).symm rfl isLate_nil rfl
  | again next ih =>
      have first := ends q (es ++ [.again q.pending]) small
      rw [carryOut_again]
      cases result : inner (q, es ++ [.again q.pending]) with
      | error fault state =>
          rw [result] at first
          cases first with
          | @gone es' later d grown handed early listed =>
              have whole : es' = es ++ .again q.pending :: later := by simp [grown]
              exact .failed whole handed (fun late => early (isLate_again.mp late).2) listed
      | ok count state =>
          rw [result] at first
          cases first with
          | counted grown handed late counts =>
              subst grown
              exact .of_again handed late counts (ih _ (Nat.zero_le _) _)

section

variable {q : DeferredQueue} {d : Deferrable} {value : String}
  {rest : List (Deferrable × String)} {es es' later : List DrainEvent}

theorem Ends.counted_after_handed (waits : q.pending = (d, value) :: rest)
    (grown : es' = es ++ [.handed d value] ++ later) (handed : handedIn later = rest)
    (late : IsLate later) (counts : (countsIn later).sum = 0) :
    Ends q es (.ok (rest.length + 1) (empty, es')) := by
  have size : rest.length + 1 = q.size := (congrArg List.length waits).symm
  have whole : es' = es ++ .handed d value :: later := by simp [grown]
  rw [size]
  refine .counted whole ?_ (isLate_handed.mpr late) counts
  rw [waits, ← handed]
  rfl

theorem Ends.gone_after_handed (waits : q.pending = (d, value) :: rest)
    (grown : es' = es ++ [.handed d value] ++ later) (handed : handedIn later = rest)
    (early : ¬IsLate later) {missing : Deferrable} (listed : missing ∈ rest.map (·.1)) :
    Ends q es (.error (.gone missing) (empty, es')) := by
  have whole : es' = es ++ .handed d value :: later := by simp [grown]
  refine .gone whole ?_ (fun late => early (isLate_handed.mp late)) ?_
  · rw [waits, ← handed]
    rfl
  · rw [waits]
    exact List.mem_cons_of_mem _ listed

/-- A delivery whose runner leaves the queue untouched goes on, and one whose runner empties it
    stops at the next option. -/
theorem Ends.of_leaves (waits : q.pending = (d, value) :: rest)
    {run : Drain Unit (List DrainEvent) Bool} {others : Drain Unit (List DrainEvent) Nat}
    {state : DeferredQueue × List DrainEvent}
    (leaves : Leaves (q.erase d) (es ++ [.handed d value]) (run state))
    (goesOn : ∀ es, Ends (q.erase d) es (others (q.erase d, es)))
    (stops : ∀ missing, (rest.map (·.1)).head? = some missing → ∀ es,
      others (empty, es) = .error (.gone missing) (empty, es)) :
    Ends q es
      ((do let _ ← run; return (← others) + 1 : Drain Unit (List DrainEvent) Nat) state) := by
  have rests := pending_erase_head waits
  cases ran : run state with
  | error fault after =>
      rw [stateBind_of_error ran]
      rw [ran] at leaves
      cases leaves with
      | failed grown handed early listed =>
          rw [rests] at handed listed
          exact .gone_after_handed waits grown handed early listed
  | ok succeeded after =>
      rw [stateBind_of_ok ran]
      rw [ran] at leaves
      cases leaves with
      | @emptied es' later _ grown some handed early =>
          rw [rests] at some handed
          obtain ⟨⟨missing, lost⟩, more, rfl⟩ := List.exists_cons_of_ne_nil some
          rw [stateBind_of_error (stops missing rfl es')]
          exact .gone_after_handed waits grown handed early List.mem_cons_self
      | @untouched es' later _ grown handed late counts =>
          have last := goesOn es'
          cases result : others (q.erase d, es') with
          | error fault after =>
              rw [stateBind_of_error result]
              rw [result] at last
              cases last with
              | @gone es'' later' missing grown' handed' early listed =>
                  have whole : es'' = es ++ [.handed d value] ++ (later ++ later') := by
                    rw [grown', grown, List.append_assoc]
                  rw [rests] at handed' listed
                  refine .gone_after_handed waits whole ?_
                    (fun isLate => early (isLate_append.mp isLate).2) listed
                  rw [handedIn_append, handed, handed', List.nil_append]
          | ok count after =>
              rw [stateBind_of_ok result]
              rw [result] at last
              cases last with
              | @counted es'' later' grown' handed' late' counts' =>
                  have whole : es'' = es ++ [.handed d value] ++ (later ++ later') := by
                    rw [grown', grown, List.append_assoc]
                  rw [size, rests]
                  refine .counted_after_handed waits whole ?_ (isLate_append.mpr ⟨late, late'⟩) ?_
                  · rw [handedIn_append, handed, handed', rests, List.nil_append]
                  · rw [countsIn_append, List.sum_append, counts, counts']

end

/-- A delivery of all that waits, at any depth that suffices for it. -/
theorem deliver_ends (runner : ReentrantRunner) (depth : Nat)
    (entries : List (Deferrable × String)) {q : DeferredQueue} (waits : q.pending = entries)
    (small : q.size ≤ depth) (es : List DrainEvent) :
    Ends q es (deliver (attend runner depth) entries (q, es)) := by
  induction depth generalizing entries q es with
  | zero =>
      have nothing : q.pending = [] := List.length_eq_zero_iff.mp (Nat.le_zero.mp small)
      obtain rfl := waits.symm.trans nothing
      obtain rfl := eq_empty_of_pending nothing
      exact .counted (List.append_nil es).symm rfl isLate_nil rfl
  | succ depth inner =>
      have ends : ∀ q es, q.size ≤ depth →
          Ends q es (DeferredQueue.drain (attend runner depth) (q, es)) :=
        fun q es small => inner q.pending rfl small es
      induction entries generalizing q es with
      | nil =>
          obtain rfl := eq_empty_of_pending waits
          exact .counted (List.append_nil es).symm rfl isLate_nil rfl
      | cons entry rest ih =>
          obtain ⟨d, value⟩ := entry
          have rests := pending_erase_head waits
          have isHeld : (q.get? d).isSome := by
            rw [mem_pending.mp (waits ▸ List.mem_cons_self)]
            rfl
          have smaller : (q.erase d).size ≤ depth := by
            rw [size, rests]
            rw [size, waits] at small
            exact Nat.le_of_succ_le_succ small
          have leaves := carryOut_leaves ends (runner es d value) smaller (es ++ [.handed d value])
          rw [← attend_eq] at leaves
          rw [deliver, stateBind_of_ok (release_eq isHeld es)]
          exact .of_leaves waits leaves (ih rests (Nat.le_succ_of_le smaller))
            fun missing isNext es => deliver_from_empty _ isNext es

/-- Whatever is in the queue and however often the runner drains it again, every value that waits
    is handed over once and in its order, and nothing is left. The drain fails only at an option
    that is gone. It comes to its end exactly when the runner drains the queue again only with
    nothing left in it, and then all counts together are the number of calls. -/
theorem drain_hands_over_once (runner : ReentrantRunner) (q : DeferredQueue) :
    (finalState (runner.drain q)).1 = empty ∧
    handedIn (finalState (runner.drain q)).2 = q.pending ∧
    ((∃ count s, runner.drain q = .ok count s) ↔ IsLate (finalState (runner.drain q)).2) ∧
    (∀ count s, runner.drain q = .ok count s →
      count + (countsIn s.2).sum = (handedIn s.2).length) ∧
    (∀ fault s, runner.drain q = .error fault s →
      ∃ d ∈ q.pending.map (·.1), fault = .gone d) := by
  have ends : Ends q [] (runner.drain q) := deliver_ends runner q.size _ rfl (Nat.le_refl _) []
  cases result : runner.drain q with
  | ok count s =>
      rw [result] at ends
      cases ends with
      | counted grown handed late counts =>
          subst grown
          refine ⟨rfl, handed, ⟨fun _ => late, fun _ => ⟨_, _, rfl⟩⟩, ?_, nofun⟩
          rintro _ _ ⟨⟩
          simp only [handed, counts]
          rfl
  | error fault s =>
      rw [result] at ends
      cases ends with
      | gone grown handed early listed =>
          subst grown
          refine ⟨rfl, handed, ⟨nofun, fun late => absurd late early⟩, nofun, ?_⟩
          rintro _ _ ⟨⟩
          exact ⟨_, listed, rfl⟩

/-- A runner that drains the queue again at the first value. -/
def hasty : ReentrantRunner := fun es _ _ =>
  if es = [] then .again fun _ => .reply true else .reply true

/-- The inner drain hands the name over, and the outer one then fails for want of it. A runner that
    follows a script fares no better. -/
theorem drain_hasty_gone :
    hasty.drain ⟨[(.sessionName, "name"), (.apiKey, "key")]⟩ =
      .error (.gone .sessionName)
        (empty,
          [.handed .apiKey "key", .again [(.sessionName, "name")], .handed .sessionName "name",
            .counted 1]) ∧
    Script.drain [.drain] ⟨[(.sessionName, "name"), (.apiKey, "key")]⟩ =
      .error (.gone .sessionName)
        (empty,
          ⟨[], [⟨["set-option", "tmate-api-key", "key"], true⟩,
            ⟨["set-option", "tmate-session-name", "name"], true⟩]⟩) :=
  ⟨rfl, by cbv⟩

end ReentrantRunner

end MuxLaunch
