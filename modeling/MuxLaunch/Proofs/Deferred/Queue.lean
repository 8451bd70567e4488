import Mathlib
import MuxLaunch.Deferred
import MuxLaunch.Proofs.Steps

/-! # The queue of deferred options

What waits is listed once for each option, in the order of delivery, and a delivery takes options
out of the queue one by one.
-/

namespace MuxLaunch

namespace Deferrable

theorem mem_all (d : Deferrable) : d ∈ all := by
  cases d <;> decide

theorem nodup_all : all.Nodup := by
  decide

theorem name_injective {d d' : Deferrable} (same : d.name = d'.name) : d = d' := by
  cases d <;> cases d' <;> first | rfl | exact absurd same (by decide)

end Deferrable

namespace DeferredQueue

theorem mem_pending {q : DeferredQueue} {d : Deferrable} {value : String} :
    (d, value) ∈ q.pending ↔ q.get? d = some value := by
  simp only [pending, List.mem_filterMap, Option.map_eq_some_iff, Prod.mk.injEq]
  constructor
  · rintro ⟨d, _, value, waits, rfl, rfl⟩
    exact waits
  · exact fun waits => ⟨d, d.mem_all, value, waits, rfl, rfl⟩

theorem map_fst_pending (q : DeferredQueue) :
    q.pending.map (·.1) = Deferrable.all.filter fun d => (q.get? d).isSome := by
  simp only [pending]
  induction Deferrable.all with
  | nil => rfl
  | cons d rest ih =>
      cases waits : q.get? d with
      | none => simp [waits, ih]
      | some value => simp [waits, ih]

theorem nodup_pending (q : DeferredQueue) : (q.pending.map (·.1)).Nodup := by
  rw [map_fst_pending]
  exact Deferrable.nodup_all.filter _

theorem eq_empty {q : DeferredQueue} (nothing : ∀ d, q.get? d = none) : q = empty := by
  obtain ⟨entries⟩ := q
  cases entries with
  | nil => rfl
  | cons entry rest =>
      obtain ⟨d, value⟩ := entry
      have waits : (⟨(d, value) :: rest⟩ : DeferredQueue).get? d = some value := by
        simp [get?]
      rw [nothing] at waits
      cases waits

theorem ne_of_mem_of_fresh {entries : List (Deferrable × String)} {d : Deferrable}
    (fresh : d ∉ entries.map (·.1)) {entry : Deferrable × String} (member : entry ∈ entries) :
    entry.1 ≠ d := by
  rintro rfl
  exact fresh (List.mem_map_of_mem member)

theorem pending_erase (q : DeferredQueue) (d : Deferrable) :
    (q.erase d).pending = q.pending.filter fun entry => entry.1 ≠ d := by
  simp only [pending, List.filter_filterMap, get?_erase]
  congr 1
  funext d'
  by_cases same : d' = d
  · simp only [same, if_true, Option.map_none, Option.filter]
    cases q.get? d with
    | none => rfl
    | some value => simp
  · simp only [same, if_false]
    cases q.get? d' with
    | none => rfl
    | some value => simp [Option.filter, same]

/-- Once the first entry is released, the others are what waits. -/
theorem pending_erase_head {q : DeferredQueue} {d : Deferrable} {value : String}
    {rest : List (Deferrable × String)} (waits : q.pending = (d, value) :: rest) :
    (q.erase d).pending = rest := by
  have distinct := q.nodup_pending
  rw [waits] at distinct
  obtain ⟨fresh, -⟩ := List.nodup_cons.mp distinct
  rw [pending_erase, waits, List.filter_cons_of_neg (by simp), List.filter_eq_self]
  intro entry member
  simpa using ne_of_mem_of_fresh fresh member

theorem eq_empty_of_pending {q : DeferredQueue} (nothing : q.pending = []) : q = empty := by
  refine eq_empty fun d => Option.eq_none_iff_forall_ne_some.mpr fun value waits => ?_
  have member := mem_pending.mpr waits
  rw [nothing] at member
  cases member

/-- The queue without the options of some entries. -/
def without (q : DeferredQueue) (entries : List (Deferrable × String)) : DeferredQueue :=
  entries.foldl (fun q entry => q.erase entry.1) q

theorem get?_without (q : DeferredQueue) (entries : List (Deferrable × String)) (d : Deferrable) :
    (q.without entries).get? d = if d ∈ entries.map (·.1) then none else q.get? d := by
  induction entries generalizing q with
  | nil => simp [without]
  | cons entry rest ih =>
      have step : q.without (entry :: rest) = (q.erase entry.1).without rest := rfl
      rw [step, ih, get?_erase]
      by_cases isHead : d = entry.1
      · simp [isHead]
      · simp only [isHead, if_false, List.map_cons, List.mem_cons, false_or]

theorem without_pending (q : DeferredQueue) : q.without q.pending = empty := by
  refine eq_empty fun d => ?_
  rw [get?_without, map_fst_pending]
  cases waits : q.get? d with
  | none => simp
  | some value => simp [d.mem_all, waits]

variable {ε σ : Type}

theorem release_eq {q : DeferredQueue} {d : Deferrable} (waits : (q.get? d).isSome) (s : σ) :
    release (ε := ε) d (q, s) = .ok () (q.erase d, s) := by
  simp [release, bind, EStateM.bind, get, getThe, MonadStateOf.get, EStateM.get, set, EStateM.set,
    waits]

theorem release_of_gone {q : DeferredQueue} {d : Deferrable}
    (gone : q.get? d = none) (s : σ) :
    release (ε := ε) d (q, s) = .error (.gone d) (q, s) := by
  simp [release, bind, EStateM.bind, get, getThe, MonadStateOf.get, EStateM.get, throw, throwThe,
    MonadExceptOf.throw, EStateM.throw, gone]

/-- Deliveries that leave the queue alone and never fail take the entries out one by one. What else
    they do is done entry by entry. -/
theorem deliver_eq (run : Delivery ε σ)
    (apply : σ → Deferrable × String → σ) (I : σ → Prop)
    (kept : ∀ s entry, I s → I (apply s entry))
    (quiet : ∀ q s d value, I s →
      ∃ b, run d value (order (d, value)) (q, s) = .ok b (q, apply s (d, value)))
    (entries : List (Deferrable × String)) (distinct : (entries.map (·.1)).Nodup)
    (q : DeferredQueue) (waiting : ∀ entry ∈ entries, (q.get? entry.1).isSome) (s : σ) (inv : I s) :
    deliver run entries (q, s) = .ok entries.length (q.without entries, entries.foldl apply s) := by
  induction entries generalizing q s with
  | nil => rfl
  | cons entry rest ih =>
      obtain ⟨d, value⟩ := entry
      obtain ⟨fresh, distinct⟩ := List.nodup_cons.mp distinct
      obtain ⟨b, ran⟩ := quiet (q.erase d) s d value inv
      have still : ∀ entry ∈ rest, ((q.erase d).get? entry.1).isSome := by
        intro entry member
        rw [get?_erase, if_neg (ne_of_mem_of_fresh fresh member)]
        exact waiting entry (List.mem_cons_of_mem _ member)
      have last := ih distinct (q.erase d) still (apply s (d, value)) (kept s (d, value) inv)
      have waits := waiting (d, value) List.mem_cons_self
      rw [deliver, stateBind_of_ok (release_eq waits s), stateBind_of_ok ran,
        stateBind_of_ok last]
      rfl

theorem deliver_from_empty (run : Delivery ε σ)
    {entries : List (Deferrable × String)} {missing : Deferrable}
    (isFirst : (entries.map (·.1)).head? = some missing) (s : σ) :
    deliver run entries (empty, s) = .error (.gone missing) (empty, s) := by
  cases entries with
  | nil => cases isFirst
  | cons entry rest =>
      cases isFirst
      exact stateBind_of_error (release_of_gone (get?_empty _) s)

end DeferredQueue

end MuxLaunch
