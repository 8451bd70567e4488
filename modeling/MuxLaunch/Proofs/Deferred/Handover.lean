import MuxLaunch.Proofs.Deferred.Queue

/-! # Handing values over

A drain gives every value to a runner as a command whose failure is to be put off. A runner that
has no access to the queue is given what waits in its order, up to the value that it fails on, and
exactly the values that it was given leave the queue.
-/

namespace MuxLaunch

/-- When an option is delivered, counted from the first. -/
def Deferrable.turn (d : Deferrable) : Nat :=
  Deferrable.all.idxOf d

theorem Deferrable.pairwise_turn : Deferrable.all.Pairwise fun d d' => d.turn < d'.turn := by
  decide

/-- A runner with a state of its own. It replies to an order or fails. -/
abbrev OrderRunner (ε σ : Type) := Order → EStateM ε σ Bool

/-- An option that has been handed over, and what the runner made of the order. -/
structure Handover (ε : Type) where
  option : Deferrable
  order : Order
  reply : Except ε Bool

def Handover.IsFailed {ε : Type} (h : Handover ε) : Prop :=
  ∃ e, h.reply = .error e

namespace DeferredQueue

variable {ε σ : Type}

/-- Pass an order on to a runner and write down what comes of it. -/
def serve (runner : OrderRunner ε σ) : Delivery ε (σ × List (Handover ε)) :=
  fun d _ o (q, s, done) =>
    match runner o s with
    | .ok succeeded s => .ok succeeded (q, s, done ++ [⟨d, o, .ok succeeded⟩])
    | .error e s => .error (.runner e) (q, s, done ++ [⟨d, o, .error e⟩])

/-- What comes of entries that a runner is given one after another, until it fails. -/
inductive Served (runner : OrderRunner ε σ) :
    σ → List (Deferrable × String) → List (Handover ε) → Option ε → σ → Prop
  | nil (s : σ) : Served runner s [] [] none s
  | replied {s t u : σ} {d : Deferrable} {value : String} {rest : List (Deferrable × String)}
      {handed : List (Handover ε)} {failure : Option ε} {succeeded : Bool} :
      runner (order (d, value)) s = .ok succeeded t → Served runner t rest handed failure u →
        Served runner s ((d, value) :: rest)
          (⟨d, order (d, value), .ok succeeded⟩ :: handed) failure u
  | failed {s t : σ} {d : Deferrable} {value : String} (rest : List (Deferrable × String)) {e : ε} :
      runner (order (d, value)) s = .error e t →
        Served runner s ((d, value) :: rest) [⟨d, order (d, value), .error e⟩] (some e) t

variable {runner : OrderRunner ε σ} {s t : σ} {entries : List (Deferrable × String)}
  {handed : List (Handover ε)} {failure : Option ε} {d : Deferrable} {value : String}

namespace Served

/-- The options are handed over in the order of the entries. -/
theorem options_prefix (served : Served runner s entries handed failure t) :
    handed.map Handover.option <+: entries.map (·.1) := by
  induction served with
  | nil s => exact List.prefix_rfl
  | replied _ _ ih => exact List.cons_prefix_cons.mpr ⟨rfl, ih⟩
  | failed rest _ => exact List.cons_prefix_cons.mpr ⟨rfl, List.nil_prefix⟩

/-- A runner is told the name and the value of an entry. -/
theorem order_eq (served : Served runner s entries handed failure t) {h : Handover ε}
    (member : h ∈ handed) : ∃ value, (h.option, value) ∈ entries ∧
      h.order = order (h.option, value) := by
  induction served with
  | nil s => cases member
  | @replied _ _ _ d value rest _ _ _ _ _ ih =>
      rcases List.mem_cons.mp member with rfl | later
      · exact ⟨value, List.mem_cons_self, rfl⟩
      · obtain ⟨value, isEntry, same⟩ := ih later
        exact ⟨value, List.mem_cons_of_mem _ isEntry, same⟩
  | @failed _ _ d value rest _ _ =>
      rw [List.mem_singleton] at member
      subst member
      exact ⟨value, List.mem_cons_self, rfl⟩

/-- An entry that the runner is not given comes after the one that it fails on. -/
theorem exists_failed (served : Served runner s entries handed failure t)
    (sorted : (entries.map (·.1)).Pairwise fun d d' => d.turn < d'.turn)
    (member : d ∈ entries.map (·.1)) (missed : d ∉ handed.map Handover.option) :
    ∃ h ∈ handed, h.IsFailed ∧ h.option.turn < d.turn := by
  induction served with
  | nil s => cases member
  | replied _ _ ih =>
      rw [List.map_cons, List.pairwise_cons] at sorted
      rw [List.map_cons, List.mem_cons, not_or] at missed
      rcases List.mem_cons.mp member with same | later
      · exact absurd same missed.1
      · obtain ⟨h, isHanded, isFailed, before⟩ := ih sorted.2 later missed.2
        exact ⟨h, List.mem_cons_of_mem _ isHanded, isFailed, before⟩
  | @failed _ _ first value rest e _ =>
      rw [List.map_cons, List.pairwise_cons] at sorted
      rcases List.mem_cons.mp member with same | later
      · exact absurd (List.mem_singleton.mpr same) missed
      · exact ⟨_, List.mem_cons_self, ⟨e, rfl⟩, sorted.1 d later⟩

end Served

theorem pairwise_turn_pending (q : DeferredQueue) :
    (q.pending.map (·.1)).Pairwise fun d d' => d.turn < d'.turn := by
  rw [map_fst_pending]
  exact Deferrable.pairwise_turn.filter _

/-- The runner's part in a delivery, and the queue's. -/
theorem deliver_serve (runner : OrderRunner ε σ) (entries : List (Deferrable × String))
    (distinct : (entries.map (·.1)).Nodup) (q : DeferredQueue)
    (waiting : ∀ entry ∈ entries, (q.get? entry.1).isSome) (s : σ) (done : List (Handover ε)) :
    ∃ handed failure t q', Served runner s entries handed failure t ∧
      (∀ d, q'.get? d = if d ∈ handed.map Handover.option then none else q.get? d) ∧
      deliver (serve runner) entries (q, s, done) =
        match failure with
        | none => .ok handed.length (q', t, done ++ handed)
        | some e => .error (.runner e) (q', t, done ++ handed) := by
  induction entries generalizing q s done with
  | nil => exact ⟨[], none, s, q, .nil s, by simp, by rw [List.append_nil]; rfl⟩
  | cons entry rest ih =>
      obtain ⟨d, value⟩ := entry
      obtain ⟨fresh, distinct⟩ := List.nodup_cons.mp distinct
      have released := release_eq (ε := ε) (waiting (d, value) List.mem_cons_self) (s, done)
      have still : ∀ entry ∈ rest, ((q.erase d).get? entry.1).isSome := by
        intro entry member
        rw [get?_erase, if_neg (ne_of_mem_of_fresh fresh member)]
        exact waiting entry (List.mem_cons_of_mem _ member)
      rw [deliver, stateBind_of_ok released]
      cases isRun : runner (order (d, value)) s with
      | error e t =>
          have served : serve runner d value (order (d, value)) (q.erase d, s, done) =
              .error (.runner e) (q.erase d, t, done ++ [⟨d, order (d, value), .error e⟩]) := by
            simp only [serve, isRun]
          refine ⟨_, some e, t, q.erase d, .failed rest isRun, fun d' => ?_,
            stateBind_of_error served⟩
          simp only [get?_erase, List.map_cons, List.map_nil, List.mem_singleton]
      | ok succeeded t =>
          have served : serve runner d value (order (d, value)) (q.erase d, s, done) =
              .ok succeeded (q.erase d, t, done ++ [⟨d, order (d, value), .ok succeeded⟩]) := by
            simp only [serve, isRun]
          obtain ⟨handed, failure, u, q', others, left, delivered⟩ :=
            ih distinct (q.erase d) still t (done ++ [⟨d, order (d, value), .ok succeeded⟩])
          refine ⟨_, failure, u, q', .replied isRun others, fun d' => ?_, ?_⟩
          · rw [left, get?_erase, List.map_cons]
            by_cases same : d' = d
            · simp [same]
            · simp only [same, if_false, List.mem_cons, false_or]
          · rw [stateBind_of_ok served]
            rw [List.append_assoc] at delivered
            cases failure with
            | none => exact stateBind_of_ok delivered
            | some e => exact stateBind_of_error delivered

/-- A drain hands over what waits at its start, in the order of delivery, until the runner fails. -/
theorem drain_serve (runner : OrderRunner ε σ) (q : DeferredQueue) (s : σ) :
    ∃ handed failure t q', Served runner s q.pending handed failure t ∧
      (∀ d, q'.get? d = if d ∈ handed.map Handover.option then none else q.get? d) ∧
      drain (serve runner) (q, s, []) =
        match failure with
        | none => .ok handed.length (q', t, handed)
        | some e => .error (.runner e) (q', t, handed) :=
  deliver_serve runner q.pending q.nodup_pending q
    (fun entry member => by rw [mem_pending.mp member]; rfl) s []

end DeferredQueue

end MuxLaunch
