import MuxLaunch.Launch.HandOff
import MuxLaunch.Proofs.Config.Loading
import MuxLaunch.Proofs.Deferred.Queue

/-! # Delivering the deferred options

On trees that hold the options of the schema the command for a deferred option always succeeds,
whatever the value is. So the queue is emptied, every value arrives, and no cause is added.
-/

namespace MuxLaunch

/-- The schema row of an option that can wait: a text, empty by default. -/
def Deferrable.row (d : Deferrable) : OptionEntry :=
  ⟨d.name, .session, .text, .text ""⟩

theorem Deferrable.row_mem (d : Deferrable) : d.row ∈ OptionEntry.ofScope .session := by
  cases d <;> decide

namespace OptionTrees

def withDeferred (ts : OptionTrees) (entry : Deferrable × String) : OptionTrees :=
  ts.setTree .session (ts.session.put entry.1.name (.text entry.2))

theorem IsFilled.withDeferred {ts : OptionTrees} (filled : ts.IsFilled)
    (entry : Deferrable × String) : (ts.withDeferred entry).IsFilled :=
  filled.put .session entry.1.name (.text entry.2)

theorem IsFilled.held_deferrable {ts : OptionTrees} (filled : ts.IsFilled) (d : Deferrable) :
    (ts.session.value? d.name).isSome :=
  filled.value?_isSome d.row_mem

theorem IsFilled.entry_deferrable {ts : OptionTrees} (filled : ts.IsFilled) (d : Deferrable) :
    ts.session.entry? d.name = some d.row := by
  have scope : ts.session.scope = .session := (filled .session).1
  unfold OptionTree.entry?
  rw [scope]
  cases d <;> rfl

theorem value?_withDeferred_of_ne {ts : OptionTrees} {entry : Deferrable × String} {scope : Scope}
    {name : String} (other : scope = .session → name ≠ entry.1.name) :
    ((ts.withDeferred entry).tree scope).value? name = (ts.tree scope).value? name := by
  rw [withDeferred, tree_setTree]
  split
  · rename_i isSession
    subst isSession
    exact OptionTree.value?_put_of_ne (other rfl)
  · rfl

end OptionTrees

namespace SetOption

/-- A word without a dash ends the flags for good. -/
theorem splitFlags_of_plain {word : String} {rest : List String}
    (plain : startsWithDash word = false) : splitFlags (word :: rest) = ([], word :: rest) := by
  rw [splitFlags, if_pos (by simp [plain])]

theorem startsWithDash_deferrable (d : Deferrable) : startsWithDash d.name = false := by
  cases d <;> rfl

theorem select_deferrable {ts : OptionTrees} (filled : ts.IsFilled) (d : Deferrable) :
    select ts {} d.name = .ok .session := by
  have scope : scopeOf {} d.name = .ok .session := by cases d <;> rfl
  have contains : ts.session.contains d.name = true := by
    rw [OptionTree.contains, filled.entry_deferrable d]
    rfl
  simp [select, scope, bind, Except.bind, OptionTrees.tree, contains, pure, Except.pure]

theorem parse_deferrable {ts : OptionTrees} (filled : ts.IsFilled) (d : Deferrable)
    (value : String) :
    ts.session.parse d.name (some value) = .ok (ts.session.put d.name (.text value)) := by
  have entry := OptionTree.entry_eq_ok.mpr (filled.entry_deferrable d)
  simp [OptionTree.parse, OptionTree.setText, entry, bind, Except.bind, Deferrable.row, pure,
    Except.pure]

/-- The value is taken character for character, even if it looks like a flag. -/
theorem run_deferrable {ts : OptionTrees} (filled : ts.IsFilled) (d : Deferrable)
    (value : String) :
    ∃ notes, run ts [d.name, value] = .ok (ts.withDeferred (d, value), notes) := by
  refine ⟨setNote (ts.session.put d.name (.text value)) d.name, ?_⟩
  rw [run, splitFlags_of_plain (startsWithDash_deferrable d)]
  simp only [SetOptionFlags.readWords, ne_eq, not_true_eq_false, if_false]
  rw [assign, select_deferrable filled d]
  simp only [OptionTrees.tree, parse_deferrable filled d value]
  rfl

end SetOption

namespace CommandRunner

theorem obey_order (entry : Deferrable × String) (r : CommandRunner) :
    obey (DeferredQueue.order entry) r =
      .ok (r.runDeferred (DeferredQueue.command entry.1 entry.2) none).1
        (r.runDeferred (DeferredQueue.command entry.1 entry.2) none).2 :=
  rfl

def afterDeferred (r : CommandRunner) (entry : Deferrable × String) : CommandRunner :=
  (r.runDeferred (DeferredQueue.command entry.1 entry.2) none).2

/-- The command for a deferred option succeeds and touches nothing but the option and the notes. -/
theorem runDeferred_command {r : CommandRunner} (filled : r.trees.IsFilled)
    (entry : Deferrable × String) :
    (r.runDeferred (DeferredQueue.command entry.1 entry.2) none).1 = true ∧
      (r.afterDeferred entry).trees = r.trees.withDeferred entry ∧
      (r.afterDeferred entry).causes = r.causes := by
  obtain ⟨notes, isRun⟩ := SetOption.run_deferrable filled entry.1 entry.2
  have executed : execute r.trees (DeferredQueue.command entry.1 entry.2) =
      .ok (r.trees.withDeferred entry, notes) := isRun
  simp only [afterDeferred, runDeferred_of_ok executed, and_self]

theorem afterDeferred_filled {r : CommandRunner} (filled : r.trees.IsFilled)
    (entry : Deferrable × String) : (r.afterDeferred entry).trees.IsFilled :=
  (r.runDeferred_leads _ _).isFilled filled

theorem foldl_afterDeferred (entries : List (Deferrable × String)) {r : CommandRunner}
    (filled : r.trees.IsFilled) :
    (entries.foldl afterDeferred r).trees = entries.foldl OptionTrees.withDeferred r.trees ∧
      (entries.foldl afterDeferred r).causes = r.causes := by
  induction entries generalizing r with
  | nil => exact ⟨rfl, rfl⟩
  | cons entry rest ih =>
      obtain ⟨_, trees, causes⟩ := runDeferred_command filled entry
      obtain ⟨restTrees, restCauses⟩ := ih (afterDeferred_filled filled entry)
      exact ⟨by rw [List.foldl_cons, restTrees, trees, List.foldl_cons],
        by rw [List.foldl_cons, restCauses, causes]⟩

end CommandRunner

namespace OptionTrees

theorem value?_foldl_of_ne (entries : List (Deferrable × String)) (ts : OptionTrees)
    (scope : Scope) {name : String}
    (other : scope = .session → ∀ entry ∈ entries, name ≠ entry.1.name) :
    ((entries.foldl withDeferred ts).tree scope).value? name = (ts.tree scope).value? name := by
  induction entries generalizing ts with
  | nil => rfl
  | cons entry rest ih =>
      rw [List.foldl_cons,
        ih _ fun isSession found member => other isSession found (List.mem_cons_of_mem _ member)]
      exact value?_withDeferred_of_ne fun isSession => other isSession entry List.mem_cons_self

theorem value?_foldl_of_mem (entries : List (Deferrable × String))
    (distinct : (entries.map (·.1)).Nodup) {ts : OptionTrees} (filled : ts.IsFilled)
    {d : Deferrable} {value : String} (member : (d, value) ∈ entries) :
    (entries.foldl withDeferred ts).session.value? d.name = some (.text value) := by
  induction entries generalizing ts with
  | nil => cases member
  | cons entry rest ih =>
      obtain ⟨fresh, distinct⟩ := List.nodup_cons.mp distinct
      rcases List.mem_cons.mp member with rfl | member
      · have later : ∀ found ∈ rest, d.name ≠ found.1.name := by
          intro found isLater same
          apply fresh
          rw [Deferrable.name_injective same]
          exact List.mem_map.mpr ⟨found, isLater, rfl⟩
        have kept := value?_foldl_of_ne rest (ts.withDeferred (d, value)) .session fun _ => later
        exact kept.trans (OptionTree.value?_put_self (filled.held_deferrable d))
      · exact ih distinct (filled.withDeferred entry) member

theorem environ_foldl (entries : List (Deferrable × String)) (ts : OptionTrees) :
    (entries.foldl withDeferred ts).environ = ts.environ := by
  induction entries generalizing ts with
  | nil => rfl
  | cons entry rest ih => exact (ih _).trans (environ_setTree ..)

end OptionTrees

namespace Launch

theorem deliverTo_of_obey {o : Order} {r r' : CommandRunner} {succeeded : Bool}
    (obeyed : CommandRunner.obey o r = .ok succeeded r') (d : Deferrable) (value : String)
    (q : DeferredQueue) :
    deliverTo d value o (q, r) = .ok succeeded (q, if succeeded then r' else
      r'.note ⟨.deferredOptionFailed, "Deferred option " ++ d.name ++ " was not applied"⟩) := by
  simp [deliverTo, obeyed, bind, EStateM.bind, get, getThe, MonadStateOf.get, EStateM.get, set,
    EStateM.set, pure, EStateM.pure]

theorem deliverTo_eq {r : CommandRunner} (filled : r.trees.IsFilled) (d : Deferrable)
    (value : String) (q : DeferredQueue) :
    deliverTo d value (DeferredQueue.order (d, value)) (q, r) =
      .ok true (q, r.afterDeferred (d, value)) := by
  have obeyed := CommandRunner.obey_order (d, value) r
  rw [(CommandRunner.runDeferred_command filled (d, value)).1] at obeyed
  exact deliverTo_of_obey obeyed d value q

/-- Delivering all deferred options empties the queue and never fails. -/
theorem deliverDeferred_eq (q : DeferredQueue) {r : CommandRunner} (filled : r.trees.IsFilled)
    (m : Machine) :
    ∃ notes, deliverDeferred q r m =
      .ok (q.pending.length, .empty,
        { trees := q.pending.foldl OptionTrees.withDeferred r.trees, causes := r.causes })
        (m.noteAll notes) := by
  have drained : DeferredQueue.drain deliverTo (q, r) =
      .ok q.pending.length (.empty, q.pending.foldl CommandRunner.afterDeferred r) := by
    have delivered := DeferredQueue.deliver_eq deliverTo CommandRunner.afterDeferred
      (fun r => r.trees.IsFilled)
      (fun _ entry filled => CommandRunner.afterDeferred_filled filled entry)
      (fun q _ d value filled => ⟨true, deliverTo_eq filled d value q⟩)
      q.pending q.nodup_pending q
      (fun entry member => by rw [DeferredQueue.mem_pending.mp member]; rfl) r filled
    rw [q.without_pending] at delivered
    exact delivered
  obtain ⟨trees, causes⟩ := CommandRunner.foldl_afterDeferred q.pending filled
  refine ⟨(q.pending.foldl CommandRunner.afterDeferred r).notes, ?_⟩
  rw [deliverDeferred, drained, ← trees, ← causes]
  rfl

end Launch

end MuxLaunch
