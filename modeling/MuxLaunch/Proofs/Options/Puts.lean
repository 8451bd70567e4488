import MuxLaunch.Options.Trees
import MuxLaunch.Proofs.Steps

/-! # What setting an option does to the trees

However an option is set, what happens is that one value, which the schema admits, is put in the
place of another. Whatever such puts keep is kept by everything that sets options.
-/

namespace MuxLaunch

/-- The default of every row is a value that the row takes. -/
theorem OptionEntry.admits_default {e : OptionEntry} (listed : e ∈ schema) :
    e.kind.admits e.default := by
  have all : ∀ e ∈ schema, e.kind.admits e.default := by decide
  exact all e listed

namespace OptionTree

theorem entry_eq_ok {t : OptionTree} {name : String} {e : OptionEntry} :
    t.entry name = .ok e ↔ t.entry? name = some e := by
  unfold entry
  cases t.entry? name with
  | none => simp
  | some found => simp

theorem entry_ne_missing {t : OptionTree} {name other : String} :
    t.entry name ≠ .error (.missing other) := by
  unfold entry
  cases t.entry? name <;> nofun

/-- The tree comes from another by putting a value that the schema admits for an option. -/
def IsPut (t t' : OptionTree) (name : String) : Prop :=
  ∃ e v, t.entry? name = some e ∧ e.kind.admits v ∧ t' = t.put name v

variable {t t' : OptionTree} {name : String}

theorem setText_isPut {value : String} (h : t.setText name value = .ok t') : t.IsPut t' name := by
  obtain ⟨e, found, h⟩ := exceptBind_eq_ok.mp h
  refine ⟨e, .text value, entry_eq_ok.mp found, ?_⟩
  split at h
  · rename_i isText
    exact ⟨by rw [isText]; rfl, (Except.ok.inj h).symm⟩
  · rename_i choices isChoice
    split at h
    · rename_i isListed
      exact ⟨by rw [isChoice]; exact isListed, (Except.ok.inj h).symm⟩
    · cases h
  · cases h

theorem setNumber_isPut {n : Int} (h : t.setNumber name n = .ok t') : t.IsPut t' name := by
  obtain ⟨e, found, h⟩ := exceptBind_eq_ok.mp h
  refine ⟨e, .number n, entry_eq_ok.mp found, ?_⟩
  split at h
  · rename_i minimum maximum isNumber
    split at h
    · cases h
    · split at h
      · cases h
      · refine ⟨?_, (Except.ok.inj h).symm⟩
        simp only [isNumber, OptionKind.admits, Bool.and_eq_true, decide_eq_true_eq]
        omega
  · cases h

theorem setFlag_eq_put {text : Option String} (h : t.setFlag name text = .ok t') :
    ∃ b, t' = t.put name (.flag b) := by
  unfold setFlag at h
  split at h
  · obtain ⟨held, isHeld, h⟩ := exceptBind_eq_ok.mp h
    exact ⟨_, (Except.ok.inj h).symm⟩
  · split at h
    · exact ⟨_, (Except.ok.inj h).symm⟩
    · cases h

/-- Every text that is accepted puts a value that the option takes. -/
theorem parse_isPut {text : Option String} (h : t.parse name text = .ok t') :
    t.IsPut t' name := by
  obtain ⟨e, found, step⟩ := exceptBind_eq_ok.mp h
  split at step
  · rename_i isFlag
    obtain ⟨b, isPut⟩ := setFlag_eq_put step
    exact ⟨e, .flag b, entry_eq_ok.mp found, by rw [isFlag]; rfl, isPut⟩
  · cases step
  · split at step
    · exact setNumber_isPut step
    · cases step
  · exact setText_isPut step

theorem reset_isPut (h : t.reset name = .ok t') : t.IsPut t' name := by
  obtain ⟨e, found, h⟩ := exceptBind_eq_ok.mp h
  have isEntry := entry_eq_ok.mp found
  have listed : e ∈ OptionEntry.schema :=
    (List.mem_filter.mp (List.mem_of_find?_eq_some isEntry)).1
  exact ⟨e, e.default, isEntry, OptionEntry.admits_default listed, (Except.ok.inj h).symm⟩

theorem value?_put_self {v : OptionValue} (held : (t.value? name).isSome) :
    (t.put name v).value? name = some v := by
  obtain ⟨old, isOld⟩ := Option.isSome_iff_exists.mp held
  rw [value?_put, if_pos rfl, isOld]
  rfl

theorem value?_put_of_ne {m : String} {v : OptionValue} (other : m ≠ name) :
    (t.put name v).value? m = t.value? m := by
  rw [value?_put, if_neg other]

end OptionTree

namespace OptionTrees

/-- The trees come from others by any number of puts. -/
inductive Leads (ts : OptionTrees) : OptionTrees → Prop
  | refl : Leads ts ts
  | put {us : OptionTrees} (scope : Scope) {name : String} {t : OptionTree} :
      Leads ts us → (us.tree scope).IsPut t name → Leads ts (us.setTree scope t)

theorem Leads.trans {ts us vs : OptionTrees} (first : ts.Leads us) (second : us.Leads vs) :
    ts.Leads vs := by
  induction second with
  | refl => exact first
  | put scope _ isPut ih => exact ih.put scope isPut

/-- Each tree holds the options of its scope and no others. -/
def IsFilled (ts : OptionTrees) : Prop :=
  ∀ scope, (ts.tree scope).scope = scope ∧
    (ts.tree scope).values.map (·.1) = (OptionEntry.ofScope scope).map (·.name)

theorem IsFilled.put {ts : OptionTrees} (filled : ts.IsFilled) (scope : Scope) (name : String)
    (v : OptionValue) : (ts.setTree scope ((ts.tree scope).put name v)).IsFilled := by
  intro scope'
  rw [tree_setTree]
  split
  · rename_i same
    subst same
    exact ⟨(filled scope').1, (OptionTree.map_fst_put ..).trans (filled scope').2⟩
  · exact filled scope'

theorem Leads.isFilled {ts us : OptionTrees} (leads : ts.Leads us) (filled : ts.IsFilled) :
    us.IsFilled := by
  induction leads with
  | refl => exact filled
  | put scope _ isPut ih =>
      obtain ⟨e, v, _, _, rfl⟩ := isPut
      exact ih.put scope _ v

/-- In filled trees every option of the schema has a value. -/
theorem IsFilled.value?_isSome {ts : OptionTrees} (filled : ts.IsFilled) {scope : Scope}
    {e : OptionEntry} (listed : e ∈ OptionEntry.ofScope scope) :
    ((ts.tree scope).value? e.name).isSome := by
  have member : e.name ∈ (ts.tree scope).values.map (·.1) := by
    rw [(filled scope).2]
    exact List.mem_map_of_mem listed
  obtain ⟨entry, isEntry, sameName⟩ := List.mem_map.mp member
  exact List.lookup_isSome_iff.mpr ⟨entry, isEntry, by simp [sameName]⟩

theorem isFilled_initial (e : Environ) (shell : String) (directory : Option String) :
    (initial e shell directory).IsFilled := by
  have fresh : IsFilled ⟨.ofScope .server, .ofScope .session, .ofScope .window,
      e.withDirectory directory⟩ := by
    intro scope
    cases scope <;> exact ⟨rfl, by simp [tree, OptionTree.ofScope]⟩
  exact fresh.put .session "default-shell" (.text shell)

theorem IsFilled.withEditorKeys {ts : OptionTrees} (filled : ts.IsFilled) (e : Environ) :
    (ts.withEditorKeys e).1.IsFilled := by
  unfold OptionTrees.withEditorKeys
  cases KeyTable.ofEnviron? e with
  | none => exact filled
  | some keys =>
      exact (filled.put .session "status-keys" (.text keys.name)).put .window "mode-keys"
        (.text keys.name)

end OptionTrees

end MuxLaunch
