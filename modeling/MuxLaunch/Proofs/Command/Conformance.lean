import MuxLaunch.Proofs.Command.Calls

/-! # Trees conform to the schema

However the options of a tree are set, directly or by commands, the tree holds the options of its
scope and no others, and every value is one that the row of its option admits.
-/

namespace MuxLaunch

namespace OptionTree

/-- The tree holds the options of its scope and no others, each with a value that its row admits. -/
structure IsConforming (t : OptionTree) : Prop where
  names : t.values.map (·.1) = (OptionEntry.ofScope t.scope).map (·.name)
  admitted : ∀ e ∈ OptionEntry.ofScope t.scope, ∃ v, t.value? e.name = some v ∧ e.kind.admits v

theorem entry?_eq_some_iff {t : OptionTree} {name : String} {e : OptionEntry} :
    t.entry? name = some e ↔ e ∈ OptionEntry.ofScope t.scope ∧ e.name = name :=
  OptionEntry.find?_name_eq_some (OptionEntry.nodup_names_ofScope t.scope)

theorem lookup_map_of_nodup {rows : List OptionEntry} (distinct : (rows.map (·.name)).Nodup)
    {e : OptionEntry} (listed : e ∈ rows) :
    (rows.map fun e => (e.name, e.default)).lookup e.name = some e.default := by
  induction rows with
  | nil => cases listed
  | cons row rest ih =>
      obtain ⟨fresh, distinct⟩ := List.nodup_cons.mp distinct
      rw [List.map_cons, Entries.lookup_cons]
      rcases List.mem_cons.mp listed with rfl | listed
      · rw [if_pos rfl]
      · have other : e.name ≠ row.name := fun same => fresh (List.mem_map.mpr ⟨e, listed, same⟩)
        rw [if_neg other, ih distinct listed]

theorem isConforming_ofScope (scope : Scope) : (ofScope scope).IsConforming where
  names := by simp [ofScope]
  admitted e listed :=
    ⟨e.default, lookup_map_of_nodup (OptionEntry.nodup_names_ofScope scope) listed,
      OptionEntry.admits_default (OptionEntry.mem_ofScope.mp listed).1⟩

theorem IsPut.scope {t t' : OptionTree} {name : String} (isPut : t.IsPut t' name) :
    t'.scope = t.scope := by
  obtain ⟨_, _, _, _, rfl⟩ := isPut
  rfl

/-- Putting an admitted value keeps a tree conforming. -/
theorem IsConforming.of_isPut {t t' : OptionTree} {name : String} (conforming : t.IsConforming)
    (isPut : t.IsPut t' name) : t'.IsConforming := by
  obtain ⟨row, v, isRow, admits, rfl⟩ := isPut
  obtain ⟨isListed, rfl⟩ := entry?_eq_some_iff.mp isRow
  refine ⟨(map_fst_put ..).trans conforming.names, fun e listed => ?_⟩
  obtain ⟨held, isHeld, admitsHeld⟩ := conforming.admitted e listed
  by_cases same : e.name = row.name
  · have isSame : e = row :=
      List.inj_on_of_nodup_map (OptionEntry.nodup_names_ofScope t.scope) listed isListed same
    subst isSame
    exact ⟨v, value?_put_self (isHeld ▸ rfl), admits⟩
  · exact ⟨held, (value?_put_of_ne same).trans isHeld, admitsHeld⟩

theorem IsConforming.value?_isSome {t : OptionTree} (conforming : t.IsConforming) {name : String}
    {e : OptionEntry} (found : t.entry? name = some e) : (t.value? name).isSome := by
  obtain ⟨listed, rfl⟩ := entry?_eq_some_iff.mp found
  obtain ⟨v, isHeld, -⟩ := conforming.admitted e listed
  exact isHeld ▸ rfl

/-- An option of a conforming tree can be read exactly if the tree contains it. -/
theorem IsConforming.get_iff {t : OptionTree} (conforming : t.IsConforming) (name : String) :
    (∃ v, t.get name = .ok v) ↔ t.contains name := by
  unfold contains
  cases found : t.entry? name with
  | none => simp [get, entry, found, bind, Except.bind]
  | some e =>
      obtain ⟨v, isHeld⟩ := Option.isSome_iff_exists.mp (conforming.value?_isSome found)
      simp [get_of_listed found, isHeld]

end OptionTree

/-- The ways to set an option of a single tree. -/
inductive TreeCall where
  | setText (name value : String)
  | setNumber (name : String) (n : Int)
  | parse (name : String) (given : Option String)
  | reset (name : String)
  deriving Repr, DecidableEq

namespace TreeCall

def attempt (t : OptionTree) : TreeCall → Except OptionFault OptionTree
  | setText name value => t.setText name value
  | setNumber name n => t.setNumber name n
  | parse name given => t.parse name given
  | reset name => t.reset name

/-- A call that fails leaves the tree as it is. -/
def perform (t : OptionTree) (call : TreeCall) : OptionTree :=
  match call.attempt t with
  | .ok next => next
  | .error _ => t

/-- No value of a conforming tree is found missing. -/
theorem attempt_ne_missing {t : OptionTree} (conforming : t.IsConforming) (call : TreeCall)
    (name : String) : call.attempt t ≠ .error (.missing name) := by
  intro isMissing
  cases call with
  | setText other value =>
      rcases exceptBind_eq_error.mp isMissing with unlisted | ⟨e, -, refused⟩
      · exact OptionTree.entry_ne_missing unlisted
      · split at refused
        · cases refused
        · split at refused <;> cases refused
        · cases refused
  | setNumber other n =>
      rcases exceptBind_eq_error.mp isMissing with unlisted | ⟨e, -, refused⟩
      · exact OptionTree.entry_ne_missing unlisted
      · split at refused
        · split_ifs at refused <;> cases refused
        · cases refused
  | parse other given =>
      cases found : t.entry? other with
      | none =>
          rw [attempt, OptionTree.parse, OptionTree.entry, found] at isMissing
          cases isMissing
      | some e =>
          rw [attempt, OptionTree.parse_eq found] at isMissing
          cases isRead : e.kind.read other (t.value? other) given with
          | ok v =>
              rw [isRead] at isMissing
              cases isMissing
          | error f =>
              rw [isRead] at isMissing
              cases isMissing
              exact OptionKind.read_ne_missing other (conforming.value?_isSome found) _ _ _ isRead
  | reset other =>
      rcases exceptBind_eq_error.mp isMissing with unlisted | ⟨e, -, refused⟩
      · exact OptionTree.entry_ne_missing unlisted
      · cases refused

theorem perform_isPut (t : OptionTree) (call : TreeCall) :
    call.perform t = t ∨ ∃ name, t.IsPut (call.perform t) name := by
  unfold perform
  cases attempted : call.attempt t with
  | error f => exact .inl rfl
  | ok next =>
      refine .inr ?_
      cases call with
      | setText name value => exact ⟨name, OptionTree.setText_isPut attempted⟩
      | setNumber name n => exact ⟨name, OptionTree.setNumber_isPut attempted⟩
      | parse name given => exact ⟨name, OptionTree.parse_isPut attempted⟩
      | reset name => exact ⟨name, OptionTree.reset_isPut attempted⟩

end TreeCall

namespace OptionTrees

/-- Each tree is that of its scope and conforms to the schema. -/
structure AreConforming (ts : OptionTrees) : Prop where
  scope : ∀ scope, (ts.tree scope).scope = scope
  conforming : ∀ scope, (ts.tree scope).IsConforming

theorem setTree_tree (ts : OptionTrees) (scope : Scope) :
    ts.setTree scope (ts.tree scope) = ts := by
  cases scope <;> rfl

theorem Leads.areConforming {ts us : OptionTrees} (leads : ts.Leads us)
    (conform : ts.AreConforming) : us.AreConforming := by
  induction leads with
  | refl => exact conform
  | @put us changed name t _ isPut ih =>
      have scopeKept : t.scope = changed := isPut.scope.trans (ih.scope changed)
      constructor
      · intro scope
        rw [tree_setTree]
        split
        · rename_i same
          exact scopeKept.trans same.symm
        · exact ih.scope scope
      · intro scope
        rw [tree_setTree]
        split
        · exact (ih.conforming changed).of_isPut isPut
        · exact ih.conforming scope

theorem areConforming_initial (e : Environ) (shell : String) (directory : Option String) :
    (initial e shell directory).AreConforming where
  scope scope := by cases scope <;> rfl
  conforming scope := by
    cases scope with
    | server => exact OptionTree.isConforming_ofScope .server
    | session =>
        refine (OptionTree.isConforming_ofScope .session).of_isPut
          ⟨⟨"default-shell", .session, .text, .text "/bin/sh"⟩, .text shell, ?_, rfl, rfl⟩
        rfl
    | window => exact OptionTree.isConforming_ofScope .window

/-- The names of the key tables are among the choices of the two options that they are put for. -/
theorem AreConforming.withEditorKeys {ts : OptionTrees} (conform : ts.AreConforming) (e : Environ) :
    (ts.withEditorKeys e).1.AreConforming := by
  unfold OptionTrees.withEditorKeys
  cases KeyTable.ofEnviron? e with
  | none => exact conform
  | some keys =>
      have admits : OptionKind.keyTable.admits (.text keys.name) := by cases keys <;> rfl
      have session : (ts.tree .session).IsPut (ts.session.put "status-keys" (.text keys.name))
          "status-keys" := by
        refine ⟨⟨"status-keys", .session, .keyTable, .text "emacs"⟩, _, ?_, admits, rfl⟩
        rw [OptionTree.entry?, conform.scope]
        rfl
      have window : (ts.tree .window).IsPut (ts.window.put "mode-keys" (.text keys.name))
          "mode-keys" := by
        refine ⟨⟨"mode-keys", .window, .keyTable, .text "emacs"⟩, _, ?_, admits, rfl⟩
        rw [OptionTree.entry?, conform.scope]
        rfl
      exact ((Leads.refl.put .session session).put .window window).areConforming conform

/-- No option stands in two trees. -/
theorem AreConforming.not_contains {ts : OptionTrees} (conform : ts.AreConforming)
    {scope other : Scope} (different : scope ≠ other) {name : String}
    (contained : (ts.tree scope).contains name) : ¬(ts.tree other).contains name := by
  intro shared
  obtain ⟨e, isEntry⟩ := Option.isSome_iff_exists.mp contained
  obtain ⟨f, isOther⟩ := Option.isSome_iff_exists.mp shared
  obtain ⟨listed, named⟩ := OptionTree.entry?_eq_some_iff.mp isEntry
  obtain ⟨listed', named'⟩ := OptionTree.entry?_eq_some_iff.mp isOther
  rw [conform.scope, OptionEntry.mem_ofScope] at listed listed'
  have isSame : e = f :=
    List.inj_on_of_nodup_map OptionEntry.nodup_names listed.1 listed'.1 (named.trans named'.symm)
  exact different (by rw [← listed.2, ← listed'.2, isSame])

end OptionTrees

/-- What may be asked of a runner and its trees: to set an option of one tree, or to run a
    command. -/
inductive RunnerCall where
  | tree (scope : Scope) (call : TreeCall)
  | command (call : CommandCall)
  deriving Repr, DecidableEq

namespace RunnerCall

def perform (r : CommandRunner) : RunnerCall → CommandRunner
  | tree scope call =>
      { r with trees := r.trees.setTree scope (call.perform (r.trees.tree scope)) }
  | command call => (call.perform r).2

theorem perform_leads (r : CommandRunner) (call : RunnerCall) :
    r.trees.Leads (call.perform r).trees := by
  cases call with
  | command call => exact call.perform_leads r
  | tree scope call =>
      rcases call.perform_isPut (r.trees.tree scope) with same | ⟨name, isPut⟩
      · simp only [perform, same, OptionTrees.setTree_tree]
        exact .refl
      · exact .put scope .refl isPut

end RunnerCall

namespace CommandRunner

theorem areConforming_calls {r : CommandRunner} (conform : r.trees.AreConforming)
    (calls : List RunnerCall) : (calls.foldl RunnerCall.perform r).trees.AreConforming := by
  induction calls generalizing r with
  | nil => exact conform
  | cons call calls ih => exact ih ((call.perform_leads r).areConforming conform)

end CommandRunner

namespace OptionTree

theorem isConforming_calls {t : OptionTree} (conforming : t.IsConforming)
    (calls : List TreeCall) :
    (calls.foldl TreeCall.perform t).scope = t.scope ∧
    (calls.foldl TreeCall.perform t).IsConforming := by
  induction calls generalizing t with
  | nil => exact ⟨rfl, conforming⟩
  | cons call calls ih =>
      rcases call.perform_isPut t with same | ⟨name, isPut⟩
      · rw [List.foldl_cons, same]
        exact ih conforming
      · obtain ⟨scope, conforms⟩ := ih (conforming.of_isPut isPut)
        exact ⟨scope.trans isPut.scope, conforms⟩

end OptionTree

/-- Whatever calls are made, from a fresh tree or from the trees of a launch, every tree holds the
    options of its scope and no others, each with a value that its row admits. Exactly the options
    that a tree contains can be read from it, and no option stands in two trees. -/
theorem isConforming_after_calls :
    (∀ (scope : Scope) (calls : List TreeCall),
      let t := calls.foldl TreeCall.perform (OptionTree.ofScope scope)
      t.scope = scope ∧ t.IsConforming ∧ ∀ name, (∃ v, t.get name = .ok v) ↔ t.contains name) ∧
    ∀ (e : Environ) (shell : String) (directory : Option String) (editor : Environ)
      (calls : List RunnerCall),
      let ts := (calls.foldl RunnerCall.perform
        ⟨((OptionTrees.initial e shell directory).withEditorKeys editor).1, [], []⟩).trees
      ∀ scope,
        (ts.tree scope).scope = scope ∧ (ts.tree scope).IsConforming ∧
        (∀ name, (∃ v, (ts.tree scope).get name = .ok v) ↔ (ts.tree scope).contains name) ∧
        ∀ other, scope ≠ other → ∀ name,
          (ts.tree scope).contains name → ¬(ts.tree other).contains name := by
  constructor
  · intro scope calls
    obtain ⟨isScope, conforming⟩ :=
      OptionTree.isConforming_calls (OptionTree.isConforming_ofScope scope) calls
    exact ⟨isScope, conforming, conforming.get_iff⟩
  · intro e shell directory editor calls
    have conform := CommandRunner.areConforming_calls (r := ⟨_, [], []⟩)
      ((OptionTrees.areConforming_initial e shell directory).withEditorKeys editor) calls
    intro ts scope
    have conforming := conform.conforming scope
    exact ⟨conform.scope scope, conforming, conforming.get_iff,
      fun other different name => conform.not_contains different⟩

/-- After a command that toggles an option of the session and a call that fails to set it in the
    window tree, it stands in the session tree alone. -/
theorem isConforming_after_misplaced :
    let calls : List RunnerCall :=
      [.command ⟨["set", "-g", "mouse"], .raise⟩, .tree .window (.parse "mouse" (some "on"))]
    let ts := (calls.foldl RunnerCall.perform
      ⟨((OptionTrees.initial .empty "/bin/sh" none).withEditorKeys .empty).1, [], []⟩).trees
    Scope.session ≠ .window ∧ (ts.tree .session).contains "mouse" ∧
      (ts.tree .session).value? "mouse" = some (.flag true) ∧
      ¬(ts.tree .window).contains "mouse" := by
  intro calls ts
  have different : Scope.session ≠ .window := by decide
  have contained : (ts.tree .session).contains "mouse" := rfl
  have apart := (isConforming_after_calls.2 .empty "/bin/sh" none .empty calls .session).2.2.2
  exact ⟨different, contained, rfl, apart .window different "mouse" contained⟩

end MuxLaunch
