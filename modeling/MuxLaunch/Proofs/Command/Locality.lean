import MuxLaunch.Proofs.Command.Calls

/-! # Commands are local

A command reads and changes the option that it names and nothing else, whichever way its failure is
dealt with. So two commands that name different options may be run in either order.
-/

namespace MuxLaunch

/-- The option that a command names is the first word after its flags. -/
def namedOption? : List String → Option String
  | [] => none
  | name :: words =>
      if CommandRunner.setOptionNames.contains name then (SetOption.splitFlags words).2.head?
      else none

namespace Edit

variable {held held' : OptionEntry → Option OptionValue}

theorem ofOption_congr {name : String}
    (same : ∀ e, OptionEntry.find? name = some e → held e = held' e) (fs : SetOptionFlags)
    (value : Option String) : ofOption held fs name value = ofOption held' fs name value := by
  unfold ofOption
  cases found : (OptionEntry.find? name).filter (fs.allows ·.scope) with
  | none => rfl
  | some e => simp only [same e (Option.filter_eq_some_iff.mp found).1]

theorem ofWords_congr {words : List String}
    (same : ∀ name e, (SetOption.splitFlags words).2.head? = some name →
      OptionEntry.find? name = some e → held e = held' e) :
    ofWords held words = ofWords held' words := by
  unfold ofWords
  cases SetOptionFlags.readWords [] {} (SetOption.splitFlags words).1 with
  | error f => rfl
  | ok fs =>
      match (SetOption.splitFlags words).2, same with
      | [], _ => rfl
      | [name], same => exact ofOption_congr (fun e => same name e rfl) fs none
      | [name, value], same => exact ofOption_congr (fun e => same name e rfl) fs (some value)
      | _ :: _ :: _ :: _, _ => rfl

/-- A command looks at no option but the one it names. -/
theorem ofCommand_congr {command : List String}
    (same : ∀ name e, namedOption? command = some name → OptionEntry.find? name = some e →
      held e = held' e) :
    ofCommand held command = ofCommand held' command := by
  cases command with
  | nil => rfl
  | cons first words =>
      simp only [ofCommand]
      split
      · rename_i isSet
        simp only [namedOption?, isSet, if_true] at same
        exact ofWords_congr same
      · rfl

theorem find?_of_ofOption {fs : SetOptionFlags} {name : String} {value : Option String}
    {e : OptionEntry} {v : OptionValue} {notes : List Note}
    (h : ofOption held fs name value = .ok ⟨some (e, v), notes⟩) :
    OptionEntry.find? name = some e := by
  unfold ofOption at h
  cases found : (OptionEntry.find? name).filter (fs.allows ·.scope) with
  | none =>
      simp only [found] at h
      split at h <;> cases h
  | some row =>
      simp only [found] at h
      have isRow := (Option.filter_eq_some_iff.mp found).1
      split at h
      · split at h
        · cases h
        · cases h
          exact isRow
      · split at h
        · cases h
        · cases h
          exact isRow

theorem find?_of_ofWords {words : List String} {e : OptionEntry} {v : OptionValue}
    {notes : List Note} (h : ofWords held words = .ok ⟨some (e, v), notes⟩) :
    ∃ name, (SetOption.splitFlags words).2.head? = some name ∧
      OptionEntry.find? name = some e := by
  unfold ofWords at h
  split at h
  · cases h
  · cases h
  · rename_i isRest
    rw [isRest]
    exact ⟨_, rfl, find?_of_ofOption h⟩
  · rename_i isRest
    rw [isRest]
    exact ⟨_, rfl, find?_of_ofOption h⟩
  · cases h

/-- A command puts a value for no option but the one it names. -/
theorem find?_of_ofCommand {command : List String} {e : OptionEntry} {v : OptionValue}
    {notes : List Note} (h : ofCommand held command = .ok ⟨some (e, v), notes⟩) :
    namedOption? command = some e.name ∧ OptionEntry.find? e.name = some e := by
  cases command with
  | nil => cases h
  | cons first words =>
      simp only [ofCommand] at h
      split at h
      · rename_i isSet
        obtain ⟨name, isNamed, found⟩ := find?_of_ofWords h
        rw [OptionEntry.name_of_find? found]
        simp only [namedOption?, isSet, if_true]
        exact ⟨isNamed, found⟩
      · cases h

end Edit

theorem OptionTree.put_comm {name other : String} (different : name ≠ other) (t : OptionTree)
    (v w : OptionValue) : (t.put name v).put other w = (t.put other w).put name v := by
  simp only [put, List.map_map]
  congr 2
  funext entry
  obtain ⟨m, held⟩ := entry
  by_cases isName : m = name
  · simp [isName, different]
  · simp [isName]

namespace OptionTrees

theorem setTree_setTree (ts : OptionTrees) (scope : Scope) (t u : OptionTree) :
    (ts.setTree scope t).setTree scope u = ts.setTree scope u := by
  cases scope <;> rfl

theorem setTree_comm {scope other : Scope} (different : scope ≠ other) (ts : OptionTrees)
    (t u : OptionTree) :
    (ts.setTree scope t).setTree other u = (ts.setTree other u).setTree scope t := by
  cases scope <;> cases other <;> first | rfl | exact absurd rfl different

theorem value?_write (ts : OptionTrees) (e : OptionEntry) (v : OptionValue) (scope : Scope)
    (name : String) :
    ((ts.write (some (e, v))).tree scope).value? name =
      if scope = e.scope ∧ name = e.name then ((ts.tree scope).value? name).map fun _ => v
      else (ts.tree scope).value? name := by
  rw [write, tree_setTree]
  by_cases sameScope : scope = e.scope
  · subst sameScope
    simp [OptionTree.value?_put]
  · simp [sameScope]

/-- Options of different names may be written in either order. -/
theorem write_comm {change change' : Option (OptionEntry × OptionValue)}
    (different : ∀ e v e' v', change = some (e, v) → change' = some (e', v') → e.name ≠ e'.name)
    (ts : OptionTrees) : (ts.write change).write change' = (ts.write change').write change := by
  match change, change', different with
  | none, _, _ => rfl
  | some _, none, _ => rfl
  | some (e, v), some (e', v'), different =>
      have different := different e v e' v' rfl rfl
      simp only [write, tree_setTree]
      by_cases sameScope : e.scope = e'.scope
      · rw [if_pos sameScope.symm, if_pos sameScope, sameScope, setTree_setTree, setTree_setTree,
          OptionTree.put_comm different]
      · rw [if_neg (Ne.symm sameScope), if_neg sameScope, setTree_comm sameScope]

/-- The value of the option with a name, in the tree that the schema assigns it to. -/
def value? (ts : OptionTrees) (name : String) : Option OptionValue :=
  (OptionEntry.find? name).bind ts.held?

theorem value?_of_find? {ts : OptionTrees} {name : String} {e : OptionEntry}
    (found : OptionEntry.find? name = some e) : ts.value? name = ts.held? e := by
  rw [value?, found]
  rfl

theorem value?_write_self {ts : OptionTrees} {e : OptionEntry}
    (found : OptionEntry.find? e.name = some e) (v : OptionValue) :
    (ts.write (some (e, v))).value? e.name = (ts.value? e.name).map fun _ => v := by
  rw [value?_of_find? found, value?_of_find? found, held?, value?_write, if_pos ⟨rfl, rfl⟩, held?]

/-- Two sets of trees hold the same but for the values of some options. -/
structure AgreesOutside (ts : OptionTrees) (touched : Scope → String → Prop) (us : OptionTrees) :
    Prop where
  scope : ∀ scope, (us.tree scope).scope = (ts.tree scope).scope
  names : ∀ scope, (us.tree scope).values.map (·.1) = (ts.tree scope).values.map (·.1)
  value : ∀ scope name, ¬touched scope name →
    (us.tree scope).value? name = (ts.tree scope).value? name
  environ : us.environ = ts.environ

theorem agreesOutside_refl (touched : Scope → String → Prop) (ts : OptionTrees) :
    ts.AgreesOutside touched ts :=
  ⟨fun _ => rfl, fun _ => rfl, fun _ _ _ => rfl, rfl⟩

theorem agreesOutside_write {touched : Scope → String → Prop} (ts : OptionTrees) {e : OptionEntry}
    (isTouched : touched e.scope e.name) (v : OptionValue) :
    ts.AgreesOutside touched (ts.write (some (e, v))) where
  scope scope := by
    rw [write, tree_setTree]
    split
    · rename_i same
      rw [same]
      rfl
    · rfl
  names scope := by
    rw [write, tree_setTree]
    split
    · rename_i same
      rw [same, OptionTree.map_fst_put]
    · rfl
  value scope name untouched := by
    rw [value?_write, if_neg]
    rintro ⟨rfl, rfl⟩
    exact untouched isTouched
  environ := environ_setTree ..

end OptionTrees

namespace CommandCall

/-- A command may touch the option that it names, in the tree of the option's scope. -/
def MayTouch (call : CommandCall) (scope : Scope) (name : String) : Prop :=
  namedOption? call.command = some name ∧ ∃ e, OptionEntry.find? name = some e ∧ e.scope = scope

/-- Two calls name no option in common. -/
def NamesOther (call other : CommandCall) : Prop :=
  ∀ name, namedOption? call.command = some name → namedOption? other.command ≠ some name

variable {r r' : CommandRunner} {call other : CommandCall} {ts us : OptionTrees}

theorem edit_congr
    (same : ∀ name, namedOption? call.command = some name → ts.value? name = us.value? name) :
    call.edit ts = call.edit us := by
  refine Edit.ofCommand_congr fun name e isNamed found => ?_
  rw [← OptionTrees.value?_of_find? found, ← OptionTrees.value?_of_find? found]
  exact same name isNamed

theorem find?_of_change {e : OptionEntry} {v : OptionValue} (h : call.change ts = some (e, v)) :
    namedOption? call.command = some e.name ∧ OptionEntry.find? e.name = some e := by
  unfold change at h
  split at h
  · rename_i edit isEdit
    obtain ⟨_, notes⟩ := edit
    cases h
    exact Edit.find?_of_ofCommand isEdit
  · cases h

theorem perform_agreesOutside (filled : r.trees.IsFilled) (call : CommandCall) :
    r.trees.AgreesOutside call.MayTouch (call.perform r).2.trees := by
  rw [(perform_eq filled call).2]
  cases isChange : call.change r.trees with
  | none => exact OptionTrees.agreesOutside_refl _ _
  | some change =>
      obtain ⟨isNamed, found⟩ := find?_of_change isChange
      exact OptionTrees.agreesOutside_write _ ⟨isNamed, _, found, rfl⟩ _

/-- A call that fails changes nothing. -/
theorem trees_of_failed (filled : r.trees.IsFilled)
    (failed : (call.perform r).1.result ≠ .ok true) : (call.perform r).2.trees = r.trees := by
  obtain ⟨outcome, trees⟩ := perform_eq filled call
  rw [outcome] at failed
  rw [trees, change]
  cases isEdit : call.edit r.trees with
  | error f => rfl
  | ok edit =>
      rw [isEdit] at failed
      exact absurd rfl failed

/-- What a call names has the same value after another call that names something else. -/
theorem value?_perform (filled : r.trees.IsFilled) {name : String}
    (untouched : namedOption? call.command ≠ some name) :
    (call.perform r).2.trees.value? name = r.trees.value? name := by
  unfold OptionTrees.value?
  cases found : OptionEntry.find? name with
  | none => rfl
  | some e =>
      refine (perform_agreesOutside filled call).value e.scope e.name fun touched => ?_
      rw [OptionEntry.name_of_find? found] at touched
      exact untouched touched.1

theorem edit_perform (filled : r.trees.IsFilled) (apart : call.NamesOther other) :
    other.edit (call.perform r).2.trees = other.edit r.trees :=
  edit_congr fun _ isNamed => value?_perform filled fun same => apart _ same isNamed

/-- Calls on states that agree about the named option have the same outcome, and the states agree
    about it afterwards. -/
theorem perform_congr (filled : r.trees.IsFilled) (filled' : r'.trees.IsFilled)
    (same : ∀ name, namedOption? call.command = some name →
      r'.trees.value? name = r.trees.value? name) :
    (call.perform r').1 = (call.perform r).1 ∧
    ∀ name, namedOption? call.command = some name →
      (call.perform r').2.trees.value? name = (call.perform r).2.trees.value? name := by
  have sameEdit : call.edit r'.trees = call.edit r.trees := edit_congr same
  obtain ⟨outcome, trees⟩ := perform_eq filled call
  obtain ⟨outcome', trees'⟩ := perform_eq filled' call
  rw [sameEdit] at outcome'
  rw [change, sameEdit, ← change] at trees'
  refine ⟨outcome'.trans outcome.symm, fun name isNamed => ?_⟩
  rw [trees, trees']
  cases isChange : call.change r.trees with
  | none => exact same name isNamed
  | some change =>
      obtain ⟨isTarget, found⟩ := find?_of_change isChange
      obtain rfl := Option.some.inj (isTarget.symm.trans isNamed)
      rw [OptionTrees.value?_write_self found, OptionTrees.value?_write_self found,
        same _ isNamed]

/-- Calls that name no option in common may be made in either order. -/
theorem perform_comm (filled : r.trees.IsFilled) (apart : call.NamesOther other) :
    (other.perform (call.perform r).2).2.trees = (call.perform (other.perform r).2).2.trees ∧
    (other.perform (call.perform r).2).1 = (other.perform r).1 ∧
    (call.perform (other.perform r).2).1 = (call.perform r).1 := by
  have apart' : other.NamesOther call := fun name isNamed same => apart name same isNamed
  have sameEdit := edit_perform filled apart
  have sameEdit' := edit_perform filled apart'
  obtain ⟨outcome, trees⟩ := perform_eq filled call
  obtain ⟨outcome', trees'⟩ := perform_eq filled other
  obtain ⟨second, last⟩ := perform_eq ((call.perform_leads r).isFilled filled) other
  obtain ⟨second', last'⟩ := perform_eq ((other.perform_leads r).isFilled filled) call
  rw [sameEdit] at second
  rw [sameEdit'] at second'
  rw [change, sameEdit, ← change, trees] at last
  rw [change, sameEdit', ← change, trees'] at last'
  refine ⟨?_, second.trans outcome'.symm, second'.trans outcome.symm⟩
  rw [last, last', OptionTrees.write_comm]
  intro e v e' v' isChange isChange' sameName
  refine apart e.name (find?_of_change isChange).1 ?_
  rw [sameName]
  exact (find?_of_change isChange').1

/-- Whatever commands have been run since the launch, a command changes at most the value of the
    option that it names, in the tree of that option's scope, and nothing at all when it fails. Its
    outcome and the new value depend on its words and on the value that the option has, so commands
    that name different options may be run in either order. -/
theorem perform_isLocal (reached : r.IsReached) (call : CommandCall) :
    r.trees.AgreesOutside call.MayTouch (call.perform r).2.trees ∧
    ((call.perform r).1.result ≠ .ok true → (call.perform r).2.trees = r.trees) ∧
    (∀ r' : CommandRunner, r'.IsReached →
      (∀ name, namedOption? call.command = some name →
        r'.trees.value? name = r.trees.value? name) →
      (call.perform r').1 = (call.perform r).1 ∧
      ∀ name, namedOption? call.command = some name →
        (call.perform r').2.trees.value? name = (call.perform r).2.trees.value? name) ∧
    ∀ other : CommandCall, call.NamesOther other →
      (other.perform (call.perform r).2).2.trees = (call.perform (other.perform r).2).2.trees ∧
      (other.perform (call.perform r).2).1 = (other.perform r).1 ∧
      (call.perform (other.perform r).2).1 = (call.perform r).1 :=
  ⟨perform_agreesOutside reached.isFilled call, trees_of_failed reached.isFilled,
    fun _ reached' same => perform_congr reached.isFilled reached'.isFilled same,
    fun _ apart => perform_comm reached.isFilled apart⟩

/-- A session option cannot be set in the server tree, and the attempt leaves every other command
    as it is. -/
theorem perform_forced :
    CommandRunner.IsReached ⟨.initial .empty "/bin/sh" none, [], []⟩ ∧
    NamesOther ⟨["set", "-s", "mouse", "on"], .defer none⟩ ⟨["set", "status"], .raise⟩ ∧
    (perform ⟨["set", "-s", "mouse", "on"], .defer none⟩
      ⟨.initial .empty "/bin/sh" none, [], []⟩).2.trees = .initial .empty "/bin/sh" none ∧
    (perform ⟨["set", "status"], .raise⟩
      (perform ⟨["set", "-s", "mouse", "on"], .defer none⟩
        ⟨.initial .empty "/bin/sh" none, [], []⟩).2).1.result = .ok true := by
  have reached := CommandRunner.IsReached.launched .empty "/bin/sh" none
  have apart : NamesOther ⟨["set", "-s", "mouse", "on"], .defer none⟩
      ⟨["set", "status"], .raise⟩ := by
    rintro _ ⟨⟩
    decide
  obtain ⟨-, failing, -, commuting⟩ :=
    perform_isLocal reached ⟨["set", "-s", "mouse", "on"], .defer none⟩
  refine ⟨reached, apart, failing (nofun), ?_⟩
  rw [(commuting _ apart).2.1]
  rfl

end CommandCall

end MuxLaunch
