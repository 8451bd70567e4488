import Mathlib.Data.List.Nodup
import MuxLaunch.Proofs.Config.Loading
import MuxLaunch.Proofs.Options.Reading

/-! # Commands as edits

What a command does is settled by its words and by the value of the one option that it names. It
puts a value for that option, in the tree that the schema assigns it to, or nothing at all.
-/

namespace MuxLaunch

namespace OptionEntry

theorem nodup_names : (schema.map (·.name)).Nodup := by
  decide

theorem nodup_names_ofScope (scope : Scope) : ((ofScope scope).map (·.name)).Nodup :=
  nodup_names.sublist (List.filter_sublist.map _)

theorem find?_name_eq_some {rows : List OptionEntry} (distinct : (rows.map (·.name)).Nodup)
    {name : String} {e : OptionEntry} :
    rows.find? (·.name = name) = some e ↔ e ∈ rows ∧ e.name = name := by
  constructor
  · intro found
    exact ⟨List.mem_of_find?_eq_some found, by simpa using List.find?_some found⟩
  · rintro ⟨listed, rfl⟩
    have isFound : (rows.find? (·.name = e.name)).isSome := by
      rw [List.find?_isSome]
      exact ⟨e, listed, by simp⟩
    obtain ⟨first, found⟩ := Option.isSome_iff_exists.mp isFound
    have sameName : first.name = e.name := by simpa using List.find?_some found
    rw [found, List.inj_on_of_nodup_map distinct (List.mem_of_find?_eq_some found) listed sameName]

theorem find?_eq_some_iff {name : String} {e : OptionEntry} :
    find? name = some e ↔ e ∈ schema ∧ e.name = name :=
  find?_name_eq_some nodup_names

/-- A name stands in the rows of a scope exactly if its row in the schema has that scope. -/
theorem find?_ofScope (scope : Scope) (name : String) :
    (ofScope scope).find? (·.name = name) = (find? name).filter (·.scope = scope) := by
  ext e
  rw [find?_name_eq_some (nodup_names_ofScope scope), Option.filter_eq_some_iff, find?_eq_some_iff,
    ofScope, List.mem_filter]
  exact and_right_comm

theorem mem_ofScope {scope : Scope} {e : OptionEntry} :
    e ∈ ofScope scope ↔ e ∈ schema ∧ e.scope = scope := by
  simp [ofScope]

theorem name_of_find? {name : String} {e : OptionEntry} (found : find? name = some e) :
    e.name = name := by
  simpa using List.find?_some found

end OptionEntry

namespace OptionTrees

/-- The value of the option of a row. -/
def held? (ts : OptionTrees) (e : OptionEntry) : Option OptionValue :=
  (ts.tree e.scope).value? e.name

/-- Put a value for the option of a row, if there is anything to put. -/
def write (ts : OptionTrees) : Option (OptionEntry × OptionValue) → OptionTrees
  | none => ts
  | some (e, v) => ts.setTree e.scope ((ts.tree e.scope).put e.name v)

theorem IsFilled.listed_eq {ts : OptionTrees} (filled : ts.IsFilled) (scope : Scope)
    (name : String) :
    OptionTree.entry? (ts.tree scope) name = (OptionEntry.find? name).filter (·.scope = scope) := by
  rw [OptionTree.entry?, (filled scope).1, OptionEntry.find?_ofScope]

theorem IsFilled.held?_isSome {ts : OptionTrees} (filled : ts.IsFilled) {e : OptionEntry}
    (listed : e ∈ OptionEntry.schema) : (ts.held? e).isSome :=
  filled.value?_isSome (OptionEntry.mem_ofScope.mpr ⟨listed, rfl⟩)

end OptionTrees

/-- May an option of a scope be set under the flags? One that forces a tree rules out the others. -/
def SetOptionFlags.allows (fs : SetOptionFlags) (scope : Scope) : Bool :=
  if fs.server then scope = .server else if fs.window then scope = .window else true

/-- What a command comes to: the value to put for an option, if any, and notes for the journal. -/
structure Edit where
  change : Option (OptionEntry × OptionValue)
  notes : List Note
  deriving Repr, DecidableEq

namespace Edit

variable (held : OptionEntry → Option OptionValue)

/-- Set or reset an option, given what options hold. -/
def ofOption (fs : SetOptionFlags) (name : String) (value : Option String) :
    Except CommandFault Edit :=
  match (OptionEntry.find? name).filter (fs.allows ·.scope) with
  | none =>
      if fs.quiet then .ok ⟨none, [⟨.optionIgnored, "Ignoring unknown option " ++ name⟩]⟩
      else .error (.option (.invalid name))
  | some e =>
      if fs.reset then
        if value.isSome then .error .valueToReset else .ok ⟨some (e, e.default), []⟩
      else
        match e.kind.read name (held e) value with
        | .error f => .error (.option f)
        | .ok v =>
            .ok ⟨some (e, v),
              [⟨.optionSet, e.scope.name ++ " option " ++ name ++ " = " ++ SetOption.valueText v⟩]⟩

def ofWords (words : List String) : Except CommandFault Edit :=
  match SetOptionFlags.readWords [] {} (SetOption.splitFlags words).1,
    (SetOption.splitFlags words).2 with
  | .error f, _ => .error (.flag f)
  | .ok _, [] => .error .noOption
  | .ok fs, [name] => ofOption held fs name none
  | .ok fs, [name, value] => ofOption held fs name (some value)
  | .ok _, _ => .error .tooManyWords

def ofCommand : List String → Except CommandFault Edit
  | [] => .error .empty
  | name :: words =>
      if CommandRunner.setOptionNames.contains name then ofWords held words
      else .error (.unknown name)

end Edit

namespace SetOption

open OptionTrees

variable {ts : OptionTrees}

/-- The tree that a flag forces is only looked into, and has no option of another scope. -/
theorem select_eq (filled : ts.IsFilled) (fs : SetOptionFlags) (name : String) :
    select ts fs name =
      match (OptionEntry.find? name).filter (fs.allows ·.scope) with
      | some e => .ok e.scope
      | none => .error (.invalid name) := by
  have contains : ∀ scope, (ts.tree scope).contains name =
      ((OptionEntry.find? name).filter (·.scope = scope)).isSome := fun scope => by
    rw [OptionTree.contains, filled.listed_eq]
  have forced : ∀ scope, (if (ts.tree scope).contains name then pure scope
        else throw (.invalid name) : Except OptionFault Scope) =
      match (OptionEntry.find? name).filter (·.scope = scope) with
      | some e => .ok e.scope
      | none => .error (.invalid name) := fun scope => by
    rw [contains]
    cases found : (OptionEntry.find? name).filter (·.scope = scope) with
    | none => rfl
    | some e =>
        have isScope := (Option.filter_eq_some_iff.mp found).2
        simp only [decide_eq_true_eq] at isScope
        rw [← isScope]
        rfl
  cases isServer : fs.server with
  | true =>
      simpa only [select, scopeOf, SetOptionFlags.allows, isServer, if_true, bind, Except.bind]
        using forced .server
  | false =>
      cases isWindow : fs.window with
      | true =>
          simpa only [select, scopeOf, SetOptionFlags.allows, isServer, isWindow, if_true, if_false,
            Bool.false_eq_true, bind, Except.bind] using forced .window
      | false =>
          simp only [select, scopeOf, SetOptionFlags.allows, isServer, isWindow, if_false,
            Bool.false_eq_true, bind]
          cases found : OptionEntry.find? name with
          | none => rfl
          | some e =>
              have own := forced e.scope
              rw [found] at own
              simpa [Option.filter, Except.bind] using own

theorem assign_eq (filled : ts.IsFilled) (fs : SetOptionFlags) (name : String)
    (value : Option String) :
    assign ts fs name value =
      (Edit.ofOption ts.held? fs name value).map fun edit =>
        (ts.write edit.change, edit.notes) := by
  unfold assign Edit.ofOption
  rw [select_eq filled]
  cases found : (OptionEntry.find? name).filter (fs.allows ·.scope) with
  | none =>
      simp only
      split <;> rfl
  | some e =>
      have isRow := (Option.filter_eq_some_iff.mp found).1
      obtain rfl := OptionEntry.name_of_find? isRow
      have isEntry : OptionTree.entry? (ts.tree e.scope) e.name = some e := by
        rw [filled.listed_eq, isRow]
        simp [Option.filter]
      have isHeld := filled.held?_isSome (OptionEntry.find?_eq_some_iff.mp isRow).1
      simp only
      split
      · split
        · rfl
        · simp only [OptionTree.reset_eq isEntry]
          rfl
      · rw [OptionTree.parse_eq isEntry, held?]
        cases e.kind.read e.name ((ts.tree e.scope).value? e.name) value with
        | error f => rfl
        | ok v =>
            have scope : ((ts.tree e.scope).put e.name v).scope = e.scope := (filled e.scope).1
            simp only [Except.map, setNote, OptionTree.value?_put_self isHeld, scope]
            rfl

theorem run_eq (filled : ts.IsFilled) (words : List String) :
    run ts words =
      (Edit.ofWords ts.held? words).map fun edit => (ts.write edit.change, edit.notes) := by
  unfold run Edit.ofWords
  cases SetOptionFlags.readWords [] {} (splitFlags words).1 with
  | error f => rfl
  | ok fs =>
      match (splitFlags words).2 with
      | [] => rfl
      | [name] => exact assign_eq filled fs name none
      | [name, value] => exact assign_eq filled fs name (some value)
      | _ :: _ :: _ :: _ => rfl

end SetOption

namespace Edit

variable {ts : OptionTrees}

theorem ofOption_ne_missing (filled : ts.IsFilled) (fs : SetOptionFlags) (name : String)
    (value : Option String) (other : String) :
    ofOption ts.held? fs name value ≠ .error (.option (.missing other)) := by
  intro isMissing
  unfold ofOption at isMissing
  split at isMissing
  · split at isMissing <;> cases isMissing
  · rename_i e found
    have listed := (OptionEntry.find?_eq_some_iff.mp (Option.filter_eq_some_iff.mp found).1).1
    split at isMissing
    · split at isMissing <;> cases isMissing
    · split at isMissing
      · rename_i f isRead
        cases isMissing
        exact OptionKind.read_ne_missing name (filled.held?_isSome listed) _ _ _ isRead
      · cases isMissing

theorem ofCommand_ne_missing (filled : ts.IsFilled) (command : List String) (other : String) :
    ofCommand ts.held? command ≠ .error (.option (.missing other)) := by
  cases command with
  | nil => nofun
  | cons name words =>
      intro isMissing
      simp only [ofCommand, ofWords] at isMissing
      split at isMissing
      · split at isMissing
        · cases isMissing
        · cases isMissing
        · exact ofOption_ne_missing filled _ _ _ _ isMissing
        · exact ofOption_ne_missing filled _ _ _ _ isMissing
        · cases isMissing
      · cases isMissing

end Edit

/-- On trees that hold the options of the schema, a command does what its edit says. -/
theorem CommandRunner.execute_eq {ts : OptionTrees} (filled : ts.IsFilled)
    (command : List String) :
    execute ts command =
      (Edit.ofCommand ts.held? command).map fun edit => (ts.write edit.change, edit.notes) := by
  cases command with
  | nil => rfl
  | cons name words =>
      simp only [execute, Edit.ofCommand]
      split
      · exact SetOption.run_eq filled words
      · rfl

/-- No command finds a value missing there. -/
theorem CommandRunner.execute_ne_missing {ts : OptionTrees} (filled : ts.IsFilled)
    (command : List String) (other : String) :
    execute ts command ≠ .error (.option (.missing other)) := by
  rw [execute_eq filled]
  cases isEdit : Edit.ofCommand ts.held? command with
  | ok edit => nofun
  | error f =>
      rintro ⟨⟩
      exact Edit.ofCommand_ne_missing filled command other isEdit

end MuxLaunch
