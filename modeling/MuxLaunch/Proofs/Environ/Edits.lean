import Mathlib.Data.List.Induction
import MuxLaunch.Proofs.Environ.Order

/-! # Environments that are edited

An environment is taken over from a process and then edited, entry by entry. Whatever the edits, it
holds under every name what was written there last, and its own entries put it together again.
-/

namespace MuxLaunch

/-- The part in front of a cut holds no separator. -/
theorem Text.cut_eq_some_iff {separator : Char} {text before after : List Char} :
    cut separator text = some (before, after) ↔
      text = before ++ separator :: after ∧ separator ∉ before := by
  induction text generalizing before with
  | nil => simp [cut]
  | cons c rest ih =>
      rw [cut]
      by_cases isSeparator : c = separator
      · subst isSeparator
        rw [if_pos rfl]
        constructor
        · rintro ⟨⟩
          exact ⟨rfl, List.not_mem_nil⟩
        · rintro ⟨isText, absent⟩
          cases before with
          | nil => rw [(List.cons.inj isText).2]
          | cons b more =>
              rw [(List.cons.inj isText).1] at absent
              exact absurd List.mem_cons_self absent
      · rw [if_neg isSeparator, Option.map_eq_some_iff]
        constructor
        · rintro ⟨⟨inner, _⟩, isCut, ⟨⟩⟩
          obtain ⟨rfl, absent⟩ := ih.mp isCut
          exact ⟨rfl, by simp [Ne.symm isSeparator, absent]⟩
        · rintro ⟨isText, absent⟩
          cases before with
          | nil => exact absurd (List.cons.inj isText).1 isSeparator
          | cons b more =>
              obtain ⟨rfl, isRest⟩ := List.cons.inj isText
              exact ⟨(more, after),
                ih.mpr ⟨isRest, fun member => absent (List.mem_cons_of_mem _ member)⟩, rfl⟩

/-- The name can stand in front of an equals sign. -/
def IsVariable (name : String) : Prop :=
  name ≠ "" ∧ '=' ∉ name.toList

instance (name : String) : Decidable (IsVariable name) :=
  inferInstanceAs (Decidable (_ ∧ _))

namespace Environ

variable {e : Environ} {name value : String}

theorem put_variable (e : Environ) (isVariable : IsVariable name) (value : String) :
    e.put (name ++ "=" ++ value) = e.set name value := by
  have isCut : Text.cut '=' (name ++ "=" ++ value).toList = some (name.toList, value.toList) :=
    Text.cut_eq_some_iff.mpr ⟨by simp, isVariable.2⟩
  have nonempty : name.toList ≠ [] := fun isNil =>
    isVariable.1 (String.toList_eq_nil_iff.mp isNil)
  unfold put
  rw [isCut]
  split
  · rename_i isNone
    cases isNone
  · rename_i isEmpty
    exact absurd (Prod.mk.inj (Option.some.inj isEmpty)).1 nonempty
  · rename_i isSome
    obtain ⟨rfl, rfl⟩ := Prod.mk.inj (Option.some.inj isSome)
    rw [String.ofList_toList, String.ofList_toList]

/-- An entry that is no variable with a value is passed over. -/
theorem put_of_idle {entry : String}
    (idle : ∀ name value, IsVariable name → entry ≠ name ++ "=" ++ value) : e.put entry = e := by
  unfold put
  split
  · rfl
  · rfl
  · rename_i name value notEmpty isCut
    obtain ⟨isEntry, absent⟩ := Text.cut_eq_some_iff.mp isCut
    have isVariable : IsVariable (String.ofList name) :=
      ⟨fun isEmpty => notEmpty (by simpa using isEmpty), by simpa using absent⟩
    have isWhole : entry = String.ofList name ++ "=" ++ String.ofList value := by
      rw [← String.toList_inj, isEntry]
      simp
    exact absurd isWhole (idle _ _ isVariable)

/-- A way of changing one variable. -/
inductive Edit where
  | set (name value : String)
  | put (entry : String)
  | unset (name : String)
  deriving Repr, DecidableEq

def apply (e : Environ) : Edit → Environ
  | .set name value => e.set name value
  | .put entry => e.put entry
  | .unset name => e.unset name

def edited (e : Environ) (edits : List Edit) : Environ :=
  edits.foldl apply e

/-- What an edit leaves under a name that it is about. -/
inductive Edit.Leaves : Edit → String → Option String → Prop
  | set (name value : String) : Leaves (.set name value) name (some value)
  | put {name : String} (value : String) :
      IsVariable name → Leaves (.put (name ++ "=" ++ value)) name (some value)
  | unset (name : String) : Leaves (.unset name) name none

/-- The last of the edits that are about a name leaves the value there. -/
def IsLeft (edits : List Edit) (name value : String) : Prop :=
  ∃ before edit after, edits = before ++ edit :: after ∧ edit.Leaves name (some value) ∧
    ∀ later ∈ after, ∀ left, ¬later.Leaves name left

theorem edited_concat (e : Environ) (edits : List Edit) (edit : Edit) :
    e.edited (edits ++ [edit]) = (e.edited edits).apply edit :=
  List.foldl_append

theorem isLeft_concat {edits : List Edit} {edit : Edit} :
    IsLeft (edits ++ [edit]) name value ↔
      edit.Leaves name (some value) ∨
        (∀ left, ¬edit.Leaves name left) ∧ IsLeft edits name value := by
  constructor
  · rintro ⟨before, last, after, isSplit, leaves, noneLater⟩
    -- The new edit leaves the value itself, or else it is the last of those that come after.
    rcases List.eq_nil_or_concat' after with rfl | ⟨after, final, rfl⟩
    · obtain ⟨-, isLast⟩ := List.append_inj' isSplit rfl
      obtain rfl := List.singleton_inj.mp isLast
      exact .inl leaves
    · rw [← List.cons_append, ← List.append_assoc] at isSplit
      obtain ⟨rfl, isFinal⟩ := List.append_inj' isSplit rfl
      obtain rfl := List.singleton_inj.mp isFinal
      exact .inr ⟨noneLater edit (by simp), before, last, after, rfl, leaves,
        fun later member => noneLater later (by simp [member])⟩
  · rintro (leaves | ⟨idle, before, last, after, rfl, leaves, noneLater⟩)
    · exact ⟨edits, edit, [], rfl, leaves, by simp⟩
    · refine ⟨before, last, after ++ [edit], by simp, leaves, ?_⟩
      rw [List.forall_mem_append, List.forall_mem_singleton]
      exact ⟨noneLater, idle⟩

theorem get?_apply_of_leaves {edit : Edit} {left : Option String} (leaves : edit.Leaves name left)
    (m : String) : (e.apply edit).get? m = if m = name then left else e.get? m := by
  cases leaves with
  | set _ value => exact get?_set e name value m
  | put value isVariable => rw [apply, put_variable e isVariable, get?_set]
  | unset => exact get?_unset e name m

theorem get?_apply_of_idle {edit : Edit} (idle : ∀ left, ¬edit.Leaves name left) :
    (e.apply edit).get? name = e.get? name := by
  have isOther : ∀ other left, edit.Leaves other left → name ≠ other := by
    rintro other left leaves rfl
    exact idle left leaves
  cases edit with
  | set other value => rw [get?_apply_of_leaves (.set other value), if_neg (isOther _ _ (.set ..))]
  | unset other => rw [get?_apply_of_leaves (.unset other), if_neg (isOther _ _ (.unset _))]
  | put entry =>
      by_cases isEntry : ∃ other value, IsVariable other ∧ entry = other ++ "=" ++ value
      · obtain ⟨other, value, isVariable, rfl⟩ := isEntry
        have leaves := Edit.Leaves.put value isVariable
        rw [get?_apply_of_leaves leaves, if_neg (isOther _ _ leaves)]
      · rw [apply, put_of_idle fun other value isVariable isWhole =>
          isEntry ⟨other, value, isVariable, isWhole⟩]

/-- An environment that is built from nothing holds what the edits have left. -/
theorem get?_edited {edits : List Edit} :
    (empty.edited edits).get? name = some value ↔ IsLeft edits name value := by
  induction edits using List.reverseRecOn with
  | nil =>
      constructor
      · nofun
      · rintro ⟨before, edit, after, isSplit, -⟩
        simp at isSplit
  | append_singleton edits edit ih =>
      rw [edited_concat, isLeft_concat]
      by_cases idle : ∀ left, ¬edit.Leaves name left
      · rw [get?_apply_of_idle idle, ih]
        simp [idle]
      · obtain ⟨left, leaves⟩ := not_forall_not.mp idle
        constructor
        · intro isFound
          rw [get?_apply_of_leaves leaves, if_pos rfl] at isFound
          exact .inl (isFound ▸ leaves)
        · rintro (leavesValue | ⟨idle, -⟩)
          · rw [get?_apply_of_leaves leavesValue, if_pos rfl]
          · exact absurd leaves (idle left)

/-! ## Keeping order -/

theorem IsSorted.apply (sorted : e.IsSorted) (edit : Edit) : (e.apply edit).IsSorted := by
  cases edit with
  | set name value => exact sorted.set name value
  | unset name => exact sorted.unset name
  | put entry =>
      rw [Environ.apply, put]
      split
      · exact sorted
      · exact sorted
      · exact sorted.set _ _

theorem IsSorted.edited (sorted : e.IsSorted) (edits : List Edit) : (e.edited edits).IsSorted := by
  induction edits generalizing e with
  | nil => exact sorted
  | cons edit rest ih => exact ih (sorted.apply edit)

theorem IsSorted.contains_iff (sorted : e.IsSorted) (name : String) :
    e.contains name = true ↔ name ∈ e.names := by
  rw [contains, Option.isSome_iff_exists, names, List.mem_map]
  constructor
  · rintro ⟨value, isFound⟩
    exact ⟨(name, value), (sorted.mem_iff name value).mpr isFound, rfl⟩
  · rintro ⟨⟨_, value⟩, member, rfl⟩
    exact ⟨value, (sorted.mem_iff _ value).mp member⟩

/-! ## Putting an environment together again -/

/-- A name that is set has to be one that can stand in front of an equals sign. -/
def Edit.IsProper : Edit → Prop
  | .set name _ => IsVariable name
  | .put _ => True
  | .unset _ => True

theorem Edit.Leaves.isVariable {edit : Edit} (leaves : edit.Leaves name (some value))
    (proper : edit.IsProper) : IsVariable name := by
  cases leaves with
  | set => exact proper
  | put _ isVariable => exact isVariable

theorem IsLeft.isVariable {edits : List Edit} (proper : ∀ edit ∈ edits, edit.IsProper)
    (isLeft : IsLeft edits name value) : IsVariable name := by
  obtain ⟨before, edit, after, rfl, leaves, -⟩ := isLeft
  exact leaves.isVariable (proper edit (by simp))

theorem get?_of_mem_ofList {entries : List (String × String)}
    (distinct : (entries.map Prod.fst).Nodup) (member : (name, value) ∈ entries) :
    (ofList entries).get? name = some value := by
  induction entries using List.reverseRecOn with
  | nil => cases member
  | append_singleton entries entry ih =>
      rw [ofList, List.foldl_append]
      rw [List.map_append, List.nodup_append] at distinct
      obtain ⟨distinct, -, apart⟩ := distinct
      refine (get?_set _ entry.1 entry.2 name).trans ?_
      rcases List.mem_append.mp member with earlier | isLast
      · have isOther : name ≠ entry.1 :=
          apart name (List.mem_map_of_mem earlier) entry.1 (by simp)
        rw [if_neg isOther]
        exact ih distinct earlier
      · obtain rfl := List.mem_singleton.mp isLast
        exact if_pos rfl

theorem mem_ofList {entries : List (String × String)} {entry : String × String}
    (member : entry ∈ (ofList entries).entries) : entry ∈ entries := by
  induction entries using List.reverseRecOn with
  | nil => cases member
  | append_singleton entries last ih =>
      rw [ofList, List.foldl_append] at member
      rcases mem_insert member with rfl | earlier
      · exact List.mem_append_right _ List.mem_cons_self
      · exact List.mem_append_left _ (ih earlier)

/-- The entries of an environment in order make it up again, in whatever order they are taken. -/
theorem IsSorted.ofList_perm (sorted : e.IsSorted) {entries : List (String × String)}
    (shuffled : entries.Perm e.entries) : ofList entries = e := by
  have distinct : (entries.map Prod.fst).Nodup := by
    refine (shuffled.map Prod.fst).nodup_iff.mpr (List.pairwise_map.mpr ?_)
    exact sorted.imp fun isBefore => isBefore.ne
  have isFound : ∀ name value,
      (ofList entries).get? name = some value ↔ e.get? name = some value := by
    intro name value
    rw [← sorted.mem_iff, ← shuffled.mem_iff]
    constructor
    · exact fun found => mem_ofList (((isSorted_ofList entries).mem_iff name value).mpr found)
    · exact get?_of_mem_ofList distinct
  exact (isSorted_ofList entries).ext sorted fun name => Option.ext (isFound name)

/-- The edits by which an environment is taken over, the working directory last. -/
def taking (entries : List (String × String)) (directory : Option String) : List Edit :=
  (entries.map fun entry => .set entry.1 entry.2) ++ directory.toList.map (.set "PWD")

theorem edited_taking (entries : List (String × String)) (directory : Option String) :
    empty.edited (taking entries directory) = (ofList entries).withDirectory directory := by
  rw [taking, edited, List.foldl_append, List.foldl_map, List.foldl_map]
  cases directory <;> rfl

theorem isProper_of_taking {entries : List (String × String)} {directory : Option String}
    (named : ∀ entry ∈ entries, IsVariable entry.1) :
    ∀ edit ∈ taking entries directory, edit.IsProper := by
  intro edit member
  rcases List.mem_append.mp member with isEntry | isDirectory
  · obtain ⟨entry, listed, rfl⟩ := List.mem_map.mp isEntry
    exact named entry listed
  · obtain ⟨path, -, rfl⟩ := List.mem_map.mp isDirectory
    show IsVariable "PWD"
    decide

/-- The entry that sets a variable to a value. -/
def assignment (entry : String × String) : String :=
  entry.1 ++ "=" ++ entry.2

theorem edited_entries {entries : List (String × String)}
    (areVariables : ∀ entry ∈ entries, IsVariable entry.1) :
    empty.edited (entries.map fun entry => .put (assignment entry)) = ofList entries := by
  rw [edited, ofList, List.foldl_map]
  exact List.foldl_ext _ _ _ fun e entry member =>
    put_variable e (areVariables entry member) entry.2

/-- An environment that is taken over and then edited in any way stays in strict order. Under each
    name it holds what was written there last and has not been unset since, its ways of being read
    agree, and its own variables, put as entries in whatever order, make it up again. -/
theorem edited_snapshot (entries : List (String × String)) (directory : Option String)
    (edits : List Edit) (named : ∀ entry ∈ entries, IsVariable entry.1)
    (proper : ∀ edit ∈ edits, edit.IsProper) :
    let e := ((ofList entries).withDirectory directory).edited edits
    e.IsSorted ∧
    (∀ name value, (name, value) ∈ e.entries ↔
      IsLeft (taking entries directory ++ edits) name value) ∧
    (∀ name value, (name, value) ∈ e.entries ↔ e.get? name = some value) ∧
    (∀ name, e.contains name = true ↔ name ∈ e.names) ∧
    e.names = e.entries.map Prod.fst ∧ e.size = e.entries.length ∧
    ∀ shuffled : List (String × String), shuffled.Perm e.entries →
      empty.edited (shuffled.map fun entry => .put (assignment entry)) = e := by
  intro e
  have isBuilt : empty.edited (taking entries directory ++ edits) = e := by
    rw [edited, List.foldl_append]
    exact congrArg (edited · edits) (edited_taking entries directory)
  have sorted : e.IsSorted := isBuilt ▸ isSorted_empty.edited _
  have isLeft : ∀ name value, (name, value) ∈ e.entries ↔
      IsLeft (taking entries directory ++ edits) name value := by
    intro name value
    rw [sorted.mem_iff, ← isBuilt, get?_edited]
  have allProper : ∀ edit ∈ taking entries directory ++ edits, edit.IsProper := by
    rw [List.forall_mem_append]
    exact ⟨isProper_of_taking named, proper⟩
  refine ⟨sorted, isLeft, sorted.mem_iff, fun name => ?_, rfl, rfl, fun shuffled isPerm => ?_⟩
  · exact sorted.contains_iff name
  · have areVariables : ∀ entry ∈ shuffled, IsVariable entry.1 := fun entry member =>
      ((isLeft entry.1 entry.2).mp (isPerm.mem_iff.mp member)).isVariable allProper
    rw [edited_entries areVariables, sorted.ofList_perm isPerm]

/-- Values may be empty or hold an equals sign; what is no entry is passed over. -/
theorem edited_snapshot_awkward :
    (∀ entry ∈ [("A", "1"), ("PWD", "/old")], IsVariable entry.1) ∧
      (∀ edit ∈ [Edit.put "B=x=y", .put "=z", .put "A", .unset "A", .put "C="],
        edit.IsProper) ∧
      (∀ name value, (name, value) ∈ [("B", "x=y"), ("C", ""), ("PWD", "/work")] ↔
        IsLeft (taking [("A", "1"), ("PWD", "/old")] (some "/work") ++
          [.put "B=x=y", .put "=z", .put "A", .unset "A", .put "C="]) name value) ∧
      empty.edited [.put "PWD=/work", .put "C=", .put "B=x=y"] =
        ⟨[("B", "x=y"), ("C", ""), ("PWD", "/work")]⟩ := by
  have named : ∀ entry ∈ [("A", "1"), ("PWD", "/old")], IsVariable entry.1 := by decide
  have proper : ∀ edit ∈ [Edit.put "B=x=y", .put "=z", .put "A", .unset "A", .put "C="],
      edit.IsProper := by
    simp [Edit.IsProper]
  obtain ⟨-, isLeft, -, -, -, -, again⟩ := edited_snapshot [("A", "1"), ("PWD", "/old")]
    (some "/work") [.put "B=x=y", .put "=z", .put "A", .unset "A", .put "C="] named proper
  have isSnapshot : (((ofList [("A", "1"), ("PWD", "/old")]).withDirectory (some "/work")).edited
      [.put "B=x=y", .put "=z", .put "A", .unset "A", .put "C="]) =
      ⟨[("B", "x=y"), ("C", ""), ("PWD", "/work")]⟩ := by decide
  rw [isSnapshot] at isLeft again
  exact ⟨named, proper, isLeft, again [("PWD", "/work"), ("C", ""), ("B", "x=y")] (by decide)⟩

end Environ

end MuxLaunch
