import MuxLaunch.Proofs.Command.FlagWords
import MuxLaunch.Proofs.Options.Reading

/-! # What setting an option comes to

Setting an option by a command compared with a description of it that knows nothing of how flags are
read. The two agree but for words of flags with an equals sign behind the first letter, which are
accepted as if the sign were not there.
-/

namespace MuxLaunch

/-- How a command is refused: it is misused, or an option is not as it is said to be. -/
inductive Refusal where
  | usage
  | option (name message : String)
  deriving Repr, DecidableEq

def CommandFault.refusal : CommandFault → Refusal
  | option f => .option f.name f.message
  | _ => .usage

namespace SetOption

/-- What a caller sees of a command: the trees after it, or how it is refused. -/
def outcome (ts : OptionTrees) (words : List String) : Except Refusal OptionTrees :=
  ((run ts words).map (·.1)).mapError CommandFault.refusal

/-- The scope of the tree to set an option in: the server's with `s`, else the window's with `w`,
    else the one that the schema gives. -/
def scopeFor (letters : List Char) (name : String) : Option Scope :=
  if 's' ∈ letters then some .server
  else if 'w' ∈ letters then some .window
  else (OptionEntry.find? name).map (·.scope)

/-- The option in the tree to set it in, if that has it. -/
def find? (ts : OptionTrees) (letters : List Char) (name : String) : Option (Scope × OptionEntry) :=
  (scopeFor letters name).bind fun scope =>
    (OptionTree.entry? (ts.tree scope) name).map fun e => (scope, e)

/-- Set an option, given the letters of the flags. An option that is not in the tree is refused, or
    passed over with `q`. With `u` the default is stored, and a value is refused. -/
def store (ts : OptionTrees) (letters : List Char) (name : String) (value : Option String) :
    Except Refusal OptionTrees :=
  match find? ts letters name with
  | none =>
      if 'q' ∈ letters then .ok ts else .error (.option name ("invalid option: " ++ name))
  | some (scope, e) =>
      let t := ts.tree scope
      if 'u' ∈ letters then
        if value.isSome then .error .usage else .ok (ts.setTree scope (t.put name e.default))
      else
        match e.kind.read name (t.value? name) value with
        | .error f => .error (.option f.name f.message)
        | .ok v => .ok (ts.setTree scope (t.put name v))

/-- The command as described: flag words, then an option, then perhaps a value. -/
def described (ts : OptionTrees) (words : List String) : Except Refusal OptionTrees :=
  let flags := (flagWords words).filter (· ≠ "--")
  let letters := flags.flatMap (·.toList.tail)
  if !flags.all isFlagWord then .error .usage
  else
    match words.drop (flagWords words).length with
    | [name] => store ts letters name none
    | [name, value] => store ts letters name (some value)
    | _ => .error .usage

/-- The words with no sign in the flag words to be passed over. -/
def withoutSigns (words : List String) : List String :=
  (flagWords words).map withoutSign ++ words.drop (flagWords words).length

theorem flagWords_withoutSigns (words : List String) :
    flagWords (withoutSigns words) = (flagWords words).map withoutSign := by
  induction words with
  | nil => rfl
  | cons word rest ih =>
      cases dashed : isDashed word with
      | false =>
          have noFlags := flagWords_stop dashed rest
          have same : withoutSigns (word :: rest) = word :: rest := by simp [withoutSigns, noFlags]
          rw [same, noFlags]
          rfl
      | true =>
          by_cases double : word = "--"
          · have isDouble : withoutSign word = "--" := withoutSign_eq_doubleDash.mpr double
            subst double
            simp [withoutSigns, flagWords_doubleDash, isDouble]
          · have goesOn := flagWords_cons dashed double rest
            have same : withoutSigns (word :: rest) = withoutSign word :: withoutSigns rest := by
              simp [withoutSigns, goesOn]
            have dashed' : isDashed (withoutSign word) = true := by
              rw [isDashed_withoutSign, dashed]
            rw [same, flagWords_cons dashed' (mt withoutSign_eq_doubleDash.mp double), ih, goesOn]
            rfl

theorem drop_withoutSigns (words : List String) :
    (withoutSigns words).drop (flagWords (withoutSigns words)).length =
      words.drop (flagWords words).length := by
  rw [flagWords_withoutSigns, withoutSigns, List.drop_left]

theorem filter_map_withoutSign (flags : List String) :
    (flags.map withoutSign).filter (· ≠ "--") = (flags.filter (· ≠ "--")).map withoutSign := by
  rw [List.filter_map]
  congr 2
  funext word
  simp [withoutSign_eq_doubleDash]

theorem scopeOf_letters (letters : List Char) (name : String) :
    scopeOf (letters.foldl .act {}) name =
      match scopeFor letters name with
      | some scope => .ok scope
      | none => .error (.invalid name) := by
  simp only [scopeOf, scopeFor, SetOptionFlags.foldl_act, Bool.false_or, List.contains_iff_mem]
  by_cases forServer : 's' ∈ letters
  · simp only [if_pos forServer]
  · by_cases forWindow : 'w' ∈ letters
    · simp only [if_neg forServer, if_pos forWindow]
    · simp only [if_neg forServer, if_neg forWindow]
      cases OptionEntry.find? name with
      | none => rfl
      | some e => rfl

/-- The tree that is selected is the one in which the option is found. -/
theorem select_letters (ts : OptionTrees) (letters : List Char) (name : String) :
    select ts (letters.foldl .act {}) name =
      match find? ts letters name with
      | some (scope, _) => .ok scope
      | none => .error (.invalid name) := by
  unfold select find?
  rw [scopeOf_letters]
  cases scopeFor letters name with
  | none => rfl
  | some scope =>
      simp only [bind, Except.bind, Option.bind]
      rw [OptionTree.contains]
      cases OptionTree.entry? (ts.tree scope) name with
      | none => rfl
      | some e => rfl

theorem entry_of_find? {ts : OptionTrees} {letters : List Char} {name : String} {scope : Scope}
    {e : OptionEntry} (found : find? ts letters name = some (scope, e)) :
    OptionTree.entry? (ts.tree scope) name = some e := by
  obtain ⟨scope', -, listed⟩ := Option.bind_eq_some_iff.mp found
  obtain ⟨e', listed, same⟩ := Option.map_eq_some_iff.mp listed
  cases same
  exact listed

theorem assign_eq_store (ts : OptionTrees) (letters : List Char) (name : String)
    (value : Option String) :
    ((assign ts (letters.foldl .act {}) name value).map (·.1)).mapError CommandFault.refusal =
      store ts letters name value := by
  unfold assign store
  rw [select_letters]
  simp only [SetOptionFlags.foldl_act, Bool.false_or, List.contains_iff_mem]
  cases found : find? ts letters name with
  | none =>
      by_cases isQuiet : 'q' ∈ letters
      · simp only [if_pos isQuiet]
        rfl
      · simp only [if_neg isQuiet]
        rfl
  | some place =>
      obtain ⟨scope, e⟩ := place
      have listed := entry_of_find? found
      by_cases resets : 'u' ∈ letters
      · simp only [if_pos resets, OptionTree.reset_eq listed]
        cases value with
        | none => rfl
        | some _ => rfl
      · simp only [if_neg resets, OptionTree.parse_eq listed]
        cases e.kind.read name ((ts.tree scope).value? name) value with
        | error f => rfl
        | ok v => rfl

theorem outcome_eq (ts : OptionTrees) (words : List String) :
    outcome ts words = described ts (withoutSigns words) := by
  unfold outcome run described
  rw [splitFlags_eq, drop_withoutSigns, flagWords_withoutSigns, filter_map_withoutSign]
  have dashed : ∀ word ∈ (flagWords words).filter (· ≠ "--"), isDashed word := fun word listed =>
    isDashed_of_mem (List.mem_filter.mp listed).1
  -- From here on only the flag words and what is behind them matter.
  generalize (flagWords words).filter (· ≠ "--") = flags at dashed ⊢
  generalize words.drop (flagWords words).length = rest
  cases areFlags : (flags.map withoutSign).all isFlagWord with
  | false =>
      obtain ⟨f, failed⟩ := SetOptionFlags.readWords_of_other dashed (by simpa using areFlags) [] {}
      simp only [failed, areFlags]
      rfl
  | true =>
      have read := SetOptionFlags.readWords_of_flags (by simpa using areFlags) {}
      simp only [read, areFlags, List.flatMap_map]
      match rest with
      | [] => rfl
      | [name] => exact assign_eq_store ts _ name none
      | [name, value] => exact assign_eq_store ts _ name (some value)
      | _ :: _ :: _ :: _ => rfl

/-- A word with a sign is no flag word as it stands. -/
theorem described_of_sign (ts : OptionTrees) {words : List String}
    (hasSign : withoutSigns words ≠ words) : described ts words = .error .usage := by
  obtain ⟨word, listed, changes⟩ : ∃ word ∈ flagWords words, withoutSign word ≠ word := by
    by_contra noneChanges
    have same : ∀ word ∈ flagWords words, withoutSign word = word := fun word listed =>
      Classical.not_not.mp fun changes => noneChanges ⟨word, listed, changes⟩
    refine hasSign ?_
    rw [withoutSigns, List.map_congr_left same, List.map_id', flagWords_append]
  have single : word ≠ "--" := fun isDouble =>
    changes ((withoutSign_eq_doubleDash.mpr isDouble).trans isDouble.symm)
  have isOther : ∃ word ∈ (flagWords words).filter (· ≠ "--"), isFlagWord word = false :=
    ⟨word, List.mem_filter.mpr ⟨listed, by simpa using single⟩, isFlagWord_of_sign changes⟩
  have notAll : ((flagWords words).filter (· ≠ "--")).all isFlagWord = false := by
    simpa [and_assoc] using isOther
  rw [described, notAll]
  rfl

/-- A command does what is described for its words without the signs that are passed over. So it
    does what is described for the words themselves unless there is such a sign and the command is
    not misused in another way. -/
theorem outcome_agrees (ts : OptionTrees) (words : List String) :
    outcome ts words = described ts (withoutSigns words) ∧
    (outcome ts words = described ts words ↔
      (withoutSigns words = words ∨ described ts (withoutSigns words) = .error .usage)) := by
  refine ⟨outcome_eq ts words, ?_⟩
  rw [outcome_eq]
  constructor
  · intro agrees
    by_cases hasSign : withoutSigns words = words
    · exact .inl hasSign
    · exact .inr (agrees.trans (described_of_sign ts hasSign))
  · rintro (noSign | isUsage)
    · rw [noSign]
    · by_cases hasSign : withoutSigns words = words
      · rw [hasSign]
      · rw [isUsage, described_of_sign ts hasSign]

/-- With a sign in its flag word a misused command passes, and the option that no tree has is passed
    over. -/
theorem outcome_signOverlooked :
    let ts := OptionTrees.initial .empty "/bin/sh" none
    let words := ["-g=q", "no-such-option", "1"]
    outcome ts words = .ok ts ∧ described ts words = .error .usage := by
  decide +kernel

end SetOption

end MuxLaunch
