import MuxLaunch.Proofs.Options.Puts

/-! # What an option makes of a text

A row of the schema alone says what becomes of a text that an option is set from, given the value
that the option holds. Setting an option in a tree is reading the text and putting the result.
-/

namespace MuxLaunch

namespace OptionKind

/-- The number that a text stands for, if it is within bounds. -/
def readNumber (name : String) (minimum maximum : Int) (given : String) :
    Except OptionFault OptionValue :=
  match Text.Integer.read 10 given.toList with
  | .error _ => .error (.malformedNumber name given)
  | .ok n =>
      if n < minimum then .error (.tooSmall name n)
      else if maximum < n then .error (.tooLarge name n)
      else .ok (.number n)

/-- The value of a switch after a text. Without a text, or with an empty one, it is toggled. -/
def readFlag (name : String) (held : Option OptionValue) (given : String) :
    Except OptionFault OptionValue :=
  if given = "" then
    match held with
    | some v => .ok (.flag !v.isTrue)
    | none => .error (.missing name)
  else
    match OptionTree.flagOfText? given with
    | some b => .ok (.flag b)
    | none => .error (.badFlag name given)

/-- Read a text as a kind of option does. Only a switch looks at the value that is held. -/
def read (name : String) (held : Option OptionValue) :
    OptionKind → Option String → Except OptionFault OptionValue
  | flag, given => readFlag name held (given.getD "")
  | _, none => .error (.noValue name)
  | number minimum maximum, some given => readNumber name minimum maximum given
  | choice choices, some given =>
      if choices.contains given then .ok (.text given) else .error (.unknownValue name given)
  | text, some given => .ok (.text given)

/-- A value that is held is not found missing. -/
theorem read_ne_missing (name : String) {held : Option OptionValue} (isHeld : held.isSome)
    (kind : OptionKind) (given : Option String) (other : String) :
    kind.read name held given ≠ .error (.missing other) := by
  obtain ⟨v, rfl⟩ := Option.isSome_iff_exists.mp isHeld
  intro isMissing
  cases kind with
  | flag =>
      simp only [read, readFlag] at isMissing
      split at isMissing
      · cases isMissing
      · split at isMissing <;> cases isMissing
  | text => cases given <;> cases isMissing
  | number minimum maximum =>
      cases given with
      | none => cases isMissing
      | some given =>
          simp only [read, readNumber] at isMissing
          split at isMissing
          · cases isMissing
          · split at isMissing
            · cases isMissing
            · split at isMissing <;> cases isMissing
  | choice choices =>
      cases given with
      | none => cases isMissing
      | some given =>
          simp only [read] at isMissing
          split at isMissing <;> cases isMissing

end OptionKind

namespace OptionTree

variable {t : OptionTree} {name : String} {e : OptionEntry}

theorem entry_of_listed (listed : t.entry? name = some e) : t.entry name = .ok e :=
  entry_eq_ok.mpr listed

theorem get_of_listed (listed : t.entry? name = some e) :
    t.get name = match t.value? name with
      | some v => .ok v
      | none => .error (.missing name) := by
  rw [get, entry_of_listed listed]
  rfl

theorem setFlag_eq (listed : t.entry? name = some e) (given : Option String) :
    t.setFlag name given =
      (OptionKind.readFlag name (t.value? name) (given.getD "")).map (t.put name) := by
  unfold setFlag OptionKind.readFlag
  split
  · rename_i isEmpty
    rw [if_pos isEmpty, get_of_listed listed]
    cases t.value? name with
    | none => rfl
    | some v => rfl
  · rename_i notEmpty
    rw [if_neg notEmpty]
    cases flagOfText? (given.getD "") with
    | none => rfl
    | some b => rfl

theorem setNumber_eq (found : t.entry name = .ok e) {minimum maximum : Int}
    (isNumber : e.kind = .number minimum maximum) (n : Int) :
    t.setNumber name n =
      if n < minimum then .error (.tooSmall name n)
      else if maximum < n then .error (.tooLarge name n)
      else .ok (t.put name (.number n)) := by
  simp only [setNumber, found, isNumber, bind, Except.bind]
  rfl

/-- Setting an option from a text is reading the text and putting what it comes to. -/
theorem parse_eq (listed : t.entry? name = some e) (given : Option String) :
    t.parse name given = (e.kind.read name (t.value? name) given).map (t.put name) := by
  have found := entry_of_listed listed
  unfold parse
  rw [found]
  simp only [bind, Except.bind]
  cases isKind : e.kind with
  | flag => exact setFlag_eq listed given
  | text =>
      cases given with
      | none => rfl
      | some given =>
          simp only [setText, found, isKind, OptionKind.read, bind, Except.bind]
          rfl
  | choice choices =>
      cases given with
      | none => rfl
      | some given =>
          simp only [setText, found, isKind, OptionKind.read, bind, Except.bind]
          split <;> rfl
  | number minimum maximum =>
      cases given with
      | none => rfl
      | some given =>
          simp only [OptionKind.read, OptionKind.readNumber]
          cases Text.Integer.read 10 given.toList with
          | error f => rfl
          | ok n =>
              simp only [setNumber_eq found isKind]
              split
              · rfl
              · split
                · rfl
                · rfl

theorem reset_eq (listed : t.entry? name = some e) :
    t.reset name = .ok (t.put name e.default) := by
  rw [reset, entry_of_listed listed]
  rfl

end OptionTree

end MuxLaunch
