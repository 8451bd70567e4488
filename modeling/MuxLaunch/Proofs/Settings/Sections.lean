import MuxLaunch.Settings.Basic
import MuxLaunch.Proofs.Settings.Writing
import MuxLaunch.Proofs.Steps

/-! # What a mapping comes to as settings

Each setting depends on one key of one section alone. A section may be missing, and one that counts
as false, such as an empty sequence, is passed over as if it were; anything else that is no mapping
is an error.
-/

namespace MuxLaunch.Settings

variable {entries : Entries} {name key : String}

/-- The entries of a section, if there is such a section. -/
def sectionEntries (entries : Entries) (name : String) : Entries :=
  match find? entries name with
  | some (.mapping inner) => inner
  | _ => []

/-- What a key of a section holds, if there is such a section and it has the key. -/
def setting? (entries : Entries) (name key : String) : Option Yaml.Value :=
  find? (sectionEntries entries name) key

def textAt (entries : Entries) (name key default : String) : String :=
  match setting? entries name key with
  | some v => String.ofList v.text
  | none => default

def flagAt (entries : Entries) (name key : String) (default : Bool) : Bool :=
  match setting? entries name key with
  | some v => v.isTrue
  | none => default

/-- The settings in a mapping, each from its own key or else with its default. -/
def gathered (entries : Entries) : Settings :=
  let standard : Settings := {}
  { journal := {
      level := textAt entries "logging" "level" standard.journal.level
      file := (setting? entries "logging" "file").getD standard.journal.file
      format := textAt entries "logging" "format" standard.journal.format }
    profile := {
      randomizeLabel := flagAt entries "runtime" "randomize_label" standard.profile.randomizeLabel
      forceCapabilities :=
        flagAt entries "runtime" "force_capabilities" standard.profile.forceCapabilities
      directoryStart := textAt entries "runtime" "socket_prefix" standard.profile.directoryStart
      fallbackShell := textAt entries "runtime" "fallback_shell" standard.profile.fallbackShell } }

/-- Something that is asked of a mapping. -/
inductive Demand where
  /-- A section is a mapping, unless it counts as false. -/
  | isSection (name : String)
  /-- The value of a key, if it is given, has a text. -/
  | hasText (name key : String)
  deriving Repr, DecidableEq

/-- All that is asked of a mapping, in this order. -/
def demands : List Demand :=
  [.isSection "logging", .hasText "logging" "level", .hasText "logging" "format",
    .isSection "runtime", .hasText "runtime" "socket_prefix", .hasText "runtime" "fallback_shell"]

/-- Why a mapping does not meet a demand. -/
def Demand.fault? (room : Nat) (entries : Entries) : Demand → Option SettingsFault
  | .isSection name =>
      match find? entries name with
      | none | some (.mapping _) => none
      | some v => if v.isTrue then some (.badSection name) else none
  | .hasText name key =>
      match setting? entries name key with
      | none => none
      | some v =>
          match v.text? room with
          | .error f => some (.unwritable f)
          | .ok _ => none

variable {room : Nat}

/-- What is given for a text has one: it is a text, or there is room for its depth and none of its
    numbers is too long. -/
theorem Demand.fault?_hasText : (Demand.hasText name key).fault? room entries = none ↔
    ∀ v, setting? entries name key = some v →
      (∃ s, v = .scalar (.text s)) ∨ Yaml.IsWritten room v.depth v.numbers := by
  simp only [fault?]
  cases setting? entries name key with
  | none => exact ⟨fun _ => nofun, fun _ => rfl⟩
  | some v =>
      simp only [Option.some.injEq, forall_eq', ← Yaml.Value.text?_isOk]
      cases v.text? room with
      | error f => exact ⟨nofun, fun ⟨_, isText⟩ => nomatch isText⟩
      | ok text => exact ⟨fun _ => ⟨text, rfl⟩, fun _ => rfl⟩

/-- A step that fails with a fault, if there is one, and otherwise comes to a value. -/
def stepOf {α : Type} (fault? : Option SettingsFault) (a : α) : Except SettingsFault α :=
  match fault? with
  | some f => .error f
  | none => .ok a

theorem sectionOf_eq (room : Nat) (entries : Entries) (name : String) :
    sectionOf entries name =
      stepOf ((Demand.isSection name).fault? room entries) (sectionEntries entries name) := by
  unfold sectionOf sectionEntries
  simp only [Demand.fault?]
  cases find? entries name with
  | none => rfl
  | some v =>
      cases v with
      | mapping inner => cases inner <;> rfl
      | scalar | sequence | set | pairs | knot =>
          dsimp only
          split
          · rename_i isFalse
            rw [if_neg (by simpa using isFalse)]
            rfl
          · rename_i isTrue
            rw [if_pos (by simpa using isTrue)]
            rfl

theorem textOf_eq (room : Nat) (entries : Entries) (name key default : String) :
    textOf room (sectionEntries entries name) key default =
      stepOf ((Demand.hasText name key).fault? room entries)
        (textAt entries name key default) := by
  have sameText : ∀ {v : Yaml.Value} {text : List Char}, v.text? room = .ok text →
      text = v.text := by
    intro v text isText
    unfold Yaml.Value.text? at isText
    split at isText
    · cases isText
      rfl
    · split at isText
      · cases isText
      · cases isText
        rfl
  unfold textOf textAt
  simp only [Demand.fault?]
  rw [← setting?]
  cases setting? entries name key with
  | none => rfl
  | some v =>
      dsimp only
      cases isText : v.text? room with
      | error f => rfl
      | ok text => rw [sameText isText]; rfl

theorem flagOf_eq (entries : Entries) (name key : String) (default : Bool) :
    flagOf (sectionEntries entries name) key default = flagAt entries name key default := by
  rw [flagOf, flagAt, ← setting?]
  cases setting? entries name key <;> rfl

/-- A section that counts as false has no entries, whatever it is. -/
theorem sectionEntries_of_isFalse {v : Yaml.Value} (isFound : find? entries name = some v)
    (isFalse : v.isTrue = false) : sectionEntries entries name = [] := by
  rw [sectionEntries, isFound]
  cases v with
  | mapping inner => simpa [Yaml.Value.isTrue] using isFalse
  | _ => rfl

/-- What comes of a mapping of which so much is still to be asked. -/
def outcome (room : Nat) (entries : Entries) (asked : List Demand) :
    Except SettingsFault Settings :=
  stepOf (asked.findSome? (Demand.fault? room entries)) (gathered entries)

/-- A step that meets a demand, or else fails with its fault, comes first. -/
theorem bind_eq_outcome {α : Type} {d : Demand} {asked : List Demand} {a : α}
    {x : Except SettingsFault α} {next : α → Except SettingsFault Settings}
    (first : x = stepOf (d.fault? room entries) a) (goesOn : next a = outcome room entries asked) :
    (x >>= next) = outcome room entries (d :: asked) := by
  rw [first, outcome, List.findSome?_cons]
  cases d.fault? room entries with
  | some f => rfl
  | none => exact goesOn

theorem ofEntries_eq (room : Nat) (entries : Entries) :
    ofEntries room entries = outcome room entries demands := by
  refine bind_eq_outcome (sectionOf_eq room entries "logging") ?_
  refine bind_eq_outcome (textOf_eq room entries "logging" "level" _) ?_
  refine bind_eq_outcome (textOf_eq room entries "logging" "format" _) ?_
  refine bind_eq_outcome (sectionOf_eq room entries "runtime") ?_
  refine bind_eq_outcome (textOf_eq room entries "runtime" "socket_prefix" _) ?_
  refine bind_eq_outcome (textOf_eq room entries "runtime" "fallback_shell" _) ?_
  rw [flagOf_eq, flagOf_eq]
  rfl

/-- A mapping is read as settings just when it meets all demands; otherwise the fault of the first
    one that it does not meet is the outcome. Each setting comes from its own key or has its
    default. A text can be anything that is not nested too deep and holds no number of too many
    digits. What counts as false in place of a section is no fault: its settings keep their
    defaults. -/
theorem ofEntries_gathers (room : Nat) (entries : Entries) :
    (ofEntries room entries = match demands.findSome? (Demand.fault? room entries) with
      | some f => .error f
      | none => .ok (gathered entries)) ∧
    (∀ name key, (Demand.hasText name key).fault? room entries = none ↔
      ∀ v, setting? entries name key = some v →
        (∃ s, v = .scalar (.text s)) ∨ Yaml.IsWritten room v.depth v.numbers) ∧
    ∀ name v, find? entries name = some v → v.isTrue = false →
      (Demand.isSection name).fault? room entries = none ∧
        ∀ key, setting? entries name key = none := by
  refine ⟨ofEntries_eq room entries, fun _ _ => Demand.fault?_hasText,
    fun name v isFound isFalse => ?_⟩
  have noEntries := sectionEntries_of_isFalse isFound isFalse
  refine ⟨?_, fun key => by rw [setting?, noEntries]; rfl⟩
  simp only [Demand.fault?, isFound]
  split
  · rfl
  · rfl
  · rename_i same
    cases same
    rw [if_neg (by simp [isFalse])]

/-- An empty sequence is neither null nor a mapping, and is passed over all the same. -/
theorem ofEntries_emptySequence :
    (Yaml.Value.sequence [] ≠ .null ∧ ∀ inner, Yaml.Value.sequence [] ≠ .mapping inner) ∧
      ofEntries Yaml.Limits.standard.writing [(.text "logging", .sequence [])] = .ok {} :=
  ⟨⟨nofun, nofun⟩, rfl⟩

end MuxLaunch.Settings
