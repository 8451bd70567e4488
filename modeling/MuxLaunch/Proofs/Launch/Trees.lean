import MuxLaunch.Proofs.Command.Conformance
import MuxLaunch.Proofs.Files.Entry
import MuxLaunch.Proofs.Launch.Capabilities
import MuxLaunch.Proofs.Launch.HandOff
import MuxLaunch.Proofs.Socket.RuntimeDirectory

/-! # The trees in a context

A launch fills the trees from the schema and changes at most three options: the shell, and the two
key tables if there is an editor in the environment. What is given for an option that waits is not
among them yet.
-/

namespace MuxLaunch

namespace OptionTree

theorem value?_ofScope {row : OptionEntry} (listed : row ∈ OptionEntry.schema) :
    (ofScope row.scope).value? row.name = some row.default :=
  lookup_map_of_nodup (OptionEntry.nodup_names_ofScope row.scope)
    (OptionEntry.mem_ofScope.mpr ⟨listed, rfl⟩)

end OptionTree

namespace KeyTable

/-- The table that suits an editor is the one of vi if the last part of the editor's path contains
    that name. -/
def Suits (keys : KeyTable) (editor : String) : Prop :=
  keys = vi ↔ ∃ part, Text.IsLastPart '/' part editor.toList ∧ "vi".toList <:+: part

theorem suits_ofEditor (editor : String) : (ofEditor editor).Suits editor := by
  have isVi : ofEditor editor = vi ↔ "vi".toList <:+: Text.afterLast '/' editor.toList := by
    rw [← Text.occurs_iff, ofEditor]
    split
    · rename_i occurs
      exact iff_of_true rfl occurs
    · rename_i absent
      exact iff_of_false nofun absent
  rw [Suits, isVi]
  constructor
  · intro contained
    exact ⟨_, Text.afterLast_eq_iff.mp rfl, contained⟩
  · rintro ⟨part, isLast, contained⟩
    rwa [Text.afterLast_eq_iff.mpr isLast]

end KeyTable

namespace Environ

/-- The editor in the environment: the visual one if it is set, even to nothing, else the other. -/
def editor? (e : Environ) : Option String :=
  e.get? "VISUAL" <|> e.get? "EDITOR"

end Environ

theorem KeyTable.ofEnviron?_eq (e : Environ) : ofEnviron? e = e.editor?.map ofEditor := by
  unfold ofEnviron? Environ.editor?
  cases e.get? "VISUAL" <;> rfl

namespace OptionTrees

/-- The trees that a launch builds in an environment. -/
def atLaunch (e : Environ) (shell : String) (directory : Option String) : OptionTrees :=
  ((initial e shell directory).withEditorKeys e).1

variable (e : Environ) (shell : String) (directory : Option String)

theorem value?_initial {row : OptionEntry} (listed : row ∈ OptionEntry.schema) :
    ((initial e shell directory).tree row.scope).value? row.name =
      some (if row.name = "default-shell" then .text shell else row.default) := by
  have ofSession : ∀ row ∈ OptionEntry.schema, row.name = "default-shell" → row.scope = .session :=
    by decide
  have isDefault := OptionTree.value?_ofScope listed
  by_cases isShell : row.name = "default-shell"
  · rw [ofSession row listed isShell, isShell] at isDefault
    rw [if_pos isShell, ofSession row listed isShell, isShell]
    exact OptionTree.value?_put_self (isDefault ▸ rfl)
  · rw [if_neg isShell]
    cases isScope : row.scope with
    | server =>
        rw [isScope] at isDefault
        exact isDefault
    | session =>
        rw [isScope] at isDefault
        exact (OptionTree.value?_put_of_ne isShell).trans isDefault
    | window =>
        rw [isScope] at isDefault
        exact isDefault

/-- No option but the two for key tables changes its value. -/
theorem value?_withKeys (ts : OptionTrees) (keys : KeyTable) {scope : Scope} {name : String}
    (other : name ≠ "status-keys" ∧ name ≠ "mode-keys") :
    ((ts.withKeys keys).tree scope).value? name = (ts.tree scope).value? name := by
  cases scope with
  | server => rfl
  | session => exact OptionTree.value?_put_of_ne other.1
  | window => exact OptionTree.value?_put_of_ne other.2

theorem atLaunch_of_editor {editor : String} (isEditor : e.editor? = some editor) :
    atLaunch e shell directory =
      (initial e shell directory).withKeys (KeyTable.ofEditor editor) := by
  rw [atLaunch, withEditorKeys, KeyTable.ofEnviron?_eq, isEditor]
  rfl

theorem atLaunch_of_none (noEditor : e.editor? = none) :
    atLaunch e shell directory = initial e shell directory := by
  rw [atLaunch, withEditorKeys, KeyTable.ofEnviron?_eq, noEditor]
  rfl

theorem isFilled_atLaunch : (atLaunch e shell directory).IsFilled :=
  (isFilled_initial e shell directory).withEditorKeys e

/-- The trees hold the defaults of the schema but for the shell and, if there is an editor in the
    environment, the key tables. -/
structure HoldDefaultsBut (ts : OptionTrees) (shell : String) (e : Environ) : Prop where
  filled : ts.IsFilled
  shell : ts.session.value? "default-shell" = some (.text shell)
  keys : ∀ editor, e.editor? = some editor → ∃ keys : KeyTable, keys.Suits editor ∧
    ts.session.value? "status-keys" = some (.text keys.name) ∧
    ts.window.value? "mode-keys" = some (.text keys.name)
  others : ∀ row ∈ OptionEntry.schema, row.name ≠ "default-shell" →
    (row.name = "status-keys" ∨ row.name = "mode-keys" →
      e.get? "VISUAL" = none ∧ e.get? "EDITOR" = none) →
    (ts.tree row.scope).value? row.name = some row.default

theorem holdDefaultsBut_atLaunch : (atLaunch e shell directory).HoldDefaultsBut shell e := by
  have isInitial : ∀ row ∈ OptionEntry.schema, row.name ≠ "default-shell" →
      ((initial e shell directory).tree row.scope).value? row.name = some row.default := by
    intro row listed isOther
    rw [value?_initial e shell directory listed, if_neg isOther]
  cases isEditor : e.editor? with
  | none =>
      rw [atLaunch_of_none e shell directory isEditor]
      exact {
        filled := isFilled_initial e shell directory
        shell := rfl
        keys := fun _ isThere => by cases isEditor.symm.trans isThere
        others := fun row listed isOther _ => isInitial row listed isOther }
  | some editor =>
      have withKeys := atLaunch_of_editor e shell directory isEditor
      constructor
      case filled => exact isFilled_atLaunch e shell directory
      case shell =>
        rw [withKeys]
        rfl
      case keys =>
        intro _ isThere
        cases isEditor.symm.trans isThere
        rw [withKeys]
        exact ⟨_, KeyTable.suits_ofEditor editor, rfl, rfl⟩
      case others =>
        intro row listed isOther unset
        have noKeys : row.name ≠ "status-keys" ∧ row.name ≠ "mode-keys" := by
          refine not_or.mp fun isKeys => ?_
          obtain ⟨noVisual, noOther⟩ := unset isKeys
          rw [Environ.editor?, noVisual, noOther] at isEditor
          cases isEditor
        rw [withKeys, value?_withKeys _ _ noKeys, isInitial row listed isOther]

/-- Both key tables are the same, whether there is an editor or not. -/
theorem HoldDefaultsBut.keys_eq {ts : OptionTrees} {shell : String} {e : Environ}
    (holds : ts.HoldDefaultsBut shell e) :
    ts.session.value? "status-keys" = ts.window.value? "mode-keys" := by
  cases isEditor : e.editor? with
  | some editor =>
      obtain ⟨_, -, status, mode⟩ := holds.keys editor isEditor
      rw [status, mode]
  | none =>
      obtain ⟨noVisual, noOther⟩ := (Option.orElse_eq_none _ _).mp isEditor
      have status := holds.others ⟨"status-keys", .session, .keyTable, .text "emacs"⟩ (by decide)
        (by decide) fun _ => ⟨noVisual, noOther⟩
      have mode := holds.others ⟨"mode-keys", .window, .keyTable, .text "emacs"⟩ (by decide)
        (by decide) fun _ => ⟨noVisual, noOther⟩
      exact status.trans mode.symm

theorem HoldDefaultsBut.deferrable {ts : OptionTrees} {shell : String} {e : Environ}
    (holds : ts.HoldDefaultsBut shell e) (d : Deferrable) :
    ts.session.value? d.name = some d.row.default := by
  have listed := (OptionEntry.mem_ofScope.mp d.row_mem).1
  refine holds.others d.row listed ?_ fun isKeys => absurd isKeys ?_ <;> cases d <;> decide

end OptionTrees

namespace Machine

theorem workingDirectory_noteAll (m : Machine) (ns : List Note) :
    (m.noteAll ns).storage.workingDirectory = m.storage.workingDirectory := by
  have single : ∀ (m : Machine) (n : Note),
      (m.note n).storage.workingDirectory = m.storage.workingDirectory := by
    intro m n
    unfold note
    split
    · rfl
    · rfl
    · dsimp only [Storage.append]
      split <;> rfl
  unfold noteAll
  induction ns generalizing m with
  | nil => rfl
  | cons n rest ih => rw [List.foldl_cons, ih, single]

end Machine

theorem RuntimeDirectory.workingDirectory_ensure (s : Storage) (path : String) (user : Int) :
    (ensure s path user).storage.workingDirectory = s.workingDirectory := by
  rw [(ensure_eq s path user).2]
  cases attempted : attempt s path with
  | error e => rfl
  | ok s' => rcases attempt_eq_ok attempted with rfl | ⟨_, _, _, rfl⟩ <;> rfl

theorem Socket.workingDirectory_locate (s : Storage) (e : Environ) (user : Int)
    (r : SocketRequest) (random : List Char) :
    (locate s e user r random).1.storage.workingDirectory = s.workingDirectory := by
  have ensured := RuntimeDirectory.workingDirectory_ensure s
    (RuntimeDirectory.path e r.directoryStart user) user
  unfold locate
  split
  · rfl
  · dsimp only
    split
    · exact ensured
    · split <;> exact ensured

namespace Launch

theorem workingDirectory_locateSocket (request : SocketRequest) (user : Option Int) (m : Machine) :
    (machineAfter (locateSocket request user m)).storage.workingDirectory =
      m.storage.workingDirectory := by
  have kept := Socket.workingDirectory_locate m.storage m.environ (user.getD m.storage.user)
    request m.random
  rw [locateSocket, stateBind_get]
  generalize Socket.locate m.storage m.environ (user.getD m.storage.user) request m.random =
    found at kept ⊢
  obtain ⟨⟨result, storage, notes⟩, random⟩ := found
  have noted : ({ m with storage, random }.noteAll notes).storage.workingDirectory =
      m.storage.workingDirectory := (Machine.workingDirectory_noteAll _ notes).trans kept
  cases result with
  | ok path => exact noted
  | error f => exact noted

theorem findShell_eq (program : String) (p : Profile) (m : Machine) :
    ∃ notes, findShell program p m =
      .ok (Shell.resolve m.host m.storage m.environ program p.fallbackShell).1 (m.noteAll notes) :=
  ⟨_, rfl⟩

theorem buildTrees_eq (shell : String) (directory : Option String) (m : Machine) :
    ∃ notes, buildTrees shell directory m =
      .ok (OptionTrees.atLaunch m.environ shell (directory <|> m.storage.workingDirectory))
        (m.noteAll notes) :=
  ⟨_, rfl⟩

variable {arguments : List String} {p : Profile} {setUp : Nat → Launch Unit} {user : Option Int}
  {directory : Option String} {m m' : Machine} {c : Context}

/-- The command line can be read, and the journal is set up on the machine that has left the
    session. -/
def IsSetUp (arguments : List String) (setUp : Nat → Launch Unit) (m m₁ : Machine) : Prop :=
  ∃ line, CommandLine.ofWords arguments.tail = .ok line ∧
    setUp (verbosityOf line) ((m.noteAll m.host.locales.establish.notes).leaving line) = .ok () m₁

/-- The trees in a context are built once the journal is set up. Neither the environment nor the
    working directory changes any more. -/
theorem trees_eq_of_startup (started : startup arguments p setUp user directory m = .ok c m') :
    ∃ m₁, IsSetUp arguments setUp m m₁ ∧ m₁.environ = m'.environ ∧
      m₁.storage.workingDirectory = m'.storage.workingDirectory ∧
      c.trees = OptionTrees.atLaunch m'.environ
        (Shell.resolve m₁.host m₁.storage m'.environ (programName arguments) p.fallbackShell).1
        (directory <|> m'.storage.workingDirectory) := by
  obtain ⟨name, line, established, isRead⟩ := read_of_startup started
  rw [startup_of_read established isRead] at started
  obtain ⟨_, m₁, isSetUp, rest⟩ := stateBind_eq_ok.mp started
  rw [stateBind_get] at rest
  obtain ⟨notes, found⟩ := findShell_eq (programName arguments) p m₁
  rw [stateBind_of_ok found] at rest
  obtain ⟨more, built⟩ := buildTrees_eq
    (Shell.resolve m₁.host m₁.storage m₁.environ (programName arguments) p.fallbackShell).1
    directory (m₁.noteAll notes)
  rw [stateBind_of_ok built] at rest
  obtain ⟨socket, m₂, located, rest⟩ := stateBind_eq_ok.mp rest
  obtain ⟨_, _, noted, rest⟩ := stateBind_eq_ok.mp rest
  cases noted
  cases rest
  have sameEnviron : m₂.environ = m₁.environ := by
    rw [(keepsEnviron_locateSocket _ _).of_ok located, Machine.environ_noteAll,
      Machine.environ_noteAll]
  have sameDirectory : m₂.storage.workingDirectory = m₁.storage.workingDirectory := by
    have kept := workingDirectory_locateSocket (line.socketRequest p) user
      ((m₁.noteAll notes).noteAll more)
    rw [located, Machine.workingDirectory_noteAll, Machine.workingDirectory_noteAll] at kept
    exact kept
  refine ⟨m₁, ⟨line, isRead, isSetUp⟩, ?_⟩
  simp only [Machine.environ_noteAll, Machine.workingDirectory_noteAll, sameEnviron,
    sameDirectory, contextWith, and_self]

theorem holdDefaultsBut_of_startup
    (started : startup arguments p setUp user directory m = .ok c m') :
    ∃ m₁, IsSetUp arguments setUp m m₁ ∧ m₁.environ = m'.environ ∧
      c.trees.HoldDefaultsBut
        (Shell.resolve m₁.host m₁.storage m'.environ (programName arguments) p.fallbackShell).1
        m'.environ := by
  obtain ⟨m₁, isSetUp, sameEnviron, -, areTrees⟩ := trees_eq_of_startup started
  exact ⟨m₁, isSetUp, sameEnviron, areTrees ▸ OptionTrees.holdDefaultsBut_atLaunch _ _ _⟩

/-- Every launch that comes to a context has trees with the defaults of the schema but for the shell
    that is found and the key tables of the editor, which are always the same. What waits is the
    last value of each flag for an option that waits, and the option still has its default. -/
theorem trees_of_startup (started : startup arguments p setUp user directory m = .ok c m') :
    (∃ m₁, IsSetUp arguments setUp m m₁ ∧ m₁.environ = m'.environ ∧
      c.trees.HoldDefaultsBut
        (Shell.resolve m₁.host m₁.storage m'.environ (programName arguments) p.fallbackShell).1
        m'.environ) ∧
    c.trees.session.value? "status-keys" = c.trees.window.value? "mode-keys" ∧
    (∀ d, c.deferred.get? d = (Walk.ofWords arguments.tail).last? d.letter ∧
      c.trees.session.value? d.name = some d.row.default) ∧
    ((∀ verbosity, KeepsEnviron (setUp verbosity)) → ∀ name, name ≠ sessionMarker →
      m'.environ.get? name = m.environ.get? name) := by
  obtain ⟨m₁, isSetUp, sameEnviron, holds⟩ := holdDefaultsBut_of_startup started
  obtain ⟨-, -, waits⟩ := startup_eq_ok started
  refine ⟨⟨m₁, isSetUp, sameEnviron, holds⟩, holds.keys_eq,
    fun d => ⟨waits d, holds.deferrable d⟩, fun keeps name isOther => ?_⟩
  obtain ⟨line, _, isSetUp⟩ := isSetUp
  rw [← sameEnviron, (keeps (verbosityOf line)).of_ok isSetUp, Machine.get?_leaving,
    if_neg fun isMarker => isOther isMarker.2, Machine.environ_noteAll]

/-- A visual editor that is set to nothing still goes before the other editor. -/
theorem trees_of_emptyEditor :
    ∃ c m', startup ["tmate", "-k", "first", "-S", "/s", "-klast"] {} (setUpJournal {} none "tmate")
        none none (Machine.bare.withEnviron (.ofList [("EDITOR", "/usr/bin/vi"), ("VISUAL", "")])) =
        .ok c m' ∧
      c.trees.session.value? "status-keys" = some (.text "emacs") ∧
      c.trees.window.value? "mode-keys" = some (.text "emacs") ∧
      c.deferred.get? .apiKey = some "last" ∧
      c.trees.session.value? "tmate-api-key" = some (.text "") := by
  obtain ⟨c, m', started⟩ : ∃ c m', startup ["tmate", "-k", "first", "-S", "/s", "-klast"] {}
      (setUpJournal {} none "tmate") none none
      (Machine.bare.withEnviron (.ofList [("EDITOR", "/usr/bin/vi"), ("VISUAL", "")])) =
        .ok c m' := ⟨_, _, rfl⟩
  obtain ⟨⟨_, _, _, holds⟩, same, waits, kept⟩ := trees_of_startup started
  have visual : m'.environ.get? "VISUAL" = some "" :=
    kept (keepsEnviron_setUpJournal {} none "tmate") "VISUAL" (by decide)
  have isEditor : m'.environ.editor? = some "" := by rw [Environ.editor?, visual]; rfl
  obtain ⟨keys, suits, status, mode⟩ := holds.keys "" isEditor
  have isEmacs : keys = .emacs := by
    cases keys with
    | emacs => rfl
    | vi =>
        obtain ⟨part, isLast, contained⟩ := suits.mp rfl
        rw [← Text.afterLast_eq_iff.mpr isLast] at contained
        exact absurd contained (by decide)
  subst isEmacs
  exact ⟨c, m', started, status, mode, (waits .apiKey).1, (waits .apiKey).2⟩

end Launch

end MuxLaunch
