import MuxLaunch.Proofs.Flags.Reading
import MuxLaunch.Proofs.Launch.Preparation

/-! # The stages of a startup

A startup establishes the locale and reads the command line before it leaves the session; whatever
comes later sees the environment without it. The later stages leave the environment as it is, so
that each of them sees what the one before has seen.
-/

namespace MuxLaunch

namespace Machine

theorem leaving_of_foreground {line : CommandLine} (isForeground : line.foreground = true)
    (m : Machine) : m.leaving line = m.withEnviron (m.environ.unset sessionMarker) :=
  if_pos isForeground

/-- Leaving a session changes nothing that is found under another name. -/
theorem get?_leaving (m : Machine) (line : CommandLine) (name : String) :
    (m.leaving line).environ.get? name =
      if line.foreground = true ∧ name = sessionMarker then none else m.environ.get? name := by
  unfold leaving
  cases line.foreground with
  | false => simp
  | true => simp [Environ.get?_unset]

end Machine

namespace Launch

/-- The machine that a computation leaves behind, even if it fails. -/
def machineAfter {α : Type} : EStateM.Result Failure Machine α → Machine
  | .ok _ m => m
  | .error _ m => m

/-- The computation leaves the environment as it is, even if it fails. -/
def KeepsEnviron {α : Type} (x : Launch α) : Prop :=
  ∀ m, (machineAfter (x m)).environ = m.environ

theorem KeepsEnviron.of_ok {α : Type} {x : Launch α} (keeps : KeepsEnviron x) {a : α}
    {m m' : Machine} (done : x m = .ok a m') : m'.environ = m.environ := by
  have kept := keeps m
  rwa [done] at kept

theorem keepsEnviron_pure {α : Type} (a : α) : KeepsEnviron (pure a : Launch α) :=
  fun _ => rfl

theorem keepsEnviron_get : KeepsEnviron (get : Launch Machine) :=
  fun _ => rfl

theorem keepsEnviron_noteAll (ns : List Note) : KeepsEnviron (noteAll ns) :=
  fun m => m.environ_noteAll ns

theorem KeepsEnviron.bind {α β : Type} {x : Launch α} {f : α → Launch β} (first : KeepsEnviron x)
    (next : ∀ a, KeepsEnviron (f a)) : KeepsEnviron (x >>= f) := by
  intro m
  have kept := first m
  cases done : x m with
  | error failure t =>
      rw [stateBind_of_error done]
      rwa [done] at kept
  | ok a t =>
      rw [stateBind_of_ok done, next a t]
      rwa [done] at kept

theorem keepsEnviron_findShell (program : String) (p : Profile) :
    KeepsEnviron (findShell program p) :=
  keepsEnviron_get.bind fun _ => (keepsEnviron_noteAll _).bind fun _ => keepsEnviron_pure _

theorem keepsEnviron_buildTrees (shell : String) (directory : Option String) :
    KeepsEnviron (buildTrees shell directory) :=
  keepsEnviron_get.bind fun _ => (keepsEnviron_noteAll _).bind fun _ => keepsEnviron_pure _

theorem keepsEnviron_locateSocket (request : SocketRequest) (user : Option Int) :
    KeepsEnviron (locateSocket request user) := by
  intro m
  obtain ⟨m', -, kept, located⟩ := locateSocket_eq request user m
  rw [located]
  split <;> exact kept

theorem keepsEnviron_setUpJournal (settings : Settings) (fault : Option SettingsFault)
    (program : String) (verbosity : Nat) :
    KeepsEnviron (setUpJournal settings fault program verbosity) := by
  intro m
  cases fault with
  | some f => rfl
  | none =>
      have isOpening : setUpJournal settings none program verbosity =
          openJournal settings.journal program verbosity := rfl
      rw [isOpening]
      rcases openJournal_cases settings.journal program verbosity m with
        ⟨_, _, opened⟩ | ⟨_, _, refused, _⟩
      · rw [opened]
        rfl
      · rw [refused]
        rfl

variable (arguments : List String) (p : Profile) (setUp : Nat → Launch Unit) (user : Option Int)
  (directory : Option String) (line : CommandLine)

/-- The context that the stages of a startup come to. -/
def contextWith (e : Environ) (trees : OptionTrees) (socket : String) : Context where
  program := programName arguments
  socket := socket
  capabilities := capabilitiesIn e (programName arguments) line p
  shellCommand := line.shellCommand
  arguments := line.command
  trees := trees
  deferred := line.deferred
  profile := p
  configFile := line.configFile
  verbosity := verbosityOf line
  foreground := line.foreground
  causes := []

/-- The stages after the session has been left. -/
def settleContext : Launch Context := do
  setUp (verbosityOf line)
  let e := (← get).environ
  let shell ← findShell (programName arguments) p
  let trees ← buildTrees shell directory
  let socket ← locateSocket (line.socketRequest p) user
  let c := contextWith arguments p line e trees socket
  noteAll
    [⟨.socketFound, "Socket path: " ++ socket⟩,
     ⟨.capabilitiesFound, "Client flags: " ++ c.capabilities.describe ++ " shell: " ++ shell⟩]
  return c

variable {arguments p setUp user directory line}

theorem keepsEnviron_settleContext (keeps : ∀ verbosity, KeepsEnviron (setUp verbosity)) :
    KeepsEnviron (settleContext arguments p setUp user directory line) :=
  (keeps _).bind fun _ => keepsEnviron_get.bind fun _ => (keepsEnviron_findShell _ _).bind fun _ =>
    (keepsEnviron_buildTrees _ _).bind fun _ => (keepsEnviron_locateSocket _ _).bind fun _ =>
      (keepsEnviron_noteAll _).bind fun _ => keepsEnviron_pure _

variable {m m' : Machine} {c : Context}

theorem establishLocale_eq (m : Machine) :
    establishLocale m =
      match m.host.locales.establish.result with
      | .error f => .error (.locale f) m
      | .ok _ => .ok () (m.noteAll m.host.locales.establish.notes) := by
  rw [establishLocale, stateBind_get]
  cases m.host.locales.establish.result <;> rfl

/-- A command line that can be read leads past the point where the session is left. -/
theorem startup_of_read {name : String} (established : m.host.locales.establish.result = .ok name)
    (isRead : CommandLine.ofWords arguments.tail = .ok line) :
    startup arguments p setUp user directory m =
      settleContext arguments p setUp user directory line
        ((m.noteAll m.host.locales.establish.notes).leaving line) := by
  have isSet := establishLocale_eq m
  rw [established] at isSet
  have read : ∀ m, readCommandLine (programName arguments) arguments.tail m = .ok line m := by
    intro m
    rw [readCommandLine_eq, isRead]
  have left : ∀ m, leaveSession line m = .ok () (m.leaving line) := by
    intro m
    unfold leaveSession Machine.leaving
    cases line.foreground <;> rfl
  rw [startup, stateBind_of_ok isSet, stateBind_of_ok (read _), stateBind_of_ok (left _)]
  rfl

/-- A startup that comes to a context has established the locale and read the command line. -/
theorem read_of_startup (started : startup arguments p setUp user directory m = .ok c m') :
    ∃ name line, m.host.locales.establish.result = .ok name ∧
      CommandLine.ofWords arguments.tail = .ok line := by
  obtain ⟨_, m₁, isSet, rest⟩ := stateBind_eq_ok.mp started
  obtain ⟨line, _, isLine, _⟩ := stateBind_eq_ok.mp rest
  rw [establishLocale_eq] at isSet
  cases established : m.host.locales.establish.result with
  | error f =>
      rw [established] at isSet
      cases isSet
  | ok name =>
      cases isRead : CommandLine.ofWords arguments.tail with
      | ok line => exact ⟨name, line, rfl, rfl⟩
      | error ending =>
          rw [readCommandLine_eq, isRead] at isLine
          cases ending <;> cases isLine

/-- The stages of a startup that comes to a context, with the machines between them. -/
inductive Stages (arguments : List String) (p : Profile) (setUp : Nat → Launch Unit)
    (user : Option Int) (directory : Option String) (m : Machine) : Context → Prop
  | intro {line : CommandLine} {shell socket : String} {trees : OptionTrees}
      {m₁ m₂ m₃ m₄ : Machine} :
      CommandLine.ofWords arguments.tail = .ok line →
      setUp (verbosityOf line) ((m.noteAll m.host.locales.establish.notes).leaving line) =
        .ok () m₁ →
      findShell (programName arguments) p m₁ = .ok shell m₂ →
      buildTrees shell directory m₂ = .ok trees m₃ →
      locateSocket (line.socketRequest p) user m₃ = .ok socket m₄ →
      Stages arguments p setUp user directory m
        (contextWith arguments p line m₁.environ trees socket)

theorem stages_of_startup (started : startup arguments p setUp user directory m = .ok c m') :
    Stages arguments p setUp user directory m c := by
  obtain ⟨name, line, established, isRead⟩ := read_of_startup started
  rw [startup_of_read established isRead] at started
  obtain ⟨_, m₁, isSetUp, rest⟩ := stateBind_eq_ok.mp started
  rw [stateBind_get] at rest
  obtain ⟨shell, m₂, found, rest⟩ := stateBind_eq_ok.mp rest
  obtain ⟨trees, m₃, built, rest⟩ := stateBind_eq_ok.mp rest
  obtain ⟨socket, m₄, located, rest⟩ := stateBind_eq_ok.mp rest
  obtain ⟨_, _, _, rest⟩ := stateBind_eq_ok.mp rest
  cases rest
  exact .intro isRead isSetUp found built located

end Launch

end MuxLaunch
