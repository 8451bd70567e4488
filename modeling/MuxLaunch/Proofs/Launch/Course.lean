import MuxLaunch.Proofs.Launch.Stages

/-! # The course of a launch

A launch looks for its settings, sets the locale, reads the command line, opens the journal and
enters its context, in this order. Its course has a case for each step that may end it, and this is
the only way that it goes.
-/

namespace MuxLaunch

/-- The settings of the machine. -/
def Machine.settings (m : Machine) : Except SettingsFault Settings :=
  Settings.load m.host m.storage m.environ

/-- The settings can be read, or what is wrong with them is reported later. -/
def Machine.HasReadableSettings (m : Machine) : Prop :=
  ∀ f, m.settings = .error f → f.isReported = true

namespace Launch

/-- All that the program does before the hand-off. -/
def prepare (arguments : List String) : Launch Context := do
  let (settings, fault) ← loadSettings
  startup arguments settings.profile (setUpJournal settings fault (programName arguments)) none none

/-- The program with any way to hand the context over. -/
def runWith (handOver : Context → Launch Int) (arguments : List String) : Launch Int := do
  match ← observe (prepare arguments) with
  | .ok c => handOver c
  | .error f =>
      match complaint? (programName arguments) f with
      | some text =>
          modify fun m => m.printError text
          return 1
      | none => throw f

theorem loadSettings_eq (m : Machine) :
    loadSettings m =
      match m.settings with
      | .ok settings => .ok (settings, none) m
      | .error f =>
          if f.isReported then .ok ({}, some f) m else .error (.unreadableSettings f) m := by
  rw [loadSettings, stateBind_get, Machine.settings]
  cases Settings.load m.host m.storage m.environ with
  | ok settings => rfl
  | error f => cases isReported : f.isReported <;> simp only [isReported] <;> rfl

theorem prepare_of_ok {arguments : List String} {m m' : Machine}
    {settings : Settings} {fault : Option SettingsFault}
    (isLoaded : loadSettings m = .ok (settings, fault) m') :
    prepare arguments m =
      startup arguments settings.profile (setUpJournal settings fault (programName arguments)) none
        none m' :=
  stateBind_of_ok isLoaded

theorem run_eq_runWith (arguments : List String) (client : Option Client)
    (installed : List Client) :
    run arguments client installed = runWith (fun c => handOff c client installed) arguments := by
  funext m
  cases isLoaded : loadSettings m with
  | error f m' =>
      have noComplaint : complaint? (programName arguments) f = none := by
        rw [loadSettings_eq] at isLoaded
        split at isLoaded
        · cases isLoaded
        · split at isLoaded <;> cases isLoaded
          rfl
      have failed : observe (prepare arguments) m = .ok (.error f) m' := by
        rw [observe, prepare, stateBind_of_error isLoaded]
      rw [run, stateBind_of_error isLoaded, runWith, stateBind_of_ok failed]
      simp only [noComplaint]
      rfl
  | ok loaded m' =>
      rw [run, stateBind_of_ok isLoaded, runWith]
      refine stateBind_congr ?_
      rw [observe, observe, prepare_of_ok isLoaded]

theorem runWith_of_error {arguments : List String} {m m' : Machine} {f : Failure}
    (failed : prepare arguments m = .error f m')
    (handOver : Context → Launch Int) :
    runWith handOver arguments m =
      match complaint? (programName arguments) f with
      | some text => .ok 1 (m'.printError text)
      | none => .error f m' := by
  have observed : observe (prepare arguments) m = .ok (.error f) m' := by
    rw [observe, failed]
  rw [runWith, stateBind_of_ok observed]
  dsimp only
  cases complaint? (programName arguments) f <;> rfl

/-- The steps after the journal is open. -/
def enter (arguments : List String) (p : Profile) (line : CommandLine) : Launch Context := do
  let program := programName arguments
  let capabilities := capabilitiesIn (← get).environ program line p
  let shell ← findShell program p
  let trees ← buildTrees shell none
  let socket ← locateSocket (line.socketRequest p) none
  noteAll
    [⟨.socketFound, "Socket path: " ++ socket⟩,
     ⟨.capabilitiesFound, "Client flags: " ++ capabilities.describe ++ " shell: " ++ shell⟩]
  return {
    program, socket, capabilities, trees
    verbosity := verbosityOf line
    shellCommand := line.shellCommand
    arguments := line.command
    deferred := line.deferred
    profile := p
    configFile := line.configFile
    foreground := line.foreground
    causes := [] }

variable {arguments : List String} {m : Machine}

/-- There is no path for the socket on the machine that the steps before leave behind. -/
inductive LacksSocket (arguments : List String) (p : Profile) (line : CommandLine) (m : Machine) :
    SocketFault → Prop
  | intro {shell : String} {trees : OptionTrees} {m₁ m₂ : Machine} {f : SocketFault} :
      findShell (programName arguments) p m = .ok shell m₁ →
        buildTrees shell none m₁ = .ok trees m₂ →
          (Socket.locate m₂.storage m₂.environ m₂.storage.user (line.socketRequest p)
            m₂.random).1.result = .error f → LacksSocket arguments p line m f

theorem LacksSocket.enter_eq {p : Profile} {line : CommandLine} {f : SocketFault}
    (lacks : LacksSocket arguments p line m f) :
    ∃ m', m.IsQuiet m' ∧ enter arguments p line m = .error f.failure m' := by
  obtain ⟨found, built, failed⟩ := lacks
  rename_i shell trees m₁ m₂
  obtain ⟨m', quiet, -, located⟩ := locateSocket_eq (line.socketRequest p) none m₂
  rw [Option.getD_none, failed] at located
  refine ⟨m', ?_, ?_⟩
  · cases found
    cases built
    exact ((m.isQuiet_noteAll _).trans (Machine.isQuiet_noteAll _ _)).trans quiet
  · rw [enter, stateBind_get, stateBind_of_ok found, stateBind_of_ok built]
    exact stateBind_of_error located

/-- Only the socket can keep a launch from its context once the journal is open. -/
theorem lacksSocket_of_error {p : Profile} {line : CommandLine} {f : Failure} {m' : Machine}
    (failed : enter arguments p line m = .error f m') :
    ∃ fault, LacksSocket arguments p line m fault ∧ f = fault.failure ∧ m.IsQuiet m' := by
  obtain ⟨shell, m₁, found⟩ :
      ∃ shell m₁, findShell (programName arguments) p m = .ok shell m₁ := ⟨_, _, rfl⟩
  obtain ⟨trees, m₂, built⟩ : ∃ trees m₂, buildTrees shell none m₁ = .ok trees m₂ := ⟨_, _, rfl⟩
  cases isLocated : (Socket.locate m₂.storage m₂.environ m₂.storage.user (line.socketRequest p)
      m₂.random).1.result with
  | error fault =>
      have lacks : LacksSocket arguments p line m fault := .intro found built isLocated
      obtain ⟨m₃, quiet, again⟩ := lacks.enter_eq
      cases again.symm.trans failed
      exact ⟨fault, lacks, rfl, quiet⟩
  | ok socket =>
      obtain ⟨m₃, -, -, located⟩ := locateSocket_eq (line.socketRequest p) none m₂
      rw [Option.getD_none, isLocated] at located
      rw [enter, stateBind_get, stateBind_of_ok found, stateBind_of_ok built,
        stateBind_of_ok located] at failed
      cases failed

theorem startup_eq (noJournal : m.journal = none) (p : Profile) (setUp : Nat → Launch Unit) :
    startup arguments p setUp none none m =
      match m.host.locales.establish.result with
      | .error f => .error (.locale f) m
      | .ok _ =>
          match CommandLine.ofWords arguments.tail with
          | .error (.usage f) => .error (.usage f) m
          | .error .version => .error .quit (m.print (versionText (programName arguments)))
          | .ok line => (setUp (verbosityOf line) >>= fun _ => enter arguments p line)
              (m.leaving line) := by
  have isSet := establishLocale_eq m
  cases isEstablished : m.host.locales.establish.result with
  | error f =>
      rw [isEstablished] at isSet
      exact stateBind_of_error isSet
  | ok name =>
      rw [isEstablished, Machine.noteAll_of_noJournal noJournal] at isSet
      have isRead := readCommandLine_eq (programName arguments) arguments.tail m
      cases read : CommandLine.ofWords arguments.tail with
      | error ending =>
          rw [read] at isRead
          rw [startup, stateBind_of_ok isSet]
          cases ending with
          | usage f => exact stateBind_of_error isRead
          | version => exact stateBind_of_error isRead
      | ok line =>
          rw [startup_of_read isEstablished read, Machine.noteAll_of_noJournal noJournal]
          rfl

/-- The launch comes to the point where the journal is opened. -/
structure ReachesJournal (arguments : List String) (m : Machine) (settings : Settings)
    (line : CommandLine) : Prop where
  loaded : m.settings = .ok settings
  established : ∃ name, m.host.locales.establish.result = .ok name
  read : CommandLine.ofWords arguments.tail = .ok line

/-- The ways a launch goes up to the hand-off. -/
inductive Course (arguments : List String) (m : Machine) :
    EStateM.Result Failure Machine Context → Prop
  | unreadable {f : SettingsFault} : m.settings = .error f → f.isReported = false →
      Course arguments m (.error (.unreadableSettings f) m)
  | locale {f : LocaleFault} : m.HasReadableSettings →
      m.host.locales.establish.result = .error f → Course arguments m (.error (.locale f) m)
  | usage {name : String} {f : UsageFault} : m.HasReadableSettings →
      m.host.locales.establish.result = .ok name →
        CommandLine.ofWords arguments.tail = .error (.usage f) →
          Course arguments m (.error (.usage f) m)
  | version {name : String} : m.HasReadableSettings →
      m.host.locales.establish.result = .ok name →
        CommandLine.ofWords arguments.tail = .error .version →
          Course arguments m (.error .quit (m.print (versionText (programName arguments))))
  | settings {name : String} {line : CommandLine} {f : SettingsFault} : m.settings = .error f →
      f.isReported = true → m.host.locales.establish.result = .ok name →
        CommandLine.ofWords arguments.tail = .ok line →
          Course arguments m (.error (.settings f) (m.leaving line))
  | journal {settings : Settings} {line : CommandLine} {f : Failure} {m' : Machine} :
      ReachesJournal arguments m settings line →
        openJournal settings.journal (programName arguments) (verbosityOf line)
            (m.leaving line) = .error f m' →
          Course arguments m (.error f m')
  | entry {settings : Settings} {line : CommandLine} {m₁ : Machine}
      {entered : EStateM.Result Failure Machine Context} :
      ReachesJournal arguments m settings line →
        openJournal settings.journal (programName arguments) (verbosityOf line)
            (m.leaving line) = .ok () m₁ →
          enter arguments settings.profile line m₁ = entered → Course arguments m entered

theorem loadSettings_of_readable (readable : m.HasReadableSettings) :
    ∃ settings fault, loadSettings m = .ok (settings, fault) m := by
  rw [loadSettings_eq]
  cases isLoaded : m.settings with
  | ok settings => exact ⟨_, _, rfl⟩
  | error f => exact ⟨_, _, if_pos (readable f isLoaded)⟩

theorem ReachesJournal.prepare_eq {settings : Settings} {line : CommandLine}
    (noJournal : m.journal = none) (reaches : ReachesJournal arguments m settings line) :
    prepare arguments m =
      (openJournal settings.journal (programName arguments) (verbosityOf line) >>= fun _ =>
        enter arguments settings.profile line) (m.leaving line) := by
  obtain ⟨name, established⟩ := reaches.established
  have isLoaded : loadSettings m = .ok (settings, none) m := by
    rw [loadSettings_eq, reaches.loaded]
  rw [prepare_of_ok isLoaded, startup_eq noJournal, established, reaches.read]
  rfl

/-- A course says what the launch does. -/
theorem Course.prepare_eq (noJournal : m.journal = none)
    {ending : EStateM.Result Failure Machine Context} (course : Course arguments m ending) :
    prepare arguments m = ending := by
  cases course with
  | unreadable isLoaded notReported =>
      refine stateBind_of_error ?_
      rw [loadSettings_eq, isLoaded]
      exact if_neg (Bool.not_eq_true _ ▸ notReported)
  | locale readable failed =>
      obtain ⟨settings, fault, isLoaded⟩ := loadSettings_of_readable readable
      rw [prepare_of_ok isLoaded, startup_eq noJournal, failed]
  | usage readable established isRead =>
      obtain ⟨settings, fault, isLoaded⟩ := loadSettings_of_readable readable
      rw [prepare_of_ok isLoaded, startup_eq noJournal, established, isRead]
  | version readable established isRead =>
      obtain ⟨settings, fault, isLoaded⟩ := loadSettings_of_readable readable
      rw [prepare_of_ok isLoaded, startup_eq noJournal, established, isRead]
  | @settings name line f isLoaded isReported established isRead =>
      have asDefault : loadSettings m = .ok ({}, some f) m := by
        rw [loadSettings_eq, isLoaded]
        exact if_pos isReported
      rw [prepare_of_ok asDefault, startup_eq noJournal, established, isRead]
      rfl
  | journal reaches failed =>
      rw [reaches.prepare_eq noJournal]
      exact stateBind_of_error failed
  | entry reaches opened entered =>
      rw [reaches.prepare_eq noJournal, stateBind_of_ok opened]
      exact entered

theorem exists_course (arguments : List String) (m : Machine) :
    ∃ ending, Course arguments m ending := by
  -- Whatever came of the settings, the locale and the command line are looked at alike.
  have check : m.HasReadableSettings →
      (∃ line name, m.host.locales.establish.result = .ok name ∧
        CommandLine.ofWords arguments.tail = .ok line) ∨ ∃ ending, Course arguments m ending := by
    intro readable
    cases established : m.host.locales.establish.result with
    | error f => exact .inr ⟨_, .locale readable established⟩
    | ok name =>
        cases isRead : CommandLine.ofWords arguments.tail with
        | ok line => exact .inl ⟨line, name, rfl, rfl⟩
        | error ending =>
            cases ending with
            | usage f => exact .inr ⟨_, .usage readable established isRead⟩
            | version => exact .inr ⟨_, .version readable established isRead⟩
  cases isLoaded : m.settings with
  | error f =>
      cases isReported : f.isReported with
      | false => exact ⟨_, .unreadable isLoaded isReported⟩
      | true =>
          have readable : m.HasReadableSettings := by
            intro g again
            rw [isLoaded] at again
            cases again
            exact isReported
          rcases check readable with ⟨line, name, established, isRead⟩ | ended
          · exact ⟨_, .settings isLoaded isReported established isRead⟩
          · exact ended
  | ok settings =>
      have readable : m.HasReadableSettings := by
        intro g again
        rw [isLoaded] at again
        cases again
      rcases check readable with ⟨line, name, established, isRead⟩ | ended
      · have reaches : ReachesJournal arguments m settings line :=
          ⟨isLoaded, ⟨name, established⟩, isRead⟩
        cases opened : openJournal settings.journal (programName arguments) (verbosityOf line)
            (m.leaving line) with
        | error f m' => exact ⟨_, .journal reaches opened⟩
        | ok _ m₁ => exact ⟨_, .entry reaches opened rfl⟩
      · exact ended

/-- A launch takes its one course. -/
theorem course_iff (noJournal : m.journal = none)
    {ending : EStateM.Result Failure Machine Context} :
    Course arguments m ending ↔ prepare arguments m = ending := by
  constructor
  · intro course
    exact course.prepare_eq noJournal
  · rintro rfl
    obtain ⟨ending, course⟩ := exists_course arguments m
    rw [course.prepare_eq noJournal]
    exact course

end Launch

end MuxLaunch
