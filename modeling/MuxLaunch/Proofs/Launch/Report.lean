import MuxLaunch.Proofs.Launch.Escape

/-! # Failures that are reported

Four kinds of failures are reported and end the program with status one: no locale in UTF-8, a
command line that cannot be used, faulty settings and an unsafe directory for the socket. The first
of them that applies is the one reported, and no step that would come after it leaves a trace.
-/

namespace MuxLaunch

/-- The settings of the machine, where faulty ones count as the default. -/
def Machine.settingsOrDefault (m : Machine) : Settings :=
  match m.settings with
  | .ok settings => settings
  | .error _ => {}

namespace Launch

/-- A failure that the input gives occasion to, whatever else is wrong with it. -/
inductive Applies (arguments : List String) (m : Machine) : Failure → Prop
  | locale {f : LocaleFault} : m.host.locales.establish.result = .error f →
      Applies arguments m (.locale f)
  | usage {f : UsageFault} : CommandLine.ofWords arguments.tail = .error (.usage f) →
      Applies arguments m (.usage f)
  | settings {f : SettingsFault} : m.settings = .error f → f.isReported = true →
      Applies arguments m (.settings f)
  | directory {line : CommandLine} {m₁ : Machine} {f : DirectoryFault} :
      CommandLine.ofWords arguments.tail = .ok line →
        openJournal m.settingsOrDefault.journal (programName arguments) (verbosityOf line)
            (m.leaving line) = .ok () m₁ →
          LacksSocket arguments m.settingsOrDefault.profile line m₁ (.directory (.refused f)) →
            Applies arguments m (.directory f)

/-- The place of a failure among those that are reported. -/
def place : Failure → Nat
  | .locale _ => 0
  | .usage _ => 1
  | .settings _ => 2
  | _ => 3

/-- A failure ends the program with its report alone. -/
structure IsReport (arguments : List String) (m : Machine) (f : Failure) (text : String)
    (m' : Machine) : Prop where
  run_eq : ∀ client installed,
    run arguments client installed m = .ok 1 (m'.printError text)
  /-- The context is not handed over, so no client and no configuration file is looked at. -/
  runWith_eq : ∀ handOver, runWith handOver arguments m = .ok 1 (m'.printError text)
  quiet : m.IsQuiet m'
  storage : place f < 3 → m'.storage = m.storage
  environ : place f < 2 → m'.environ = m.environ
  applies : Applies arguments m f
  earliest : ∀ g, Applies arguments m g → place f ≤ place g

variable {arguments : List String} {m : Machine} {f : Failure}

theorem Applies.place_pos {name : String} (applies : Applies arguments m f)
    (established : m.host.locales.establish.result = .ok name) : 1 ≤ place f := by
  cases applies with
  | locale failed => simp [established] at failed
  | usage | settings | directory => simp [place]

theorem Applies.two_le_place {name : String} {line : CommandLine} (applies : Applies arguments m f)
    (established : m.host.locales.establish.result = .ok name)
    (isRead : CommandLine.ofWords arguments.tail = .ok line) : 2 ≤ place f := by
  cases applies with
  | locale failed => simp [established] at failed
  | usage refused => simp [isRead] at refused
  | settings | directory => simp [place]

theorem Applies.three_le_place {settings : Settings} {line : CommandLine}
    (applies : Applies arguments m f) (reaches : ReachesJournal arguments m settings line) :
    3 ≤ place f := by
  obtain ⟨name, established⟩ := reaches.established
  cases applies with
  | locale failed => simp [established] at failed
  | usage refused => simp [reaches.read] at refused
  | settings faulty => simp [reaches.loaded] at faulty
  | directory => simp [place]

theorem ReachesJournal.settingsOrDefault_eq {settings : Settings} {line : CommandLine}
    (reaches : ReachesJournal arguments m settings line) : m.settingsOrDefault = settings := by
  rw [Machine.settingsOrDefault, reaches.loaded]

/-- What the steps before the report have left behind. -/
theorem report_of_prepare {m' : Machine} {text : String} (noJournal : m.journal = none)
    (failed : prepare arguments m = .error f m')
    (isReported : complaint? (programName arguments) f = some text) :
    IsReport arguments m f text m' := by
  have runWith_eq : ∀ handOver, runWith handOver arguments m = .ok 1 (m'.printError text) := by
    intro handOver
    rw [runWith_of_error failed, isReported]
  have run_eq : ∀ client installed,
      run arguments client installed m = .ok 1 (m'.printError text) := by
    intro client installed
    rw [run_eq_runWith]
    exact runWith_eq _
  have course := (course_iff noJournal).mpr failed
  cases course with
  | unreadable => cases isReported
  | version => cases isReported
  | locale readable missing =>
      exact ⟨run_eq, runWith_eq, .refl m, fun _ => rfl, fun _ => rfl, .locale missing,
        fun g _ => Nat.zero_le _⟩
  | usage readable established refused =>
      exact ⟨run_eq, runWith_eq, .refl m, fun _ => rfl, fun _ => rfl, .usage refused,
        fun g applies => applies.place_pos established⟩
  | @settings name line f faulty reported established isRead =>
      refine ⟨run_eq, runWith_eq, m.isQuiet_leaving line, fun _ => ?_, fun early => ?_,
        .settings faulty reported, fun g applies => applies.two_le_place established isRead⟩
      · unfold Machine.leaving
        split <;> rfl
      · simp [place] at early
  | journal _ notOpened => cases isUnopened_of_error notOpened <;> cases isReported
  | @entry settings line m₁ _ reaches opened notEntered =>
      obtain ⟨fault, lacks, rfl, quiet⟩ := lacksSocket_of_error notEntered
      cases fault with
      | exhausted => cases isReported
      | directory d =>
          cases d with
          | nullInPath => cases isReported
          | refused d =>
              have asLoaded := reaches.settingsOrDefault_eq
              have untilOpen := (m.isQuiet_leaving line).trans (isQuiet_of_openJournal opened)
              refine ⟨run_eq, runWith_eq, untilOpen.trans quiet, fun early => ?_, fun early => ?_,
                .directory reaches.read (asLoaded ▸ opened) (asLoaded ▸ lacks),
                fun g applies => applies.three_le_place reaches⟩
              · simp [place, SocketFault.failure] at early
              · simp [place, SocketFault.failure] at early

/-- A failure that is reported ends the program before anything is handed over, leaves no trace of
    the steps after it, and is the first of those that apply. -/
theorem report_of_startup {h : Host} {s : Storage} {e : Environ} {random : List Char}
    {settings : Settings} {fault : Option SettingsFault} {m₁ m' : Machine} {text : String}
    (isLoaded : loadSettings (.fresh h s e random) = .ok (settings, fault) m₁)
    (failed : startup arguments settings.profile
      (setUpJournal settings fault (programName arguments)) none none m₁ = .error f m')
    (isReported : complaint? (programName arguments) f = some text) :
    IsReport arguments (.fresh h s e random) f text m' :=
  report_of_prepare rfl ((prepare_of_ok isLoaded).trans failed) isReported

/-- A machine with a settings file that may not be read, and a file where the directory for the
    socket would be. -/
def troubled : Machine :=
  .fresh ⟨1, [], ⟨["C.UTF-8"], "C.UTF-8", "UTF-8"⟩, .standard⟩
    ⟨⟨[([], .directory 0o755 0), (["tmp"], .directory 0o1777 0), (["c"], .file 0o644 0 []),
      (["tmp", "tmate-1000"], .file 0o644 1000 [])]⟩, some "/", 1000,
      [⟨.openFile, "/c", .permissionDenied⟩], .linux⟩
    (Environ.empty.set Settings.pathVariable "/c") []

theorem report_troubled :
    Applies ["tmate"] troubled (.settings (.file ⟨.permissionDenied, some "/c"⟩)) ∧
    Applies ["tmate"] troubled (.directory ⟨.notADirectory, "/tmp/tmate-1000"⟩) ∧
    IsReport ["tmate"] troubled (.settings (.file ⟨.permissionDenied, some "/c"⟩))
      "Error loading config: [Errno 13] Permission denied: '/c'\n" troubled := by
  have faulty : troubled.settings = .error (.file ⟨.permissionDenied, some "/c"⟩) := rfl
  have isRead : CommandLine.ofWords ["tmate"].tail = .ok {} := rfl
  have isLoaded : loadSettings troubled =
      .ok ({}, some (.file ⟨.permissionDenied, some "/c"⟩)) troubled := rfl
  refine ⟨.settings faulty rfl, ?_, ?_⟩
  · exact .directory isRead rfl (.intro rfl rfl rfl)
  · exact report_of_startup isLoaded rfl rfl

end Launch

end MuxLaunch
