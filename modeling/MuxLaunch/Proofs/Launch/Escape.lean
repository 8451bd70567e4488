import MuxLaunch.Proofs.Launch.Course
import MuxLaunch.Proofs.Settings.Obstruction

/-! # Failures that escape

A launch ought to end in order: with the hand-off, with a report of what the user can mend, or with
the version. It does unless the settings cannot be looked for, decoded or taken for texts, the
journal cannot be opened, the path of the runtime directory is none, or the random characters are
used up. Then the failure leaves the program as it is.
-/

namespace MuxLaunch

namespace Settings

variable {h : Host} {s : Storage} {e : Environ}

end Settings

namespace Launch

/-- Why a failure leaves the program. -/
inductive Escapes (arguments : List String) (m : Machine) : Failure → Prop
  | homeless : m.settings = .error .homeless →
      Escapes arguments m (.unreadableSettings .homeless)
  /-- Reading the settings has come to grief by accident. -/
  | document {f : Yaml.LoadFault} : m.settings = .error (.document f) → f.isOrdinary = false →
      Escapes arguments m (.unreadableSettings (.document f))
  /-- What a setting holds in place of a text is nested too deep to be written. -/
  | writing : m.settings = .error (.unwritable .tooDeep) →
      Escapes arguments m (.unreadableSettings (.unwritable .tooDeep))
  | journal {settings : Settings} {line : CommandLine} {f : Failure} :
      ReachesJournal arguments m settings line →
        IsUnopened settings.journal (programName arguments) (verbosityOf line) (m.leaving line) f →
          Escapes arguments m f
  /-- A setting has put a null character into the path of the runtime directory. -/
  | nullInPath {settings : Settings} {line : CommandLine} {m₁ : Machine} :
      ReachesJournal arguments m settings line →
        openJournal settings.journal (programName arguments) (verbosityOf line)
            (m.leaving line) = .ok () m₁ →
          LacksSocket arguments settings.profile line m₁ (.directory .nullInPath) →
            Escapes arguments m .nullInPath
  | exhausted {settings : Settings} {line : CommandLine} {m₁ : Machine} :
      ReachesJournal arguments m settings line →
        openJournal settings.journal (programName arguments) (verbosityOf line)
            (m.leaving line) = .ok () m₁ →
          LacksSocket arguments settings.profile line m₁ .exhausted →
            Escapes arguments m .exhausted

variable {arguments : List String} {m m' : Machine} {f : Failure}

/-- Only a failure that no report is made of escapes. -/
theorem Escapes.complaint?_eq_none (escapes : Escapes arguments m f) :
    complaint? (programName arguments) f = none ∧ f ≠ .quit := by
  cases escapes with
  | homeless | document | writing => exact ⟨rfl, nofun⟩
  | journal _ unopened => cases unopened <;> exact ⟨rfl, nofun⟩
  | nullInPath | exhausted => exact ⟨rfl, nofun⟩

theorem Escapes.prepare_eq (noJournal : m.journal = none) (escapes : Escapes arguments m f) :
    ∃ m', prepare arguments m = .error f m' := by
  cases escapes with
  | homeless isLoaded => exact ⟨m, Course.prepare_eq noJournal (.unreadable isLoaded rfl)⟩
  | document isLoaded notOrdinary =>
      exact ⟨m, Course.prepare_eq noJournal (.unreadable isLoaded notOrdinary)⟩
  | writing isLoaded => exact ⟨m, Course.prepare_eq noJournal (.unreadable isLoaded rfl)⟩
  | journal reaches unopened =>
      obtain ⟨m', failed⟩ := openJournal_of_isUnopened unopened
      exact ⟨m', Course.prepare_eq noJournal (.journal reaches failed)⟩
  | nullInPath reaches opened lacks | exhausted reaches opened lacks =>
      obtain ⟨m', -, failed⟩ := lacks.enter_eq
      exact ⟨m', Course.prepare_eq noJournal (.entry reaches opened failed)⟩

theorem Escapes.runWith_eq (noJournal : m.journal = none) (escapes : Escapes arguments m f) :
    ∃ m', ∀ handOver, runWith handOver arguments m = .error f m' := by
  obtain ⟨m', failed⟩ := escapes.prepare_eq noJournal
  refine ⟨m', fun handOver => ?_⟩
  rw [runWith_of_error failed, escapes.complaint?_eq_none.1]

/-- A machine whose user has no home directory, with no settings file named in the environment. -/
def homeless : Machine :=
  .fresh ⟨1, [], ⟨["C.UTF-8"], "C.UTF-8", "UTF-8"⟩, .standard⟩
    ⟨⟨[([], .directory 0o755 0), (["tmp"], .directory 0o1777 0)]⟩, some "/", 1000, [], .linux⟩
    .empty []

end Launch

end MuxLaunch
