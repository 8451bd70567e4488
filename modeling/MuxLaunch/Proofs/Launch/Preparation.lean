import MuxLaunch.Launch.Program
import MuxLaunch.Proofs.Steps

/-! # Steps before the hand-off

What opening the journal and looking for the socket come to, and what they leave as it is. Neither
prints anything on the output or starts a client.
-/

namespace MuxLaunch

namespace Machine

/-- A machine on which nothing has happened yet. -/
def fresh (h : Host) (s : Storage) (e : Environ) (random : List Char) : Machine :=
  ⟨h, s, e, random, none, "", "", []⟩

/-- The machine once the session is left that a command line leaves. -/
def leaving (m : Machine) (line : CommandLine) : Machine :=
  if line.foreground then { m with environ := m.environ.unset sessionMarker } else m

/-- Without a journal notes go nowhere. -/
theorem noteAll_of_noJournal {m : Machine} (noJournal : m.journal = none) (ns : List Note) :
    m.noteAll ns = m := by
  unfold noteAll
  induction ns with
  | nil => rfl
  | cons n rest ih =>
      have ignored : m.note n = m := by
        simp only [note, noJournal, Option.bind_none]
      rw [List.foldl_cons, ignored]
      exact ih

/-- Nothing has been printed and no client started in between. -/
structure IsQuiet (m m' : Machine) : Prop where
  output : m'.output = m.output
  starts : m'.starts = m.starts

theorem IsQuiet.refl (m : Machine) : m.IsQuiet m :=
  ⟨rfl, rfl⟩

theorem IsQuiet.trans {m₁ m₂ m₃ : Machine} (first : m₁.IsQuiet m₂) (second : m₂.IsQuiet m₃) :
    m₁.IsQuiet m₃ :=
  ⟨second.output.trans first.output, second.starts.trans first.starts⟩

theorem isQuiet_note (m : Machine) (n : Note) : m.IsQuiet (m.note n) := by
  unfold note
  split <;> exact ⟨rfl, rfl⟩

theorem isQuiet_noteAll (m : Machine) (ns : List Note) : m.IsQuiet (m.noteAll ns) := by
  unfold noteAll
  induction ns generalizing m with
  | nil => exact .refl m
  | cons n rest ih => exact (m.isQuiet_note n).trans (ih (m.note n))

/-- The machine in another environment. -/
def withEnviron (m : Machine) (e : Environ) : Machine :=
  { m with environ := e }

/-- Notes neither depend on the environment nor change it. -/
theorem noteAll_withEnviron (m : Machine) (e : Environ) (ns : List Note) :
    (m.withEnviron e).noteAll ns = (m.noteAll ns).withEnviron e := by
  have single : ∀ (m : Machine) (n : Note),
      (m.withEnviron e).note n = (m.note n).withEnviron e := by
    intro m n
    unfold note withEnviron
    dsimp only
    split <;> rfl
  unfold noteAll
  induction ns generalizing m with
  | nil => rfl
  | cons n rest ih => rw [List.foldl_cons, List.foldl_cons, single, ih]

theorem environ_noteAll (m : Machine) (ns : List Note) : (m.noteAll ns).environ = m.environ := by
  have same := congrArg environ (m.noteAll_withEnviron m.environ ns)
  exact same

theorem isQuiet_leaving (m : Machine) (line : CommandLine) : m.IsQuiet (m.leaving line) := by
  unfold leaving
  split <;> exact ⟨rfl, rfl⟩

end Machine

namespace Launch

theorem locateSocket_eq (request : SocketRequest) (user : Option Int) (m : Machine) :
    ∃ m', m.IsQuiet m' ∧ m'.environ = m.environ ∧ locateSocket request user m =
      match (Socket.locate m.storage m.environ (user.getD m.storage.user) request
          m.random).1.result with
      | .ok path => .ok path m'
      | .error f => .error f.failure m' := by
  rw [locateSocket, stateBind_get]
  obtain ⟨work, random⟩ :=
    Socket.locate m.storage m.environ (user.getD m.storage.user) request m.random
  refine ⟨{ m with storage := work.storage, random }.noteAll work.notes, ?_,
    Machine.environ_noteAll _ _, ?_⟩
  · have moved : m.IsQuiet { m with storage := work.storage, random } := ⟨rfl, rfl⟩
    exact moved.trans (Machine.isQuiet_noteAll _ work.notes)
  · obtain ⟨result, storage, notes⟩ := work
    cases result with
    | ok path => rfl
    | error f => rfl

theorem openFile_eq (path : String) (m : Machine) :
    openFile path m =
      match m.storage.absolutePath path with
      | .error e => .error (.journalFile e) m
      | .ok full =>
          if Path.holdsNull full then .error .nullInPath m
          else
            match m.storage.openAppend full with
            | .error e => .error (.journalFile ⟨e, some full⟩) m
            | .ok (file, storage) => .ok file { m with storage } := by
  rw [openFile, stateBind_get]
  cases m.storage.absolutePath path with
  | error e => rfl
  | ok full =>
      cases holdsNull : Path.holdsNull full with
      | true => simp only [holdsNull]; rfl
      | false => cases isOpen : m.storage.openAppend full <;> simp only [holdsNull, isOpen] <;> rfl

/-- Why the journal cannot be opened. -/
inductive IsUnopened (setting : JournalSettings) (program : String) (verbosity : Int)
    (m : Machine) : Failure → Prop
  | notAPath : setting.file.isTrue = true → (∀ path, setting.file ≠ .scalar (.text path)) →
      (∀ bytes, setting.file ≠ .scalar (.bytes bytes)) →
        IsUnopened setting program verbosity m .notAPath
  | unplaced {path : String} {e : FileError} :
      Journal.file? program m.host.process verbosity setting.file = .ok (some path) →
        m.storage.absolutePath path = .error e →
          IsUnopened setting program verbosity m (.journalFile e)
  | nullInPath {path full : String} :
      Journal.file? program m.host.process verbosity setting.file = .ok (some path) →
        m.storage.absolutePath path = .ok full → Path.holdsNull full = true →
          IsUnopened setting program verbosity m .nullInPath
  | refused {path full : String} {e : Errno} :
      Journal.file? program m.host.process verbosity setting.file = .ok (some path) →
        m.storage.absolutePath path = .ok full → Path.holdsNull full = false →
          m.storage.openAppend full = .error e →
            IsUnopened setting program verbosity m (.journalFile ⟨e, some full⟩)
  | formless {path : Option String} {file : Option Location} {m' : Machine} :
      Journal.file? program m.host.process verbosity setting.file = .ok path →
        path.mapM openFile m = .ok file m' →
          Format.isValid (lineFormat setting.format).toList = false →
            IsUnopened setting program verbosity m
              (.formatWithoutFields (lineFormat setting.format))

theorem file?_eq_error {program : String} {process verbosity : Int} {setting : Yaml.Value}
    {f : Journal.FileFault} :
    Journal.file? program process verbosity setting = .error f ↔
      setting.isTrue = true ∧ (∀ path, setting ≠ .scalar (.text path)) ∧
        ∀ bytes, setting ≠ .scalar (.bytes bytes) := by
  unfold Journal.file?
  constructor
  · intro noPath
    split at noPath
    · rename_i isTrue
      split at noPath
      · cases noPath
      · cases noPath
      · rename_i notText notBytes
        exact ⟨isTrue, notText, notBytes⟩
    · split at noPath <;> cases noPath
  · rintro ⟨isTrue, notText, notBytes⟩
    rw [if_pos isTrue]
    split
    · rename_i path
      exact absurd rfl (notText path)
    · rename_i bytes
      exact absurd rfl (notBytes bytes)
    · cases f
      rfl

/-- Opening the journal's file changes the files at most. -/
theorem mapM_openFile_cases (setting : JournalSettings) (program : String) (verbosity : Int)
    (m : Machine) {path : Option String}
    (isPath : Journal.file? program m.host.process verbosity setting.file = .ok path) :
    (∃ file storage, path.mapM openFile m = .ok file { m with storage }) ∨
      ∃ f, path.mapM openFile m = .error f m ∧ IsUnopened setting program verbosity m f := by
  cases path with
  | none => exact .inl ⟨none, m.storage, rfl⟩
  | some path =>
      have opened := openFile_eq path m
      cases isFull : m.storage.absolutePath path with
      | error e =>
          rw [isFull] at opened
          exact .inr ⟨_, stateBind_of_error opened, .unplaced isPath isFull⟩
      | ok full =>
          rw [isFull] at opened
          cases holdsNull : Path.holdsNull full with
          | true =>
              simp only [holdsNull, if_true] at opened
              exact .inr ⟨_, stateBind_of_error opened, .nullInPath isPath isFull holdsNull⟩
          | false =>
              cases isOpen : m.storage.openAppend full with
              | error e =>
                  simp only [holdsNull, isOpen] at opened
                  exact .inr ⟨_, stateBind_of_error opened,
                    .refused isPath isFull holdsNull isOpen⟩
              | ok done =>
                  simp only [holdsNull, isOpen] at opened
                  exact .inl ⟨some done.1, done.2, stateBind_of_ok opened⟩

/-- The journal is opened unless something keeps it closed. -/
theorem openJournal_cases (setting : JournalSettings) (program : String) (verbosity : Int)
    (m : Machine) :
    (∃ storage journal, openJournal setting program verbosity m =
      .ok () { m with storage, journal := some journal }) ∨
    ∃ f storage, openJournal setting program verbosity m = .error f { m with storage } ∧
      IsUnopened setting program verbosity m f := by
  rw [openJournal, stateBind_get]
  cases isPath : Journal.file? program m.host.process verbosity setting.file with
  | error f =>
      obtain ⟨isTrue, notText, notBytes⟩ := file?_eq_error.mp isPath
      exact .inr ⟨.notAPath, m.storage, rfl, .notAPath isTrue notText notBytes⟩
  | ok path =>
      simp only
      rcases mapM_openFile_cases setting program verbosity m isPath with
        ⟨file, storage, isOpen⟩ | ⟨f, refused, unopened⟩
      · rw [stateBind_of_ok isOpen]
        cases isValid : Format.isValid (lineFormat setting.format).toList with
        | true => exact .inl ⟨storage, _, rfl⟩
        | false => exact .inr ⟨_, storage, rfl, .formless isPath isOpen isValid⟩
      · exact .inr ⟨f, m.storage, stateBind_of_error refused, unopened⟩

variable {setting : JournalSettings} {program : String} {verbosity : Int} {m m' : Machine}
  {f : Failure}

theorem isUnopened_of_error (failed : openJournal setting program verbosity m = .error f m') :
    IsUnopened setting program verbosity m f := by
  rcases openJournal_cases setting program verbosity m with
    ⟨_, _, opened⟩ | ⟨g, _, refused, unopened⟩
  · cases opened.symm.trans failed
  · cases refused.symm.trans failed
    exact unopened

theorem isQuiet_of_openJournal (opened : openJournal setting program verbosity m = .ok () m') :
    m.IsQuiet m' := by
  rcases openJournal_cases setting program verbosity m with ⟨_, _, again⟩ | ⟨_, _, refused, _⟩
  · cases again.symm.trans opened
    exact ⟨rfl, rfl⟩
  · cases refused.symm.trans opened

theorem openJournal_of_isUnopened (unopened : IsUnopened setting program verbosity m f) :
    ∃ m', openJournal setting program verbosity m = .error f m' := by
  rw [openJournal, stateBind_get]
  cases unopened with
  | notAPath isTrue notText notBytes =>
      have noPath : Journal.file? program m.host.process verbosity setting.file =
          .error .notAPath := file?_eq_error.mpr ⟨isTrue, notText, notBytes⟩
      rw [noPath]
      exact ⟨m, rfl⟩
  | @unplaced path e isPath isFull =>
      have refused : openFile path m = .error (.journalFile e) m := by rw [openFile_eq, isFull]
      rw [isPath]
      exact ⟨m, stateBind_of_error (stateBind_of_error refused)⟩
  | @nullInPath path full isPath isFull holdsNull =>
      have refused : openFile path m = .error .nullInPath m := by
        rw [openFile_eq, isFull]
        exact if_pos holdsNull
      rw [isPath]
      exact ⟨m, stateBind_of_error (stateBind_of_error refused)⟩
  | @refused path full e isPath isFull noNull isOpen =>
      have refused : openFile path m = .error (.journalFile ⟨e, some full⟩) m := by
        rw [openFile_eq, isFull]
        simp [noNull, isOpen]
      rw [isPath]
      exact ⟨m, stateBind_of_error (stateBind_of_error refused)⟩
  | @formless path file m' isPath isOpen notValid =>
      rw [isPath]
      simp only
      rw [stateBind_of_ok isOpen]
      simp only [notValid]
      exact ⟨m', rfl⟩

end Launch

end MuxLaunch
