import MuxLaunch.Proofs.Launch.HandOff

/-! # Configuration files that cannot be read

A configuration file that cannot be opened is a cause at most, and the launch goes on. A file whose
bytes are no text is the one thing that stops it: the client is not started.
-/

namespace MuxLaunch

namespace Launch

variable {file : Option String} {path : String} {r : CommandRunner} {m : Machine}

theorem loadFile_of_undecodable {f : Text.Utf8.Fault}
    (noText : m.storage.readText path = .error (.encoding f)) (isOptional : Bool)
    (r : CommandRunner) : loadFile path isOptional r m = .error (.configuration f) m := by
  have isLoaded : Config.load m.storage path isOptional r = .error f := by
    rw [Config.load, noText]
  rw [loadFile, stateBind_get, isLoaded]
  rfl

theorem exists_fault_of_not_holdsText (noText : ¬m.HoldsText path) :
    ∃ f, m.storage.readText path = .error (.encoding f) := by
  obtain ⟨f, isFaulty⟩ := Classical.not_forall.mp noText
  exact ⟨f, Classical.not_not.mp isFaulty⟩

theorem loadFiles_of_undecodable (noText : ¬ReadsText file r m) :
    ∃ f m', loadFiles file r m = .error (.configuration f) m' ∧ m'.starts = m.starts := by
  cases file with
  | some path =>
      obtain ⟨f, isFaulty⟩ := exists_fault_of_not_holdsText noText
      exact ⟨f, m, loadFile_of_undecodable isFaulty false r, rfl⟩
  | none =>
      by_cases systemIsText : m.HoldsText Config.systemPath
      · obtain ⟨count, r', m', isLoaded, -, starts⟩ := loadFile_of_text systemIsText true r
        -- The file of the system has been loaded, so it is the user's own that is no text.
        obtain ⟨home, isHome, ownNoText⟩ :
            ∃ home, Shell.home? m'.host m'.storage m'.environ = some home ∧
              ¬m'.HoldsText (Path.join home Config.userName) := by
          refine Classical.byContradiction fun none => noText ⟨systemIsText, ?_⟩
          intro count' r'' m'' again home isHome
          cases isLoaded.symm.trans again
          exact Classical.byContradiction fun ownNoText => none ⟨home, isHome, ownNoText⟩
        obtain ⟨f, isFaulty⟩ := exists_fault_of_not_holdsText ownNoText
        refine ⟨f, m', ?_, starts⟩
        simp only [loadFiles, stateBind_of_ok isLoaded, stateBind_get, isHome]
        exact stateBind_of_error (loadFile_of_undecodable isFaulty true r')
      · obtain ⟨f, isFaulty⟩ := exists_fault_of_not_holdsText systemIsText
        refine ⟨f, m, ?_, rfl⟩
        rw [loadFiles]
        exact stateBind_of_error (loadFile_of_undecodable isFaulty true r)

/-- A file that cannot be opened adds a cause at most and leaves the trees alone, and a file that is
    text comes to a number. So the files that are read, the deferred options and the client follow
    unless one of the files is no text: then the launch stops before the client. -/
theorem handOff_stops_at_undecodable (s : Storage) (path : String) (isOptional : Bool)
    (r : CommandRunner) {c : Context} (filled : c.trees.IsFilled) (client : Option Client)
    (installed : List Client) (m : Machine) :
    (match s.bytes path with
      | .error e =>
          ∃ r', Config.load s path isOptional r = .ok (0, r') ∧ r'.trees = r.trees ∧
            r'.causes = r.causes ++ (Config.unreadCause? path isOptional e).toList
      | .ok content =>
          match Text.Utf8.decode content with
          | .error f => Config.load s path isOptional r = .error f
          | .ok _ =>
              ∃ count r', Config.load s path isOptional r = .ok (count, r') ∧
                r.trees.Leads r'.trees) ∧
      (ReadsText c.configFile { trees := c.trees } m →
        ∃ count r loaded m', loadFiles c.configFile { trees := c.trees } m =
            .ok (count, r) loaded ∧
          handOff c client installed m =
            (match client <|> installed.head? with
              | none => .ok 0 m'
              | some chosen =>
                  match chosen.reply with
                  | .exit status => .ok status m'
                  | .interrupt => .error .interrupted m') ∧
          m'.starts = m.starts ++
            (client <|> installed.head?).toList.map fun chosen => ⟨chosen, settledWith c r⟩) ∧
      (¬ReadsText c.configFile { trees := c.trees } m →
        ∃ f m', handOff c client installed m = .error (.configuration f) m' ∧
          m'.starts = m.starts) := by
  refine ⟨?_, fun isText => ?_, fun noText => ?_⟩
  · cases isFile : s.bytes path with
    | error e => exact Config.load_of_unread isFile isOptional r
    | ok content =>
        dsimp only
        cases isDecoded : Text.Utf8.decode content with
        | error f =>
            dsimp only
            rw [Config.load, Config.readText_of_undecodable isFile isDecoded]
        | ok text =>
            cases isLoaded : Config.load s path isOptional r with
            | ok done => exact ⟨done.1, done.2, rfl, Config.load_leads isLoaded⟩
            | error f =>
                have isRead := Config.load_eq_error isLoaded
                simp only [Storage.readText, isFile, isDecoded, reduceCtorEq] at isRead
  · obtain ⟨count, r, loaded, m₁, isLoaded, -, isSettled, starts⟩ := settle_of_text filled isText
    obtain ⟨m', ended, startedOnce⟩ := handOff_of_settle isSettled client installed
    rw [starts] at startedOnce
    exact ⟨count, r, loaded, m', isLoaded, ended, startedOnce⟩
  · obtain ⟨f, m', stopped, starts⟩ := loadFiles_of_undecodable noText
    have unsettled : settle c m = .error (.configuration f) m' := stateBind_of_error stopped
    exact ⟨f, m', stateBind_of_error unsettled, starts⟩

/-- A directory in the place of the configuration file does not keep the client from starting. -/
theorem handOff_past_directory :
    ∃ c m₁, startup ["tmate", "-S", "/s", "-f", "/tmp"] {} (fun _ => pure ()) none none .bare =
        .ok c m₁ ∧
      c.trees.IsFilled ∧ ReadsText c.configFile { trees := c.trees } .bare ∧
      (∃ r', Config.load Machine.bare.storage "/tmp" false { trees := c.trees } = .ok (0, r') ∧
        r'.trees = c.trees ∧ r'.causes = [⟨"/tmp: Is a directory", []⟩]) ∧
      ∃ m', handOff c (some ⟨none, .exit 3⟩) [] .bare = .ok 3 m' ∧ m'.starts.length = 1 := by
  obtain ⟨c, m₁, started, isFile⟩ :
      ∃ c m₁, startup ["tmate", "-S", "/s", "-f", "/tmp"] {} (fun _ => pure ()) none none .bare =
        .ok c m₁ ∧ c.configFile = some "/tmp" :=
    ⟨_, _, rfl, rfl⟩
  have filled := (startup_eq_ok started).1
  have isText : ReadsText c.configFile { trees := c.trees } .bare := by
    rw [isFile]
    intro f isError
    have isDirectory : Machine.bare.storage.readText "/tmp" =
        .error (.file ⟨.isADirectory, some "/tmp"⟩) := rfl
    cases isDirectory.symm.trans isError
  have unread : Machine.bare.storage.bytes "/tmp" = .error .isADirectory := rfl
  obtain ⟨loads, goesOn, -⟩ := handOff_stops_at_undecodable Machine.bare.storage "/tmp" false
    { trees := c.trees } filled (some ⟨none, .exit 3⟩) [] .bare
  rw [unread] at loads
  obtain ⟨_, _, _, m', _, ended, startedOnce⟩ := goesOn isText
  refine ⟨c, m₁, started, filled, isText, loads, m', ended, ?_⟩
  rw [startedOnce]
  rfl

def undecodable : Machine :=
  { Machine.bare with
    storage := { Machine.bare.storage with
      files := Machine.bare.storage.files.set ["conf"] (.file 0o644 0 [0xff]) } }

/-- One byte that begins no character, and the client is not started. -/
theorem handOff_undecodable :
    ∃ c m₁, startup ["tmate", "-S", "/s", "-f", "/conf"] {} (fun _ => pure ()) none none .bare =
        .ok c m₁ ∧
      undecodable.storage.bytes "/conf" = .ok [0xff] ∧
      Config.load undecodable.storage "/conf" false { trees := c.trees } =
        .error ⟨0, [0xff], .start⟩ ∧
      ∃ m', handOff c (some ⟨none, .exit 3⟩) [] undecodable =
          .error (.configuration ⟨0, [0xff], .start⟩) m' ∧ m'.starts = [] := by
  obtain ⟨c, m₁, started, isFile⟩ :
      ∃ c m₁, startup ["tmate", "-S", "/s", "-f", "/conf"] {} (fun _ => pure ()) none none .bare =
        .ok c m₁ ∧ c.configFile = some "/conf" :=
    ⟨_, _, rfl, rfl⟩
  have content : undecodable.storage.bytes "/conf" = .ok [0xff] := rfl
  have isFaulty : undecodable.storage.readText "/conf" = .error (.encoding ⟨0, [0xff], .start⟩) :=
    Config.readText_of_undecodable content rfl
  have stopped : loadFiles c.configFile { trees := c.trees } undecodable =
      .error (.configuration ⟨0, [0xff], .start⟩) undecodable := by
    rw [isFile]
    exact loadFile_of_undecodable isFaulty false _
  have unsettled : settle c undecodable = .error (.configuration ⟨0, [0xff], .start⟩) undecodable :=
    stateBind_of_error stopped
  refine ⟨c, m₁, started, content, ?_, undecodable, stateBind_of_error unsettled, rfl⟩
  rw [Config.load, isFaulty]

end Launch

end MuxLaunch
