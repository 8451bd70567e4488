import MuxLaunch.Proofs.Flags.Given
import MuxLaunch.Proofs.Launch.Delivery
import MuxLaunch.Proofs.Launch.Stages

/-! # From the flags to the client

A value given for a deferred option goes from the command line through the queue into the trees,
where it stands when the client starts, whatever the configuration files have set before.
-/

namespace MuxLaunch

/-- The letter of the flag for an option that waits. -/
def Deferrable.letter : Deferrable → Char
  | apiKey => 'k'
  | sessionName => 'n'
  | readOnlyName => 'r'
  | authorizedKeys => 'a'

namespace CommandLine

theorem get?_deferred (line : CommandLine) :
    line.deferred.get? .apiKey = line.apiKey ∧
      line.deferred.get? .sessionName = line.sessionName ∧
      line.deferred.get? .readOnlyName = line.readOnlyName ∧
      line.deferred.get? .authorizedKeys = line.authorizedKeys := by
  obtain ⟨_, _, _, _, _, _, _, _, _, _, _, apiKey, sessionName, readOnlyName, authorizedKeys, _⟩ :=
    line
  cases apiKey <;> cases sessionName <;> cases readOnlyName <;> cases authorizedKeys <;>
    exact ⟨rfl, rfl, rfl, rfl⟩

/-- However a command line is read, what waits is the last value of each flag. -/
theorem get?_deferred_of_ok {words : List String} {line : CommandLine}
    (isRead : ofWords words = .ok line) (d : Deferrable) :
    line.deferred.get? d = (Walk.ofWords words).last? d.letter := by
  obtain ⟨command, values⟩ := tally_of_ok isRead
  obtain ⟨apiKey, sessionName, readOnlyName, authorizedKeys⟩ := line.get?_deferred
  cases d with
  | apiKey => rw [apiKey, values]; exact Walk.value?_scan words .apiKey
  | sessionName => rw [sessionName, values]; exact Walk.value?_scan words .sessionName
  | readOnlyName => rw [readOnlyName, values]; exact Walk.value?_scan words .readOnlyName
  | authorizedKeys => rw [authorizedKeys, values]; exact Walk.value?_scan words .authorizedKeys

end CommandLine

namespace Machine

theorem starts_noteAll (m : Machine) (ns : List Note) : (m.noteAll ns).starts = m.starts :=
  (m.isQuiet_noteAll ns).starts

/-- The file at a path is text, if it can be read at all. -/
def HoldsText (m : Machine) (path : String) : Prop :=
  ∀ f, m.storage.readText path ≠ .error (.encoding f)

end Machine

namespace Launch

theorem buildTrees_isFilled {shell : String} {directory : Option String} {m m' : Machine}
    {ts : OptionTrees} (h : buildTrees shell directory m = .ok ts m') : ts.IsFilled := by
  cases h
  exact OptionTrees.IsFilled.withEditorKeys (OptionTrees.isFilled_initial _ _ _) _

/-- The context after startup: filled trees, the options of the command line waiting, no causes. -/
theorem startup_eq_ok {arguments : List String} {p : Profile} {setUp : Nat → Launch Unit}
    {user : Option Int} {directory : Option String} {m m' : Machine} {c : Context}
    (h : startup arguments p setUp user directory m = .ok c m') :
    c.trees.IsFilled ∧ c.causes = [] ∧
      ∀ d, c.deferred.get? d = (Walk.ofWords arguments.tail).last? d.letter := by
  cases stages_of_startup h with
  | intro isRead _ _ isBuilt _ =>
      exact ⟨buildTrees_isFilled isBuilt, rfl, CommandLine.get?_deferred_of_ok isRead⟩

variable {m : Machine}

theorem loadFile_of_text {path : String} (isText : m.HoldsText path) (isOptional : Bool)
    (r : CommandRunner) :
    ∃ count r' m', loadFile path isOptional r m = .ok (count, r') m' ∧
      r.trees.Leads r'.trees ∧ m'.starts = m.starts := by
  cases isLoaded : Config.load m.storage path isOptional r with
  | error f => exact absurd (Config.load_eq_error isLoaded) (isText f)
  | ok done =>
      obtain ⟨count, loaded⟩ := done
      have leads : r.trees.Leads loaded.trees := Config.load_leads isLoaded
      refine ⟨count, { loaded with notes := [] }, m.noteAll loaded.notes, ?_, leads,
        m.starts_noteAll loaded.notes⟩
      have looked : (get : Launch Machine) m = .ok m m := rfl
      rw [loadFile, stateBind_of_ok looked, isLoaded]
      rfl

/-- The configuration files that are read are text. -/
def ReadsText (file : Option String) (r : CommandRunner) (m : Machine) : Prop :=
  match file with
  | some path => m.HoldsText path
  | none =>
      m.HoldsText Config.systemPath ∧
        ∀ count r' m', loadFile Config.systemPath true r m = .ok (count, r') m' →
          ∀ home, Shell.home? m'.host m'.storage m'.environ = some home →
            m'.HoldsText (Path.join home Config.userName)

theorem loadFiles_of_text {file : Option String} {r : CommandRunner}
    (isText : ReadsText file r m) :
    ∃ count r' m', loadFiles file r m = .ok (count, r') m' ∧
      r.trees.Leads r'.trees ∧ m'.starts = m.starts := by
  cases file with
  | some path => exact loadFile_of_text isText false r
  | none =>
      obtain ⟨systemIsText, ownIsText⟩ := isText
      obtain ⟨count, r', m', isLoaded, leads, starts⟩ := loadFile_of_text systemIsText true r
      have looked : (get : Launch Machine) m' = .ok m' m' := rfl
      simp only [loadFiles, stateBind_of_ok isLoaded, stateBind_of_ok looked]
      cases isHome : Shell.home? m'.host m'.storage m'.environ with
      | none => exact ⟨count, r', m', rfl, leads, starts⟩
      | some home =>
          obtain ⟨more, r'', m'', again, leads', starts'⟩ :=
            loadFile_of_text (ownIsText count r' m' isLoaded home isHome) true r'
          refine ⟨count + more, r'', m'', ?_, leads.trans leads', starts'.trans starts⟩
          exact stateBind_of_ok again

/-- What a context comes to once the configuration files have left a runner behind: the flags of a
    walk have the last word on the options they defer, and all else stays. -/
structure IsSettled (w : Walk) (c : Context) (r : CommandRunner) (settled : Context) : Prop where
  flagged : ∀ (d : Deferrable) value, w.last? d.letter = some value →
    settled.trees.session.value? d.name = some (.text value)
  others : ∀ scope name,
    (∀ d : Deferrable, scope = .session → name = d.name → w.last? d.letter = none) →
    (settled.trees.tree scope).value? name = (r.trees.tree scope).value? name
  environ : settled.trees.environ = r.trees.environ
  causes : settled.causes = r.causes.map Cause.message
  nothingWaits : settled.deferred = .empty
  same : settled = { c with
    trees := settled.trees, deferred := settled.deferred, causes := settled.causes }

def settledWith (c : Context) (r : CommandRunner) : Context :=
  { c with
    trees := c.deferred.pending.foldl OptionTrees.withDeferred r.trees
    deferred := .empty
    causes := c.causes ++ r.causes.map Cause.message }

theorem isSettled_settledWith {c : Context} {r : CommandRunner} {w : Walk}
    (filled : r.trees.IsFilled) (noCauses : c.causes = [])
    (waits : ∀ d, c.deferred.get? d = w.last? d.letter) : IsSettled w c r (settledWith c r) where
  flagged d value isLast :=
    OptionTrees.value?_foldl_of_mem _ c.deferred.nodup_pending filled
      (DeferredQueue.mem_pending.mpr ((waits d).trans isLast))
  others scope name unflagged := by
    refine OptionTrees.value?_foldl_of_ne _ _ _ fun isSession entry member same => ?_
    have waiting := DeferredQueue.mem_pending.mp member
    rw [waits, unflagged entry.1 isSession same] at waiting
    cases waiting
  environ := OptionTrees.environ_foldl _ _
  causes := by simp only [settledWith, noCauses, List.nil_append]
  nothingWaits := rfl
  same := rfl

theorem settle_of_text {c : Context} (filled : c.trees.IsFilled)
    (isText : ReadsText c.configFile { trees := c.trees } m) :
    ∃ count r m₁ m₂, loadFiles c.configFile { trees := c.trees } m = .ok (count, r) m₁ ∧
      r.trees.IsFilled ∧ settle c m = .ok (settledWith c r) m₂ ∧ m₂.starts = m.starts := by
  obtain ⟨count, r, m₁, isLoaded, leads, starts⟩ := loadFiles_of_text isText
  have loadedFilled := leads.isFilled filled
  obtain ⟨notes, delivered⟩ := deliverDeferred_eq c.deferred loadedFilled m₁
  have settled : ∃ m₂, settle c m = .ok (settledWith c r) m₂ ∧ m₂.starts = m₁.starts := by
    rw [settle, stateBind_of_ok isLoaded]
    dsimp only
    rw [stateBind_of_ok delivered]
    exact ⟨_, rfl, (Machine.starts_noteAll _ _).trans (Machine.starts_noteAll _ _)⟩
  obtain ⟨m₂, isSettled, sameStarts⟩ := settled
  exact ⟨count, r, m₁, m₂, isLoaded, loadedFilled, isSettled, sameStarts.trans starts⟩

theorem printLines_eq (lines : List String) (m : Machine) :
    ∃ m', lines.forM printLine m = .ok () m' ∧ m'.starts = m.starts := by
  induction lines generalizing m with
  | nil => exact ⟨m, rfl, rfl⟩
  | cons line rest ih =>
      obtain ⟨m', printed, starts⟩ := ih (m.print (line ++ "\n"))
      exact ⟨m', printed, starts⟩

/-- The first of the installed clients is used unless one is given. It is started once. -/
theorem handOff_of_settle {c settled : Context} {m' : Machine}
    (isSettled : settle c m = .ok settled m') (client : Option Client) (installed : List Client) :
    ∃ m'', handOff c client installed m =
        (match client <|> installed.head? with
          | none => .ok 0 m''
          | some chosen =>
              match chosen.reply with
              | .exit status => .ok status m''
              | .interrupt => .error .interrupted m'') ∧
      m''.starts =
        m'.starts ++ (client <|> installed.head?).toList.map fun chosen => ⟨chosen, settled⟩ := by
  have started : ∀ chosen (m : Machine), start chosen settled m =
      (match chosen.reply with
        | .exit status => .ok status { m with starts := m.starts ++ [⟨chosen, settled⟩] }
        | .interrupt =>
            .error .interrupted { m with starts := m.starts ++ [⟨chosen, settled⟩] }) := by
    intro chosen m
    obtain ⟨name, reply⟩ := chosen
    cases reply <;> rfl
  rw [handOff, stateBind_of_ok isSettled]
  cases client with
  | some chosen => exact ⟨_, started chosen m', rfl⟩
  | none =>
      cases installed with
      | nil =>
          obtain ⟨m'', printed, starts⟩ := printLines_eq (report settled) m'
          refine ⟨m''.noteAll [⟨.clientMissing, "No client entry point installed, dry run only"⟩],
            ?_, ?_⟩
          · exact stateBind_of_ok printed
          · rw [Machine.starts_noteAll, starts]
            exact (List.append_nil _).symm
      | cons chosen rest =>
          cases rest with
          | nil => exact ⟨_, started chosen m', rfl⟩
          | cons second others =>
              have noted : startInstalled (chosen :: second :: others) settled m' =
                  start chosen settled (m'.noteAll [⟨.clientAmbiguous,
                    "Multiple client entry points registered, using " ++ chosen.name.getD ""⟩]) :=
                rfl
              refine ⟨_, noted.trans (started chosen _), ?_⟩
              rw [Machine.starts_noteAll]
              rfl

/-- A value given for a deferred option stands in the session tree when the client starts, whatever
    the configuration files hold. Every other option is as they left it, no cause is added, nothing
    waits any more, and the client is started once and decides how the program ends. -/
theorem handOff_of_startup {arguments : List String} {p : Profile} {setUp : Nat → Launch Unit}
    {user : Option Int} {directory : Option String} {m₀ m₁ : Machine} {c : Context}
    (started : startup arguments p setUp user directory m₀ = .ok c m₁) (m : Machine)
    (isText : ReadsText c.configFile { trees := c.trees } m) (client : Option Client)
    (installed : List Client) :
    ∃ count r loaded settled m', loadFiles c.configFile { trees := c.trees } m =
        .ok (count, r) loaded ∧
      IsSettled (Walk.ofWords arguments.tail) c r settled ∧
      handOff c client installed m =
        (match client <|> installed.head? with
          | none => .ok 0 m'
          | some chosen =>
              match chosen.reply with
              | .exit status => .ok status m'
              | .interrupt => .error .interrupted m') ∧
      m'.starts =
        m.starts ++ (client <|> installed.head?).toList.map fun chosen => ⟨chosen, settled⟩ := by
  obtain ⟨filled, noCauses, waits⟩ := startup_eq_ok started
  obtain ⟨count, r, loaded, m₂, isLoaded, loadedFilled, isSettled, starts⟩ :=
    settle_of_text filled isText
  obtain ⟨m', ended, startedOnce⟩ := handOff_of_settle isSettled client installed
  rw [starts] at startedOnce
  exact ⟨count, r, loaded, settledWith c r, m', isLoaded,
    isSettled_settledWith loadedFilled noCauses waits, ended, startedOnce⟩

/-- A machine with a file that sets a deferred option and another one and has a line that fails. -/
def configured : Machine :=
  { Machine.bare with
    storage := { Machine.bare.storage with
      files := Machine.bare.storage.files.set ["conf"]
        (.file 0o644 0
          ("set tmate-api-key x\nset mouse on\nbogus".toList.map fun c => c.toNat.toUInt8)) } }

theorem handOff_dashed :
    ∃ c m₁ settled m',
      startup ["tmate", "-S", "/s", "-f", "/conf", "-k", "--", "-n", "-q"] {} (fun _ => pure ())
        none none .bare = .ok c m₁ ∧
      (configured.storage.readText "/conf").toOption =
        some "set tmate-api-key x\nset mouse on\nbogus".toList ∧
      ReadsText c.configFile { trees := c.trees } configured ∧
      settled.trees.session.value? "tmate-api-key" = some (.text "--") ∧
      settled.trees.session.value? "tmate-session-name" = some (.text "-q") ∧
      settled.trees.session.value? "mouse" = some (.flag true) ∧
      settled.causes = ["/conf:3: unknown command: bogus"] ∧
      handOff c (some ⟨none, .exit 3⟩) [] configured = .ok 3 m' ∧
      m'.starts = [⟨⟨none, .exit 3⟩, settled⟩] := by
  obtain ⟨c, m₁, started, isFile, isLoaded⟩ :
      ∃ c m₁, startup ["tmate", "-S", "/s", "-f", "/conf", "-k", "--", "-n", "-q"] {}
        (fun _ => pure ()) none none .bare = .ok c m₁ ∧ c.configFile = some "/conf" ∧
        (match loadFiles c.configFile { trees := c.trees } configured with
          | .ok (_, r) _ =>
              some (r.trees.session.value? "mouse", r.causes.map Cause.message)
          | .error _ _ => none) =
            some (some (.flag true), ["/conf:3: unknown command: bogus"]) :=
    ⟨_, _, rfl, rfl, by decide +kernel⟩
  have content : (configured.storage.readText "/conf").toOption =
      some "set tmate-api-key x\nset mouse on\nbogus".toList := by
    decide +kernel
  have isText : ReadsText c.configFile { trees := c.trees } configured := by
    rw [isFile]
    intro f isError
    rw [isError] at content
    cases content
  obtain ⟨_, r, _, settled, m', loaded, isSettled, ended, startedOnce⟩ :=
    handOff_of_startup started configured isText (some ⟨none, .exit 3⟩) []
  rw [loaded] at isLoaded
  obtain ⟨mouse, causes⟩ := Prod.mk.inj (Option.some.inj isLoaded)
  have kept := isSettled.others .session "mouse" fun d _ same => by
    cases d <;> exact absurd same (by decide)
  exact ⟨c, m₁, settled, m', started, content, isText, isSettled.flagged .apiKey "--" (by decide),
    isSettled.flagged .sessionName "-q" (by decide), kept.trans mouse,
    isSettled.causes.trans causes, ended, startedOnce⟩

end Launch

end MuxLaunch
