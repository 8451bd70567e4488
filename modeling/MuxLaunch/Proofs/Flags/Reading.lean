import MuxLaunch.Launch.Startup
import MuxLaunch.Proofs.Flags.Bundle
import MuxLaunch.Proofs.Flags.Scan

/-! # Reading a command line

On a command line whose letters are all known and whose values are all there, the scan and the
reading of bundles come to what the walk over the letters asks for, whatever the values look like.
-/

namespace MuxLaunch

namespace Walk

theorem isProper_none {letter : Char} :
    (⟨letter, none⟩ : MetFlag).isProper ↔ Arity.ofLetter letter = some .switch := by
  cases isKnown : Arity.ofLetter letter with
  | none => simp [MetFlag.isProper, isKnown]
  | some a => cases a <;> simp [MetFlag.isProper, isKnown]

theorem plain_proper {letters : List Char} :
    (∀ f ∈ plain letters, f.isProper) ↔ ∀ c ∈ letters, Arity.ofLetter c = some .switch := by
  simp [plain, isProper_none]

theorem isWellFormed_prepend (w : Walk) (met : List MetFlag) :
    (w.prepend met).IsWellFormed ↔ (∀ f ∈ met, f.isProper) ∧ w.IsWellFormed :=
  List.forall_mem_append

theorem letters_prepend (w : Walk) (met : List MetFlag) :
    (w.prepend met).letters = met.map MetFlag.letter ++ w.letters :=
  List.map_append

theorem map_letter_plain (letters : List Char) : (plain letters).map MetFlag.letter = letters := by
  simp [plain, Function.comp_def]

end Walk

/-- A value that begins with a dash makes one bundle with the word before it. -/
theorem IsBundle.glue {word value : String} {pre : List Char} {letter : Char}
    (bundle : IsBundle word (pre ++ [letter])) (dash : startsWithDash value = true) :
    IsBundle (word ++ value) (pre ++ letter :: value.toList) ∧ value.toList ≠ [] := by
  have nonempty : value.toList ≠ [] := by
    intro isNil
    simp [startsWithDash, isNil] at dash
  exact ⟨by simpa using bundle.append value, nonempty⟩

namespace CommandLine

theorem startsCommand_of_bundle {word : String} {text : List Char} (bundle : IsBundle word text)
    (isRead : (Bundle.read? arity text).isSome) : startsCommand word = false := by
  simp [startsCommand, bundle.1, bundle.2, isRead]

theorem readWords_bundle {word : String} {text letters : List Char} (bundle : IsBundle word text)
    (isRead : Bundle.read? arity text = some (.ok ⟨letters, none⟩)) (line : CommandLine)
    (rest : List String) :
    readWords [] line (word :: rest) =
      line.actAll letters >>= fun line => readWords [] line rest := by
  rw [readWords, startsCommand_of_bundle bundle (by simp [isRead])]
  simp [bundle.2, isRead]

/-- The word after a wanting letter is passed over: the scan has its value. -/
theorem readWords_wanting {word value : String} {text letters : List Char} {letter : Char}
    (bundle : IsBundle word text)
    (isRead : Bundle.read? arity text = some (.ok ⟨letters, some letter⟩))
    (noDash : startsWithDash value = false) (line : CommandLine) (rest : List String) :
    readWords [] line (word :: value :: rest) =
      line.actAll letters >>= fun line => readWords [] line rest := by
  rw [readWords, startsCommand_of_bundle bundle (by simp [isRead])]
  have notDouble : value ≠ "--" := by
    rintro rfl
    exact absurd noDash (by decide)
  have isCommand : startsCommand value = true := by simp [startsCommand, endsFlags, noDash]
  simp [bundle.2, isRead, notDouble, isCommand]

theorem actAll_append (line : CommandLine) (letters more : List Char) :
    line.actAll (letters ++ more) = line.actAll letters >>= fun line => line.actAll more :=
  List.foldlM_append

private theorem bind_eq_map_bind {ε α β γ : Type} (x : Except ε α) {f : α → Except ε γ}
    {g : α → Except ε β} {h : β → γ} (same : ∀ a, f a = (g a).map h) :
    x >>= f = (x >>= g).map h := by
  cases x with
  | error e => rfl
  | ok a => exact same a

/-- Values glued to their flags are passed over and nothing else is: reading the words that the
    scan leaves comes to acting on the letters met on the walk. -/
theorem readWords_scan (words : List String) (proper : (Walk.ofWords words).IsWellFormed)
    (line : CommandLine) :
    readWords [] line (FlagScan.ofWords words).words =
      (line.actAll (Walk.ofWords words).letters).map fun line =>
        { line with command := (Walk.ofWords words).rest } := by
  revert proper line
  refine Walk.along (motive := fun _ s w => w.IsWellFormed → ∀ line : CommandLine,
    readWords [] line s.words =
      (line.actAll w.letters).map fun line => { line with command := w.rest })
    ?_ ?_ ?_ ?_ ?_ ?_ words
  · intro _ line
    rfl
  · intro word rest isEnd _ line
    simp [readWords, startsCommand, isEnd, readWords.finish, Walk.letters, actAll, Except.map, pure,
      Except.pure]
  · intro word rest text s w bundle _ ih proper line
    rw [Walk.isWellFormed_prepend, Walk.plain_proper] at proper
    have isRead := Bundle.read?_switches ofLetter_equals bundle.ne_nil proper.1
    rw [← arity_eq] at isRead
    rw [FlagScan.prepend, List.singleton_append, readWords_bundle bundle isRead,
      Walk.letters_prepend, Walk.map_letter_plain, actAll_append]
    exact bind_eq_map_bind _ (ih proper.2)
  · intro word pre letter flag _ _ isFlag proper
    have lacking := proper ⟨letter, none⟩ (by simp)
    rw [Walk.isProper_none, value_of_flag isFlag] at lacking
    cases lacking
  · intro word value rest pre letter flag s w bundle _ isFlag ih proper line
    rw [Walk.isWellFormed_prepend, List.forall_mem_append, Walk.plain_proper] at proper
    have isRead := Bundle.read?_value ofLetter_equals proper.1.1 (value_of_flag isFlag)
    rw [← arity_eq] at isRead
    rw [FlagScan.prepend, Walk.letters_prepend, List.map_append, Walk.map_letter_plain,
      List.map_singleton, actAll_append]
    -- The scan glues a value with a dash to its flag and leaves any other in a word of its own.
    by_cases dash : startsWithDash value = true
    · obtain ⟨whole, nonempty⟩ := bundle.glue dash
      have isRead := isRead value.toList
      rw [if_neg nonempty] at isRead
      rw [if_pos dash, List.singleton_append, readWords_bundle whole isRead]
      exact bind_eq_map_bind _ (ih proper.2)
    · rw [if_neg dash]
      refine (readWords_wanting bundle (isRead []) (by simpa using dash) line s.words).trans ?_
      exact bind_eq_map_bind _ (ih proper.2)
  · intro word rest pre letter flag more s w bundle nonempty _ isFlag ih proper line
    rw [Walk.isWellFormed_prepend, List.forall_mem_append, Walk.plain_proper] at proper
    have isRead := Bundle.read?_value ofLetter_equals proper.1.1 (value_of_flag isFlag) more
    rw [← arity_eq, if_neg nonempty] at isRead
    rw [FlagScan.prepend, Walk.letters_prepend, List.map_append, Walk.map_letter_plain,
      List.map_singleton, actAll_append, List.singleton_append, readWords_bundle bundle isRead]
    exact bind_eq_map_bind _ (ih proper.2)

/-- The command line after letters none of which ends it early. -/
def tally (line : CommandLine) (letters : List Char) : CommandLine :=
  { line with
    colours256 := line.colours256 || letters.contains '2'
    control := line.control + letters.count 'C'
    login := line.login || letters.contains 'l'
    quiet := line.quiet || letters.contains 'q'
    utf8 := line.utf8 || letters.contains 'u'
    verbosity := line.verbosity + letters.count 'v'
    foreground := line.foreground || letters.contains 'F' }

theorem tally_nil (line : CommandLine) : line.tally [] = line := by
  simp [tally]

theorem tally_append (line : CommandLine) (letters more : List Char) :
    (line.tally letters).tally more = line.tally (letters ++ more) := by
  simp only [tally, List.contains_append, List.count_append, Bool.or_assoc, Nat.add_assoc]

/-- How a letter that asks for the version or for help ends the reading. -/
def endAt (letter : Char) : EarlyEnd :=
  if letter = 'V' then .version else .usage .help

theorem act_early (line : CommandLine) {letter : Char} (early : letter = 'V' ∨ letter = 'h') :
    line.act letter = .error (endAt letter) := by
  rcases early with rfl | rfl <;> rfl

theorem act_eq_tally (line : CommandLine) {letter : Char}
    (late : ¬(letter = 'V' ∨ letter = 'h')) : line.act letter = .ok (line.tally [letter]) := by
  have other : ∀ known, (letter = known → False) → (known == letter) = false :=
    fun known different => by simpa using Ne.symm different
  rw [act]
  fun_cases SwitchFlag.ofLetter? letter
  all_goals simp_all [tally]

/-- The first letter that ends the reading decides; otherwise the letters are counted. -/
theorem actAll_eq (line : CommandLine) (letters : List Char) :
    line.actAll letters =
      match letters.find? fun letter => letter = 'V' ∨ letter = 'h' with
      | some letter => .error (endAt letter)
      | none => .ok (line.tally letters) := by
  induction letters generalizing line with
  | nil => simp [actAll, tally, pure, Except.pure]
  | cons letter rest ih =>
      have step : line.actAll (letter :: rest) = line.act letter >>= fun line => line.actAll rest :=
        rfl
      by_cases early : letter = 'V' ∨ letter = 'h'
      · rw [step, act_early line early, List.find?_cons_of_pos (by simpa using early)]
        rfl
      · rw [step, act_eq_tally line early, List.find?_cons_of_neg (by simpa using early)]
        refine (ih (line.tally [letter])).trans ?_
        rw [tally_append, List.singleton_append]

theorem dropDash_eq (command : List String) :
    dropDash command = if command.head? = some "--" then command.tail else command := by
  unfold dropDash
  split
  · rfl
  · rename_i noDash
    rw [if_neg]
    intro isDash
    obtain ⟨rest, isRest⟩ := List.head?_eq_some_iff.mp isDash
    exact noDash rest isRest

theorem withValues_tally (words : List String) :
    ({ ({} : CommandLine).tally (Walk.ofWords words).letters with
        command := (Walk.ofWords words).rest }).withValues (FlagScan.ofWords words) =
      (Walk.ofWords words).commandLine := by
  simp only [withValues, tally, Walk.value?_scan, Walk.commandLine, ValueFlag.letter, dropDash_eq,
    Walk.command, Bool.false_or, Nat.zero_add]

theorem ofWords_of_wellFormed (words : List String) (proper : (Walk.ofWords words).IsWellFormed) :
    ofWords words =
      match (Walk.ofWords words).early? with
      | some letter => .error (endAt letter)
      | none =>
          if (Walk.ofWords words).last? 'c' ≠ none ∧ (Walk.ofWords words).command ≠ [] then
            .error (.usage .twoCommands)
          else .ok (Walk.ofWords words).commandLine := by
  have values := withValues_tally words
  rw [ofWords, readWords_scan words proper, actAll_eq, Walk.early?]
  cases (Walk.ofWords words).letters.find? fun letter => letter = 'V' ∨ letter = 'h' with
  | some letter => rfl
  | none =>
      simp only [Except.map, bind, Except.bind, values]
      simp only [Walk.commandLine, Option.isSome_iff_ne_none]
      split
      · rfl
      · rfl

end CommandLine

/-- A machine with nothing on it but the two directories that every host has. -/
def Machine.bare : Machine where
  host := ⟨0, [], ⟨["C.UTF-8", ""], "C.UTF-8", "UTF-8"⟩, .standard⟩
  storage := ⟨⟨[([], .directory 0o755 0), (["tmp"], .directory 0o755 0)]⟩, some "/", 0, [], .linux⟩
  environ := .empty
  random := []
  journal := none
  output := ""
  errors := ""
  starts := []

namespace Launch

theorem readCommandLine_eq (program : String) (words : List String) (m : Machine) :
    readCommandLine program words m =
      match CommandLine.ofWords words with
      | .ok line => .ok line m
      | .error (.usage f) => .error (.usage f) m
      | .error .version => .error .quit (m.print (versionText program)) := by
  rw [readCommandLine]
  cases CommandLine.ofWords words with
  | ok line => rfl
  | error ending => cases ending <;> rfl

/-- Reading a well-formed command line agrees with the walk over its letters. The first letter that
    asks for the version or for help decides; otherwise the values, switches and counts are those
    of the walk, and only a command given twice is refused. -/
theorem readCommandLine_eq_walk (program : String) (words : List String)
    (proper : (Walk.ofWords words).IsWellFormed) (m : Machine) :
    (readCommandLine program words m =
      match (Walk.ofWords words).early? with
      | some letter =>
          if letter = 'V' then .error .quit (m.print (versionText program))
          else .error (.usage .help) m
      | none =>
          if (Walk.ofWords words).last? 'c' ≠ none ∧ (Walk.ofWords words).command ≠ [] then
            .error (.usage .twoCommands) m
          else .ok (Walk.ofWords words).commandLine m) ∧
    UsageFault.help.message = "" := by
  refine ⟨?_, rfl⟩
  rw [readCommandLine, CommandLine.ofWords_of_wellFormed words proper]
  cases (Walk.ofWords words).early? with
  | some letter =>
      by_cases isVersion : letter = 'V'
      · simp only [CommandLine.endAt, if_pos isVersion]
        rfl
      · simp only [CommandLine.endAt, if_neg isVersion]
        rfl
  | none =>
      simp only
      split
      · rfl
      · rfl

/-- A value that looks like a flag, or like the end of the flags, is a value all the same. -/
theorem readCommandLine_dashed :
    (Walk.ofWords ["-vn", "-foo", "-k", "--", "--", "ls"]).IsWellFormed ∧
    readCommandLine "tmate" ["-vn", "-foo", "-k", "--", "--", "ls"] .bare =
      .ok { verbosity := 1, sessionName := some "-foo", apiKey := some "--", command := ["ls"] }
        .bare := by
  have proper : (Walk.ofWords ["-vn", "-foo", "-k", "--", "--", "ls"]).IsWellFormed := by decide
  exact ⟨proper, (readCommandLine_eq_walk "tmate" _ proper .bare).1.trans rfl⟩

end Launch

end MuxLaunch
