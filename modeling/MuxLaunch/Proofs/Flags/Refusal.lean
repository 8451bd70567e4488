import MuxLaunch.Proofs.Flags.Ending
import MuxLaunch.Proofs.Flags.Offence

/-! # What becomes of an offence

Most command lines on which the walk goes wrong are refused. A word that begins with an unknown
letter is not: with a blank in it the word counts as the command, and without one it is only set
aside until the flags end, so that the version may still be asked for. An equals sign right behind
the first letter of a word is passed over.
-/

namespace MuxLaunch

namespace Walk

/-- Do the letters of a word want the next word as a value? -/
def wantsNext (text : List Char) : Bool :=
  (overLetters text).2.isSome

def nextValue? (text : List Char) (behind : List String) : Option String :=
  if wantsNext text then behind.head? else none

/-- The words behind a word and the value that it takes. -/
def wordsAfter (text : List Char) (behind : List String) : List String :=
  if wantsNext text then behind.tail else behind

theorem wantsNext_of_first? {text : List Char} {flag : ValueFlag} {more : List Char}
    (isSome : ValueFlag.first? text = some (flag, more)) : wantsNext text ↔ more = [] := by
  obtain ⟨pre, letter, rfl, isFlag, noValue⟩ := ValueFlag.first?_eq_some isSome
  rw [wantsNext, overLetters_value noValue (value_of_flag isFlag)]
  split
  · rename_i isNil
    simp [isNil]
  · rename_i notNil
    simp [notNil]

theorem wantsNext_of_none {text : List Char} (isNone : ValueFlag.first? text = none) :
    wantsNext text = false := by
  rw [wantsNext, overLetters_plain (ValueFlag.first?_eq_none isNone)]
  rfl

theorem wantsNext_append {pre : List Char} (noValue : TakeNoValue pre) (text : List Char) :
    wantsNext (pre ++ text) = wantsNext text := by
  rw [wantsNext, overLetters_append noValue]
  rfl

end Walk

namespace FlagScan

/-- The value that the scan glues to a word. -/
def glue (next? : Option String) : String :=
  (next?.filter startsWithDash).getD ""

/-- The value that the scan leaves in a word of its own. -/
def loose? (next? : Option String) : Option String :=
  next?.filter fun value => !startsWithDash value

/-- The value that the scan finds in a word or right behind it. -/
def found (text : List Char) (behind : List String) : List (ValueFlag × String) :=
  match ValueFlag.first? text, behind with
  | none, _ => []
  | some (_, []), [] => []
  | some (flag, []), value :: _ => [(flag, value)]
  | some (flag, text), _ => [(flag, String.ofList text)]

theorem found_append {pre : List Char} (noValue : TakeNoValue pre) (text : List Char)
    (behind : List String) : found (pre ++ text) behind = found text behind := by
  unfold found
  rw [ValueFlag.first?_append noValue]

theorem ofWords_bundle {word : String} {text : List Char} (bundle : IsBundle word text)
    (behind : List String) :
    ofWords (word :: behind) =
      (ofWords (Walk.wordsAfter text behind)).prepend
        ((word ++ glue (Walk.nextValue? text behind)) ::
          (loose? (Walk.nextValue? text behind)).toList)
        (found text behind) := by
  have letters : word.toList.tail = text := by rw [bundle.2, List.tail_cons]
  rw [ofWords.eq_def]
  simp only [bundle.1, letters, Walk.nextValue?, Walk.wordsAfter, found]
  cases isFirst : ValueFlag.first? text with
  | none => simp [Walk.wantsNext_of_none isFirst, glue, loose?]
  | some found =>
      obtain ⟨flag, more⟩ := found
      cases more with
      | nil =>
          cases behind with
          | nil => simp [Walk.wantsNext_of_first? isFirst, glue, loose?, ofWords, prepend]
          | cons value rest =>
              by_cases dash : startsWithDash value
              · simp [Walk.wantsNext_of_first? isFirst, glue, loose?, Option.filter, dash]
              · simp [Walk.wantsNext_of_first? isFirst, glue, loose?, Option.filter, dash]
      | cons next more => simp [Walk.wantsNext_of_first? isFirst, glue, loose?]

end FlagScan

open CommandLine

/-- How an offence is dealt with. -/
inductive Manner where
  | refused
  /-- The word is kept for a refusal once the flags have ended. -/
  | setAside
  /-- The word counts as the first of the command. -/
  | command
  /-- An equals sign is passed over. -/
  | signSkipped
  deriving Repr, DecidableEq

namespace Offence

def next? (o : Offence) : Option String :=
  Walk.nextValue? o.text o.behind

def back (o : Offence) : List String :=
  Walk.wordsAfter o.text o.behind

/-- The offending word as the scan leaves it. -/
def whole (o : Offence) : String :=
  o.word ++ FlagScan.glue o.next?

/-- The offending word and what follows it, as the scan leaves them. -/
def scanned (o : Offence) : List String :=
  o.whole :: (FlagScan.loose? o.next?).toList ++ (FlagScan.ofWords o.back).words

def wordWithout (o : Offence) : String :=
  String.ofList ('-' :: (o.lead ++ o.tail))

/-- The command line without the offending letter. -/
def wordsWithout (o : Offence) : List String :=
  o.front ++ o.wordWithout :: o.behind

/-- An unknown letter is overlooked at the front of a word, and if it is an equals sign right behind
    the first letter. -/
def manner (o : Offence) : Manner :=
  if o.lead = [] ∧ Arity.ofLetter o.letter = none then
    if ' ' ∈ o.whole.toList then .command
    else if FlagScan.loose? o.next? = none then .setAside
    else .refused
  else if Bundle.SkipsSign o.lead o.letter o.tail then .signSkipped
  else .refused

variable {o : Offence}

theorem IsFirst.scan (first : o.IsFirst) :
    FlagScan.ofWords (o.word :: o.behind) =
      (FlagScan.ofWords o.back).prepend (o.whole :: (FlagScan.loose? o.next?).toList)
        (FlagScan.found o.text o.behind) :=
  FlagScan.ofWords_bundle first.bundle o.behind

theorem IsFirst.words_scan (first : o.IsFirst) :
    (FlagScan.ofWords (o.word :: o.behind)).words = o.scanned := by
  rw [first.scan]
  rfl

theorem IsFirst.whole_bundle (first : o.IsFirst) :
    IsBundle o.whole (o.lead ++ o.letter :: (o.tail ++ (FlagScan.glue o.next?).toList)) := by
  simpa [text, whole] using first.bundle.append (FlagScan.glue o.next?)

theorem IsFirst.lead_switches (first : o.IsFirst) :
    ∀ c ∈ o.lead, arity c = some .switch := by
  intro c listed
  rw [arity_eq]
  exact (first.lead c listed).1

/-- The letters up to an unknown one take no value. -/
theorem IsFirst.takeNoValue (first : o.IsFirst) (unknown : Arity.ofLetter o.letter = none) :
    TakeNoValue (o.lead ++ [o.letter]) := by
  refine List.forall_mem_append.mpr ⟨takeNoValue_of_quiet first.lead, ?_⟩
  rw [List.forall_mem_singleton, unknown]
  nofun

/-- Nothing is glued behind an unknown letter at the end of its word. -/
theorem IsFirst.glue_nil (first : o.IsFirst) (unknown : Arity.ofLetter o.letter = none)
    (atEnd : o.tail = []) : (FlagScan.glue o.next?).toList = [] := by
  have noWant : Walk.wantsNext o.text = false := by
    have isEnd := Walk.wantsNext_append (first.takeNoValue unknown) []
    rw [text, atEnd, ← List.append_nil (o.lead ++ [o.letter]), isEnd]
    rfl
  rw [next?, Walk.nextValue?, noWant]
  rfl

/-- The words in front of an offence leave a line and values for what follows. -/
theorem IsFirst.ofWords_eq (first : o.IsFirst) :
    ∃ line, CommandLine.ofWords o.words =
      readWords [] line o.scanned >>= settle (FlagScan.ofWords o.words) := by
  obtain ⟨read, values, scans, reads⟩ := first.front.passes
  obtain ⟨line, done⟩ := reads {}
  refine ⟨line, ?_⟩
  rw [CommandLine.ofWords_eq, words, ← first.words_scan, ← done, scans]
  rfl

theorem IsFirst.refused_of_reading (first : o.IsFirst) {f : FlagFault}
    (fails : ∀ line, readWords [] line o.scanned = .error (.usage (.flag f))) :
    ∃ f, CommandLine.ofWords o.words = .error (.usage f) := by
  obtain ⟨line, reads⟩ := first.ofWords_eq
  refine ⟨.flag f, ?_⟩
  rw [reads, fails]
  rfl

/-- A word that begins with an unknown letter is no bundle. -/
theorem IsFirst.no_bundle (first : o.IsFirst) (leads : o.lead = [])
    (unknown : Arity.ofLetter o.letter = none) :
    ∃ text, IsBundle o.whole text ∧ Bundle.read? arity text = none := by
  have bundle := first.whole_bundle
  rw [leads, List.nil_append] at bundle
  exact ⟨_, bundle, Bundle.read?_unknown (by rw [arity_eq, unknown]) _⟩

/-- A word that begins with an unknown letter and has a blank in it counts as the command. -/
theorem IsFirst.of_command (first : o.IsFirst) (leads : o.lead = [])
    (unknown : Arity.ofLetter o.letter = none) (blank : ' ' ∈ o.whole.toList) :
    if (Walk.ofWords o.words).last? 'c' = none then
      ∃ line, CommandLine.ofWords o.words = .ok line ∧ line.command = o.scanned
    else CommandLine.ofWords o.words = .error (.usage .twoCommands) := by
  obtain ⟨text, bundle, isRead⟩ := first.no_bundle leads unknown
  have blankText : ' ' ∈ text := by simpa [bundle.2] using blank
  have starts : startsCommand o.whole = true := by
    simp [startsCommand, bundle.2, isRead, blankText]
  have noDash : o.whole ≠ "--" := fun isDash => absurd (isDash ▸ bundle.1) (by decide)
  obtain ⟨line, reads⟩ := first.ofWords_eq
  have settled : CommandLine.ofWords o.words =
      settle (FlagScan.ofWords o.words) { line with command := o.scanned } := by
    rw [reads, scanned, List.cons_append, readWords_command _ _ starts]
    rfl
  rw [settled, settle_command _ (by simp [scanned]) (by simpa [scanned] using noDash)]
  split
  · refine ⟨_, rfl, ?_⟩
    simp only [withValues, dropDash_eq]
    rw [if_neg (by simpa [scanned] using noDash)]
  · rfl

/-- A word that begins with an unknown letter is refused in the end, unless the words behind it ask
    for the version. -/
theorem IsFirst.of_setAside (first : o.IsFirst) (leads : o.lead = [])
    (unknown : Arity.ofLetter o.letter = none) (noBlank : ' ' ∉ o.whole.toList)
    (noLoose : FlagScan.loose? o.next? = none) :
    (CommandLine.ofWords o.back = .error .version →
      CommandLine.ofWords o.words = .error .version) ∧
    (CommandLine.ofWords o.back ≠ .error .version →
      ∃ f, CommandLine.ofWords o.words = .error (.usage f)) := by
  obtain ⟨text, bundle, isRead⟩ := first.no_bundle leads unknown
  obtain ⟨line, reads⟩ := first.ofWords_eq
  rw [scanned, noLoose, Option.toList_none, List.singleton_append,
    readWords_aside _ _ bundle isRead noBlank, List.nil_append] at reads
  rw [ofWords_version_iff, reads]
  constructor
  · intro isVersion
    rw [readWords_version _ _ _ isVersion [o.whole] line]
    rfl
  · intro noVersion
    cases read : readWords [o.whole] line (FlagScan.ofWords o.back).words with
    | ok line' => exact absurd read (readWords_ne_ok _ _ (by simp) _ _)
    | error f =>
        cases f with
        | version =>
            have isVersion := readWords_version _ _ _ read [] {}
            exact absurd ((ofWords_version_iff o.back).mpr isVersion) noVersion
        | usage f => exact ⟨f, rfl⟩

/-- A value that stays in a word of its own ends the flags, and the word in front of it is
    refused. -/
theorem IsFirst.of_loose (first : o.IsFirst) (leads : o.lead = [])
    (unknown : Arity.ofLetter o.letter = none) (noBlank : ' ' ∉ o.whole.toList)
    (isLoose : FlagScan.loose? o.next? ≠ none) :
    ∃ f, CommandLine.ofWords o.words = .error (.usage f) := by
  obtain ⟨text, bundle, isRead⟩ := first.no_bundle leads unknown
  obtain ⟨value, loose⟩ := Option.ne_none_iff_exists'.mp isLoose
  have noDash : startsWithDash value = false := by
    simpa using (Option.filter_eq_some_iff.mp loose).2
  have starts : startsCommand value = true := by simp [startsCommand, endsFlags, noDash]
  refine first.refused_of_reading (f := .unknown [o.whole]) fun line => ?_
  rw [scanned, loose, Option.toList_some, List.cons_append, List.singleton_append,
    readWords_aside _ _ bundle isRead noBlank, readWords_command _ _ starts]
  rfl

/-- A sign is passed over in the word as the scan leaves it if it is in the word itself. -/
theorem IsFirst.skipsSign_iff (first : o.IsFirst) (unknown : Arity.ofLetter o.letter = none) :
    Bundle.SkipsSign o.lead o.letter (o.tail ++ (FlagScan.glue o.next?).toList) ↔
      Bundle.SkipsSign o.lead o.letter o.tail :=
  Bundle.skipsSign_append (first.glue_nil unknown)

theorem bundle_without (skips : Bundle.SkipsSign o.lead o.letter o.tail) :
    IsBundle o.wordWithout (o.lead ++ o.tail) := by
  obtain ⟨isSingle, -, nonempty, -⟩ := skips
  refine .of_toList (by simp [wordWithout]) (by simp [nonempty]) fun isDash => ?_
  have long := congrArg List.length isDash
  have positive := List.length_pos_iff.mpr nonempty
  simp only [List.length_append, List.length_singleton, isSingle] at long
  omega

/-- The scan finds the same with and without the sign. -/
theorem IsFirst.scan_without (first : o.IsFirst)
    (skips : Bundle.SkipsSign o.lead o.letter o.tail) :
    FlagScan.ofWords (o.wordWithout :: o.behind) =
      (FlagScan.ofWords o.back).prepend
        ((o.wordWithout ++ FlagScan.glue o.next?) :: (FlagScan.loose? o.next?).toList)
        (FlagScan.found o.text o.behind) := by
  have unknown : Arity.ofLetter o.letter = none := by rw [skips.2.1, ofLetter_equals]
  have noValue := takeNoValue_of_quiet first.lead
  have isText : o.text = o.lead ++ [o.letter] ++ o.tail := by simp [text]
  have sameWant : Walk.wantsNext (o.lead ++ o.tail) = Walk.wantsNext o.text := by
    rw [isText, Walk.wantsNext_append (first.takeNoValue unknown), Walk.wantsNext_append noValue]
  have sameFound : FlagScan.found (o.lead ++ o.tail) o.behind =
      FlagScan.found o.text o.behind := by
    rw [isText, FlagScan.found_append (first.takeNoValue unknown), FlagScan.found_append noValue]
  rw [FlagScan.ofWords_bundle (bundle_without skips), sameFound, Walk.nextValue?,
    Walk.wordsAfter, sameWant]
  rfl

/-- A sign that is passed over might as well not be there. -/
theorem IsFirst.of_signSkipped (first : o.IsFirst)
    (skips : Bundle.SkipsSign o.lead o.letter o.tail) :
    CommandLine.ofWords o.words = CommandLine.ofWords o.wordsWithout := by
  have unknown : Arity.ofLetter o.letter = none := by rw [skips.2.1, ofLetter_equals]
  obtain ⟨read, values, scans, reads⟩ := first.front.passes
  obtain ⟨line, done⟩ := reads {}
  have sameValues : (FlagScan.ofWords o.words).values =
      (FlagScan.ofWords o.wordsWithout).values := by
    rw [words, wordsWithout, scans, scans, first.scan, first.scan_without skips]
    rfl
  have whole : IsBundle (o.wordWithout ++ FlagScan.glue o.next?)
      (o.lead ++ (o.tail ++ (FlagScan.glue o.next?).toList)) := by
    simpa using (bundle_without skips).append (FlagScan.glue o.next?)
  obtain ⟨same, isRead⟩ := Bundle.read?_skipsSign first.lead_switches
    ((first.skipsSign_iff unknown).mpr skips)
  rw [CommandLine.ofWords_eq, CommandLine.ofWords_eq, settle_congr sameValues, words, wordsWithout,
    scans, scans, first.scan, first.scan_without skips]
  congr 1
  refine (done _).trans (Eq.trans ?_ (done _).symm)
  exact readWords_congr [] line first.whole_bundle whole same isRead _

/-- An unknown letter behind a known one is refused, and so is a letter without its value. -/
theorem IsFirst.of_refused (first : o.IsFirst)
    (behindKnown : ¬(o.lead = [] ∧ Arity.ofLetter o.letter = none))
    (noSkip : ¬Bundle.SkipsSign o.lead o.letter o.tail) :
    ∃ f, CommandLine.ofWords o.words = .error (.usage f) := by
  have bundle := first.whole_bundle
  rcases first.offends with unknown | ⟨isValue, atEnd, isLast⟩
  · obtain ⟨f, isRead⟩ := Bundle.read?_unknown_behind (arity_eq ▸ ofLetter_equals)
      (fun leads => behindKnown ⟨leads, unknown⟩) first.lead_switches (arity_eq ▸ unknown)
      (mt (first.skipsSign_iff unknown).mp noSkip)
    exact first.refused_of_reading fun line => readWords_refused _ _ bundle isRead _
  · have noNext : o.next? = none := by simp [next?, Walk.nextValue?, isLast]
    have isRead : Bundle.read? arity
        (o.lead ++ o.letter :: (o.tail ++ (FlagScan.glue o.next?).toList)) =
        some (.ok ⟨o.lead ++ [o.letter], some o.letter⟩) := by
      rw [Bundle.read?_value (arity_eq ▸ ofLetter_equals) first.lead_switches (arity_eq ▸ isValue),
        noNext, atEnd]
      rfl
    have isLast : o.scanned = [o.whole] := by
      simp [scanned, noNext, FlagScan.loose?, back, Walk.wordsAfter, isLast, FlagScan.ofWords]
    refine first.refused_of_reading (f := .noValue o.letter) fun line => ?_
    rw [isLast]
    exact readWords_lacking _ _ bundle isRead

end Offence

namespace Launch

variable (program : String) (words : List String) (m : Machine)

/-- The command line is refused, and nothing else is done. -/
def Refuses : Prop :=
  ∃ f, readCommandLine program words m = .error (.usage f) m

/-- The command line gets the version printed, and the program is over. -/
def ShowsVersion : Prop :=
  readCommandLine program words m = .error .quit (m.print (versionText program))

variable {words}

theorem readCommandLine_of_ok {line : CommandLine} (isRead : CommandLine.ofWords words = .ok line) :
    readCommandLine program words m = .ok line m := by
  rw [readCommandLine_eq, isRead]

theorem readCommandLine_of_usage {f : UsageFault}
    (isRefused : CommandLine.ofWords words = .error (.usage f)) :
    readCommandLine program words m = .error (.usage f) m := by
  rw [readCommandLine_eq, isRefused]

theorem showsVersion_iff :
    ShowsVersion program words m ↔ CommandLine.ofWords words = .error .version := by
  rw [ShowsVersion, readCommandLine_eq]
  cases CommandLine.ofWords words with
  | ok line => exact ⟨nofun, nofun⟩
  | error f =>
      cases f with
      | usage f => exact ⟨nofun, nofun⟩
      | version => exact ⟨fun _ => rfl, fun _ => rfl⟩

end Launch

open Launch

/-- What comes of a command line with an offence. -/
def Offence.Outcome (o : Offence) (program : String) (m : Machine) : Prop :=
  match o.manner with
  | .refused => Refuses program o.words m
  | .setAside =>
      (ShowsVersion program o.back m → ShowsVersion program o.words m) ∧
      (¬ShowsVersion program o.back m → Refuses program o.words m)
  | .command =>
      if (Walk.ofWords o.words).last? 'c' = none then
        ∃ line, readCommandLine program o.words m = .ok line m ∧ line.command = o.scanned
      else readCommandLine program o.words m = .error (.usage .twoCommands) m
  | .signSkipped =>
      readCommandLine program o.words m = readCommandLine program o.wordsWithout m

theorem Offence.IsFirst.outcome {o : Offence} (first : o.IsFirst) (program : String)
    (m : Machine) : o.Outcome program m := by
  have refuses : (∃ f, CommandLine.ofWords o.words = .error (.usage f)) →
      Refuses program o.words m := by
    rintro ⟨f, isRefused⟩
    exact ⟨f, readCommandLine_of_usage program m isRefused⟩
  unfold Outcome manner
  by_cases leads : o.lead = [] ∧ Arity.ofLetter o.letter = none
  · rw [if_pos leads]
    obtain ⟨leads, unknown⟩ := leads
    by_cases blank : ' ' ∈ o.whole.toList
    · rw [if_pos blank]
      have settled := first.of_command leads unknown blank
      simp only
      split at settled
      · rename_i noShell
        rw [if_pos noShell]
        obtain ⟨line, isRead, isCommand⟩ := settled
        exact ⟨line, readCommandLine_of_ok program m isRead, isCommand⟩
      · rename_i isShell
        rw [if_neg isShell]
        exact readCommandLine_of_usage program m settled
    · rw [if_neg blank]
      by_cases noLoose : FlagScan.loose? o.next? = none
      · rw [if_pos noLoose]
        simp only [showsVersion_iff]
        obtain ⟨shows, isRefused⟩ := first.of_setAside leads unknown blank noLoose
        exact ⟨shows, fun noVersion => refuses (isRefused noVersion)⟩
      · rw [if_neg noLoose]
        exact refuses (first.of_loose leads unknown blank noLoose)
  · rw [if_neg leads]
    by_cases skips : Bundle.SkipsSign o.lead o.letter o.tail
    · rw [if_pos skips]
      simp only [readCommandLine, first.of_signSkipped skips]
    · rw [if_neg skips]
      exact refuses (first.of_refused leads skips)

namespace Launch

/-- A command line on which the walk meets an unknown letter, or one without its value, before any
    that asks for the version or for help has a first offence, and how that one is dealt with
    decides. It is refused unless the offending word begins with an unknown letter or the offence is
    an equals sign right behind the first letter of its word. -/
theorem readCommandLine_of_faulty (program : String) (words : List String)
    (faulty : (Walk.ofWords words).IsFaulty) (m : Machine) :
    (∃ o : Offence, o.IsFirst ∧ o.words = words) ∧
    ∀ o : Offence, o.IsFirst → o.words = words → o.Outcome program m :=
  ⟨exists_offence words faulty, fun _ first _ => first.outcome program m⟩

/-- An unknown letter behind a known one is refused before the version can be asked for. -/
theorem readCommandLine_misspelt :
    (Walk.ofWords ["-qn", "x", "-vz", "-V"]).IsFaulty ∧
    (⟨["-qn", "x"], ['v'], 'z', [], ["-V"]⟩ : Offence).IsFirst ∧
    Refuses "tmate" ["-qn", "x", "-vz", "-V"] .bare := by
  have faulty : (Walk.ofWords ["-qn", "x", "-vz", "-V"]).IsFaulty := by decide
  have named : IsBundle "-qn" (['q'] ++ ['n']) := ⟨rfl, rfl⟩
  have quiet : ∀ c ∈ ['q'], IsQuiet c := List.forall_mem_singleton.mpr (by decide)
  have isFlag : ValueFlag.ofLetter? 'n' = some .sessionName := rfl
  have calm : AreCalm ["-qn", "x"] := .separate named quiet isFlag .nil
  have first : (⟨["-qn", "x"], ['v'], 'z', [], ["-V"]⟩ : Offence).IsFirst :=
    ⟨calm, ⟨rfl, rfl⟩, List.forall_mem_singleton.mpr (by decide), .inl rfl⟩
  exact ⟨faulty, first,
    (readCommandLine_of_faulty "tmate" _ faulty .bare).2 _ first (by decide)⟩

/-- A word that begins with an unknown letter does not keep the version from being printed, with a
    blank in it the word is taken for the command, and a sign behind the first letter is passed
    over. -/
theorem readCommandLine_overlooks :
    ((Walk.ofWords ["-z", "-V"]).IsFaulty ∧ ShowsVersion "tmate" ["-z", "-V"] .bare) ∧
    ((Walk.ofWords ["-z y", "ls"]).IsFaulty ∧
      readCommandLine "tmate" ["-z y", "ls"] .bare =
        .ok { command := ["-z y", "ls"] } .bare) ∧
    (Walk.ofWords ["-v=u"]).IsFaulty ∧
      readCommandLine "tmate" ["-v=u"] .bare = .ok { utf8 := true, verbosity := 1 } .bare := by
  refine ⟨⟨by decide, ?_⟩, ⟨by decide, ?_⟩, by decide, ?_⟩
  · exact (showsVersion_iff "tmate" .bare).mpr rfl
  · exact readCommandLine_of_ok "tmate" .bare rfl
  · exact readCommandLine_of_ok "tmate" .bare rfl

end Launch

end MuxLaunch
