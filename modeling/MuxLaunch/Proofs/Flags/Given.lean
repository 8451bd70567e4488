import MuxLaunch.Proofs.Flags.Refusal
import MuxLaunch.Proofs.Steps

/-! # The letters given

The letters of flags in front of the command. Whenever a command line can be read, its switches and
counts are those of the letters given, whether or not all of them are in order.
-/

namespace MuxLaunch

namespace Walk

/-- The letters of a word up to the first that takes a value. -/
def lettersOver (text : List Char) : List Char :=
  (overLetters text).1.map MetFlag.letter ++ (overLetters text).2.toList

theorem lettersOver_cons (letter : Char) (rest : List Char) :
    lettersOver (letter :: rest) =
      letter :: if Arity.ofLetter letter = some .value then [] else lettersOver rest := by
  unfold lettersOver
  by_cases isValue : Arity.ofLetter letter = some .value
  · by_cases atEnd : rest = []
    · simp [overLetters, isValue, atEnd]
    · simp [overLetters, isValue, atEnd]
  · simp [overLetters, isValue]

theorem overLetters_wanting_cons (letter : Char) (rest : List Char) :
    (overLetters (letter :: rest)).2 =
      if Arity.ofLetter letter = some .value then if rest = [] then some letter else none
      else (overLetters rest).2 := by
  rw [overLetters]
  split
  · split <;> rfl
  · rfl

/-- A word that wants the next one ends in a letter that takes a value, and in no other. -/
theorem exists_of_wantsNext {text : List Char} (wants : wantsNext text = true) :
    ∃ pre letter, text = pre ++ [letter] ∧ TakeNoValue pre ∧
      Arity.ofLetter letter = some .value := by
  cases isFirst : ValueFlag.first? text with
  | none =>
      rw [wantsNext_of_none isFirst] at wants
      cases wants
  | some found =>
      obtain ⟨flag, more⟩ := found
      obtain rfl := (wantsNext_of_first? isFirst).mp wants
      obtain ⟨pre, letter, isText, isFlag, noValue⟩ := ValueFlag.first?_eq_some isFirst
      exact ⟨pre, letter, isText, noValue, value_of_flag isFlag⟩

theorem lettersOver_plain {text : List Char} (noValue : TakeNoValue text) :
    lettersOver text = text := by
  simp [lettersOver, overLetters_plain noValue, map_letter_plain]

theorem lettersOver_value {pre : List Char} (noValue : TakeNoValue pre) {letter : Char}
    (isValue : Arity.ofLetter letter = some .value) (more : List Char) :
    lettersOver (pre ++ letter :: more) = pre ++ [letter] := by
  rw [lettersOver, overLetters_value noValue isValue]
  split <;> simp [map_letter_plain]

theorem lettersOver_append {text : List Char} (wants : wantsNext text = true) (more : List Char) :
    lettersOver (text ++ more) = lettersOver text := by
  obtain ⟨pre, letter, rfl, noValue, isValue⟩ := exists_of_wantsNext wants
  rw [List.append_assoc, List.singleton_append, lettersOver_value noValue isValue,
    lettersOver_value noValue isValue]

theorem length_wordsAfter_le (text : List Char) (behind : List String) :
    (wordsAfter text behind).length ≤ behind.length := by
  rw [wordsAfter]
  split
  · rw [List.length_tail]
    omega
  · exact Nat.le_refl _

theorem wantsNext_glued {text more : List Char} (wants : wantsNext text = true)
    (nonempty : more ≠ []) : wantsNext (text ++ more) = false := by
  obtain ⟨pre, letter, rfl, noValue, isValue⟩ := exists_of_wantsNext wants
  rw [List.append_assoc, List.singleton_append, wantsNext, overLetters_value noValue isValue,
    if_neg nonempty]
  rfl

end Walk

theorem FlagScan.ofWords_stop {word : String} (isEnd : endsFlags word = true)
    (rest : List String) : ofWords (word :: rest) = ⟨word :: rest, []⟩ := by
  rw [ofWords.eq_def]
  dsimp only
  rw [if_pos isEnd]

namespace Bundle

/-- A bundle that goes on after a known letter holds the letters met on the walk. -/
theorem letters_of_follow {letter : Char} {rest : List Char} {b : Bundle}
    (isRead : follow Arity.ofLetter letter rest = .ok b) :
    b.letters = Walk.lettersOver (letter :: rest) ∧
    b.wanting = (Walk.overLetters (letter :: rest)).2 := by
  rw [Walk.lettersOver_cons, Walk.overLetters_wanting_cons]
  induction rest generalizing letter b with
  | nil =>
      cases isRead
      simp [Walk.lettersOver, Walk.overLetters]
  | cons next rest ih =>
      rw [follow] at isRead
      by_cases isValue : Arity.ofLetter letter = some .value
      · rw [if_pos isValue] at isRead
        cases isRead
        simp [isValue]
      · rw [if_neg isValue] at isRead
        split at isRead
        · cases isRead
        · cases followed : follow Arity.ofLetter next rest with
          | error f =>
              rw [followed] at isRead
              cases isRead
          | ok b' =>
              rw [followed] at isRead
              cases isRead
              obtain ⟨sameLetters, sameWanting⟩ := ih followed
              rw [if_neg isValue, if_neg isValue, Walk.lettersOver_cons,
                Walk.overLetters_wanting_cons]
              exact ⟨congrArg (letter :: ·) sameLetters, sameWanting⟩

/-- But for a sign that is passed over, a bundle holds the letters met on the walk. -/
theorem letters_of_read? {text : List Char} {b : Bundle}
    (isRead : read? Arity.ofLetter text = some (.ok b)) :
    b.letters.filter (· ≠ '=') = (Walk.lettersOver text).filter (· ≠ '=') ∧
    b.wanting = (Walk.overLetters text).2 := by
  unfold read? at isRead
  split at isRead
  · cases isRead
  · rename_i letter rest
    split at isRead
    · cases isRead
    · cases Option.some.inj isRead
    · -- The sign behind the first letter is missing from the bundle, but the walk meets it.
      rename_i rest' _ isSwitch
      have followed := Option.some.inj isRead
      have noValue : Arity.ofLetter letter ≠ some .value := by simp [isSwitch]
      obtain ⟨sameLetters, sameWanting⟩ := letters_of_follow followed
      have noSign : Arity.ofLetter '=' ≠ some .value := by simp [ofLetter_equals]
      rw [Walk.lettersOver_cons, if_neg noValue] at sameLetters ⊢
      rw [Walk.overLetters_wanting_cons, if_neg noValue] at sameWanting ⊢
      rw [sameLetters, sameWanting, Walk.lettersOver_cons '=', if_neg noSign,
        Walk.overLetters_wanting_cons '=', if_neg noSign]
      exact ⟨by rw [List.filter_cons, List.filter_cons, List.filter_cons]; simp, rfl⟩
    · obtain ⟨sameLetters, sameWanting⟩ := letters_of_follow (Option.some.inj isRead)
      rw [sameLetters, sameWanting]
      exact ⟨rfl, rfl⟩

theorem read?_eq_none_iff {arity : Char → Option Arity} {text : List Char} :
    read? arity text = none ↔ text.head?.bind arity = none := by
  unfold read?
  split
  · simp
  · rename_i letter rest
    split <;> simp_all

end Bundle

namespace CommandLine

/-- The letters of the flags. A word that begins with an unknown letter is no word of flags. -/
def lettersGiven : List String → List Char
  | [] => []
  | word :: rest =>
      if endsFlags word || (word.toList.tail.head?.bind Arity.ofLetter).isNone then []
      else
        Walk.lettersOver word.toList.tail ++
          match rest with
          | [] => []
          | value :: behind =>
              if Walk.wantsNext word.toList.tail then lettersGiven behind
              else lettersGiven (value :: behind)

theorem lettersGiven_cons (word : String) (rest : List String) :
    lettersGiven (word :: rest) =
      if endsFlags word || (word.toList.tail.head?.bind Arity.ofLetter).isNone then []
      else Walk.lettersOver word.toList.tail ++
        lettersGiven (Walk.wordsAfter word.toList.tail rest) := by
  rw [lettersGiven.eq_def, Walk.wordsAfter]
  dsimp only
  cases rest with
  | nil => cases Walk.wantsNext word.toList.tail <;> rfl
  | cons value behind => cases Walk.wantsNext word.toList.tail <;> rfl

theorem lettersGiven_stop {word : String} (isEnd : endsFlags word = true) (rest : List String) :
    lettersGiven (word :: rest) = [] := by
  rw [lettersGiven_cons, isEnd]
  rfl

theorem lettersGiven_unknown {word : String} {text : List Char} (bundle : IsBundle word text)
    (unknown : text.head?.bind Arity.ofLetter = none) (rest : List String) :
    lettersGiven (word :: rest) = [] := by
  rw [lettersGiven_cons, bundle.2, List.tail_cons, unknown]
  simp

theorem lettersGiven_bundle {word : String} {text : List Char} (bundle : IsBundle word text)
    (known : text.head?.bind Arity.ofLetter ≠ none) (behind : List String) :
    lettersGiven (word :: behind) =
      Walk.lettersOver text ++ lettersGiven (Walk.wordsAfter text behind) := by
  have isKnown : (text.head?.bind Arity.ofLetter).isNone = false :=
    Bool.not_eq_true _ ▸ mt Option.isNone_iff_eq_none.mp known
  rw [lettersGiven_cons, bundle.1, bundle.2, List.tail_cons, isKnown]
  rfl

theorem tally_congr (line : CommandLine) {letters letters' : List Char}
    (same : letters.filter (· ≠ '=') = letters'.filter (· ≠ '=')) :
    line.tally letters = line.tally letters' := by
  have tally_filter : ∀ letters : List Char,
      line.tally (letters.filter (· ≠ '=')) = line.tally letters := by
    intro letters
    simp [tally, List.count_filter]
  rw [← tally_filter letters, same, tally_filter]

theorem tally_of_actAll {line line' : CommandLine} {letters : List Char}
    {read : CommandLine → Except EarlyEnd CommandLine}
    (isRead : line.actAll letters >>= read = .ok line') :
    read (line.tally letters) = .ok line' := by
  rw [actAll_eq] at isRead
  split at isRead
  · cases isRead
  · exact isRead

theorem command_of_finish {line line' : CommandLine} {words : List String}
    (isRead : readWords.finish [] line words = .ok line') :
    line' = { line with command := words } :=
  (Except.ok.inj isRead).symm

/-- What is left to be read behind a word of flags if a line comes of it in the end. -/
theorem readWords_eq_ok {word : String} {text : List Char} (bundle : IsBundle word text)
    {line line' : CommandLine} {rest : List String}
    (isRead : readWords [] line (word :: rest) = .ok line') :
    text.head?.bind Arity.ofLetter = none ∧ line' = { line with command := word :: rest } ∨
    text.head?.bind Arity.ofLetter ≠ none ∧
      readWords [] (line.tally (Walk.lettersOver text)) (Walk.wordsAfter text rest) =
        .ok line' := by
  rw [Ne, ← Bundle.read?_eq_none_iff, ← arity_eq]
  cases read : Bundle.read? arity text with
  | none =>
      -- A word without a known letter in front begins the command, or it is refused in the end.
      refine .inl ⟨rfl, ?_⟩
      by_cases starts : startsCommand word = true
      · rw [readWords_command [] line starts] at isRead
        exact command_of_finish isRead
      · rw [readWords, if_neg starts, bundle.2, List.tail_cons, read] at isRead
        exact absurd isRead (readWords_ne_ok [word] line (List.cons_ne_nil _ _) rest line')
  | some outcome =>
      cases outcome with
      | error f =>
          rw [readWords_refused [] line bundle read] at isRead
          cases isRead
      | ok b =>
          obtain ⟨sameLetters, sameWanting⟩ := Bundle.letters_of_read? (arity_eq ▸ read)
          refine .inr ⟨Option.some_ne_none _, ?_⟩
          rw [← line.tally_congr sameLetters, Walk.wordsAfter, Walk.wantsNext, ← sameWanting]
          obtain ⟨letters, wanting⟩ := b
          rw [readWords, startsCommand_of_bundle bundle (by simp [read]), bundle.2, List.tail_cons,
            read, if_neg Bool.false_ne_true] at isRead
          cases wanting with
          | none => exact tally_of_actAll isRead
          | some letter =>
              cases rest with
              | nil => cases isRead
              | cons value rest =>
                  dsimp only at isRead
                  split at isRead
                  · cases isRead
                  · exact tally_of_actAll isRead

/-- What the scan glues to a word, or leaves behind it, is passed over with the word. -/
theorem wordsAfter_scanned (text : List Char) (behind : List String) :
    Walk.lettersOver (text ++ (FlagScan.glue (Walk.nextValue? text behind)).toList) =
      Walk.lettersOver text ∧
    Walk.wordsAfter (text ++ (FlagScan.glue (Walk.nextValue? text behind)).toList)
        ((FlagScan.loose? (Walk.nextValue? text behind)).toList ++
          (FlagScan.ofWords (Walk.wordsAfter text behind)).words) =
      (FlagScan.ofWords (Walk.wordsAfter text behind)).words := by
  cases wants : Walk.wantsNext text with
  | false =>
      simp [Walk.nextValue?, Walk.wordsAfter, wants, FlagScan.glue, FlagScan.loose?]
  | true =>
      cases behind with
      | nil =>
          simp [Walk.nextValue?, Walk.wordsAfter, wants, FlagScan.glue, FlagScan.loose?,
            FlagScan.ofWords]
      | cons value rest =>
          refine ⟨Walk.lettersOver_append wants _, ?_⟩
          cases dash : startsWithDash value with
          | true =>
              have nonempty : value.toList ≠ [] := by
                intro isNil
                simp [startsWithDash, isNil] at dash
              simp [Walk.nextValue?, Walk.wordsAfter, wants, FlagScan.glue, FlagScan.loose?, dash,
                Walk.wantsNext_glued wants nonempty, Option.filter]
          | false =>
              simp [Walk.nextValue?, Walk.wordsAfter, wants, FlagScan.glue, FlagScan.loose?, dash,
                Option.filter]

/-- A line that is read counts the letters given. -/
theorem readWords_tally (words : List String) {line line' : CommandLine}
    (isRead : readWords [] line (FlagScan.ofWords words).words = .ok line') :
    ∃ command, line' = { line.tally (lettersGiven words) with command } := by
  -- A word may take the next one along, so the words left get fewer by one or by two.
  induction length : words.length using Nat.strongRecOn generalizing words line with
  | ind n ih =>
    cases words with
    | nil =>
        refine ⟨[], ?_⟩
        rw [lettersGiven, tally_nil]
        exact command_of_finish isRead
    | cons word behind =>
        by_cases isEnd : endsFlags word = true
        · have starts : startsCommand word = true := by simp [startsCommand, isEnd]
          refine ⟨word :: behind, ?_⟩
          rw [FlagScan.ofWords_stop isEnd, readWords_command [] line starts] at isRead
          rw [lettersGiven_stop isEnd, tally_nil]
          exact command_of_finish isRead
        · have bundle := IsBundle.of_endsFlags isEnd
          obtain ⟨sameLetters, sameWords⟩ := wordsAfter_scanned word.toList.tail behind
          have whole := bundle.append (FlagScan.glue (Walk.nextValue? word.toList.tail behind))
          have sameHead : (word.toList.tail ++
              (FlagScan.glue (Walk.nextValue? word.toList.tail behind)).toList).head? =
              word.toList.tail.head? := by
            obtain ⟨first, more, isText⟩ := List.exists_cons_of_ne_nil bundle.ne_nil
            rw [isText]
            rfl
          rw [FlagScan.ofWords_bundle bundle, FlagScan.prepend, List.cons_append] at isRead
          rcases readWords_eq_ok whole isRead with ⟨unknown, rfl⟩ | ⟨known, isRest⟩
          · rw [sameHead] at unknown
            rw [lettersGiven_unknown bundle unknown, tally_nil]
            exact ⟨_, rfl⟩
          · rw [sameHead] at known
            rw [sameLetters, sameWords] at isRest
            have isShorter : (Walk.wordsAfter word.toList.tail behind).length < n :=
              length ▸ Nat.lt_succ_of_le (Walk.length_wordsAfter_le _ behind)
            rw [lettersGiven_bundle bundle known, ← tally_append]
            exact ih _ isShorter _ isRest rfl

/-- Whatever line is read, its switches and counts are those of the letters given and its values
    are those of the scan. -/
theorem tally_of_ok {words : List String} {line : CommandLine} (isRead : ofWords words = .ok line) :
    ∃ command, line = ({ ({} : CommandLine).tally (lettersGiven words) with
      command }).withValues (FlagScan.ofWords words) := by
  rw [ofWords_eq] at isRead
  obtain ⟨read, isRead, isSettled⟩ := exceptBind_eq_ok.mp isRead
  obtain ⟨command, rfl⟩ := readWords_tally words isRead
  unfold settle at isSettled
  split at isSettled
  · cases isSettled
  · exact ⟨command, (Except.ok.inj isSettled).symm⟩

/-- The switches and counts of a line are those of its letters. -/
structure Counts (line : CommandLine) (letters : List Char) : Prop where
  colours256 : line.colours256 = true ↔ '2' ∈ letters
  control : line.control = letters.count 'C'
  login : line.login = true ↔ 'l' ∈ letters
  quiet : line.quiet = true ↔ 'q' ∈ letters
  utf8 : line.utf8 = true ↔ 'u' ∈ letters
  verbosity : line.verbosity = letters.count 'v'
  foreground : line.foreground = true ↔ 'F' ∈ letters

theorem counts_of_ok {words : List String} {line : CommandLine}
    (isRead : ofWords words = .ok line) : line.Counts (lettersGiven words) := by
  obtain ⟨command, rfl⟩ := tally_of_ok isRead
  constructor <;> simp [withValues, tally]

/-- On a well-formed command line the letters given are those met on the walk. -/
theorem lettersGiven_of_wellFormed (words : List String)
    (proper : (Walk.ofWords words).IsWellFormed) :
    lettersGiven words = (Walk.ofWords words).letters := by
  have known : ∀ {pre : List Char} {letter : Char} (more : List Char),
      (∀ c ∈ pre, Arity.ofLetter c = some .switch) → Arity.ofLetter letter = some .value →
      (pre ++ letter :: more).head?.bind Arity.ofLetter ≠ none := by
    intro pre letter more switches isValue
    cases pre with
    | nil => simp [isValue]
    | cons first pre => simp [switches first List.mem_cons_self]
  revert proper
  refine Walk.along (motive := fun words _ w => w.IsWellFormed → lettersGiven words = w.letters)
    ?_ ?_ ?_ ?_ ?_ ?_ words
  · exact fun _ => rfl
  · exact fun word rest isEnd _ => lettersGiven_stop isEnd rest
  · intro word rest text s w bundle noValue ih proper
    rw [Walk.isWellFormed_prepend, Walk.plain_proper] at proper
    obtain ⟨first, more, isText⟩ := List.exists_cons_of_ne_nil bundle.ne_nil
    have isKnown : text.head?.bind Arity.ofLetter ≠ none := by
      simp [isText, proper.1 first (isText ▸ List.mem_cons_self)]
    rw [lettersGiven_bundle bundle isKnown, Walk.lettersOver_plain noValue, Walk.wordsAfter,
      Walk.wantsNext, Walk.overLetters_plain noValue, Walk.letters_prepend, Walk.map_letter_plain]
    exact congrArg (text ++ ·) (ih proper.2)
  · intro word pre letter flag _ _ isFlag proper
    have lacking := proper ⟨letter, none⟩ (by simp)
    rw [Walk.isProper_none, value_of_flag isFlag] at lacking
    cases lacking
  · intro word value rest pre letter flag s w bundle noValue isFlag ih proper
    rw [Walk.isWellFormed_prepend, List.forall_mem_append, Walk.plain_proper] at proper
    have isValue := value_of_flag isFlag
    rw [lettersGiven_bundle bundle (known [] proper.1.1 isValue),
      Walk.lettersOver_value noValue isValue, Walk.wordsAfter, Walk.wantsNext,
      Walk.overLetters_value noValue isValue, Walk.letters_prepend, List.map_append,
      Walk.map_letter_plain, List.map_singleton]
    exact congrArg (pre ++ [letter] ++ ·) (ih proper.2)
  · intro word rest pre letter flag more s w bundle nonempty noValue isFlag ih proper
    rw [Walk.isWellFormed_prepend, List.forall_mem_append, Walk.plain_proper] at proper
    have isValue := value_of_flag isFlag
    rw [lettersGiven_bundle bundle (known more proper.1.1 isValue),
      Walk.lettersOver_value noValue isValue, Walk.wordsAfter, Walk.wantsNext,
      Walk.overLetters_value noValue isValue, if_neg nonempty, Walk.letters_prepend,
      List.map_append, Walk.map_letter_plain, List.map_singleton]
    exact congrArg (pre ++ [letter] ++ ·) (ih proper.2)

end CommandLine

end MuxLaunch
