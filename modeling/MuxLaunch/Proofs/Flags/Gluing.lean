import MuxLaunch.Proofs.Flags.Given

/-! # Gluing

The scan leaves the words of a command line as they stand, but for values that begin with a dash:
these are glued to the flag in front of them. What it leaves says the same as before, and a second
scan finds nothing to do.
-/

namespace MuxLaunch

/-- The second words are the first ones in their order, with a value that begins with a dash glued
    here and there to the flag in front of it. -/
inductive AreGlued : List String → List String → Prop
  | nil : AreGlued [] []
  | keep {words glued : List String} (word : String) :
      AreGlued words glued → AreGlued (word :: words) (word :: glued)
  | glue {word value : String} {text : List Char} {words glued : List String} :
      IsBundle word text → Walk.wantsNext text = true → startsWithDash value = true →
      AreGlued words glued → AreGlued (word :: value :: words) ((word ++ value) :: glued)

theorem AreGlued.join_eq {words glued : List String} (areGlued : AreGlued words glued) :
    String.join glued = String.join words := by
  induction areGlued with
  | nil => rfl
  | keep word _ ih => rw [String.join_cons, String.join_cons, ih]
  | glue _ _ _ _ ih => rw [String.join_cons, String.join_cons, String.join_cons, ih,
      String.append_assoc]

/-- A flag at the end of its word, behind letters that take no value, wants the next word. -/
theorem Walk.wantsNext_of_flag {pre : List Char} (noValue : TakeNoValue pre) {letter : Char}
    {flag : ValueFlag} (isFlag : ValueFlag.ofLetter? letter = some flag) :
    wantsNext (pre ++ [letter]) = true := by
  rw [wantsNext_append noValue]
  exact (wantsNext_of_first? (ValueFlag.first?_append_flag takeNoValue_nil isFlag [])).mpr rfl

namespace Walk

theorem ofWords_switches {word : String} {text : List Char} (bundle : IsBundle word text)
    (noValue : TakeNoValue text) (rest : List String) :
    ofWords (word :: rest) = (ofWords rest).prepend (plain text) := by
  refine ofWords_read (by simp [bundle.1]) ?_ rest
  rw [bundle.2]
  exact overLetters_plain noValue

theorem ofWords_attached {word : String} {pre more : List Char} {letter : Char} {flag : ValueFlag}
    (bundle : IsBundle word (pre ++ letter :: more)) (noValue : TakeNoValue pre)
    (isFlag : ValueFlag.ofLetter? letter = some flag) (nonempty : more ≠ [])
    (rest : List String) :
    ofWords (word :: rest) =
      (ofWords rest).prepend (plain pre ++ [⟨letter, some (String.ofList more)⟩]) := by
  refine ofWords_read (by simp [bundle.1]) ?_ rest
  rw [bundle.2, List.tail_cons, overLetters_value noValue (value_of_flag isFlag),
    if_neg nonempty]

/-- A flag that ends its word wants the next one. -/
theorem overLetters_bundle {word : String} {pre : List Char} {letter : Char} {flag : ValueFlag}
    (bundle : IsBundle word (pre ++ [letter])) (noValue : TakeNoValue pre)
    (isFlag : ValueFlag.ofLetter? letter = some flag) :
    overLetters word.toList.tail = (plain pre, some letter) := by
  rw [bundle.2, List.tail_cons, overLetters_value noValue (value_of_flag isFlag), if_pos rfl]

theorem ofWords_separate {word : String} {pre : List Char} {letter : Char} {flag : ValueFlag}
    (bundle : IsBundle word (pre ++ [letter])) (noValue : TakeNoValue pre)
    (isFlag : ValueFlag.ofLetter? letter = some flag) (value : String) (rest : List String) :
    ofWords (word :: value :: rest) =
      (ofWords rest).prepend (plain pre ++ [⟨letter, some value⟩]) := by
  rw [ofWords.eq_4 word _ letter value rest (overLetters_bundle bundle noValue isFlag),
    if_neg (by simp [bundle.1])]

theorem ofWords_lacking {word : String} {pre : List Char} {letter : Char} {flag : ValueFlag}
    (bundle : IsBundle word (pre ++ [letter])) (noValue : TakeNoValue pre)
    (isFlag : ValueFlag.ofLetter? letter = some flag) :
    ofWords [word] = ⟨plain pre ++ [⟨letter, none⟩], []⟩ := by
  rw [ofWords.eq_3 word _ letter (overLetters_bundle bundle noValue isFlag),
    if_neg (by simp [bundle.1])]

end Walk

theorem FlagScan.ofWords_lacking {word : String} {pre : List Char} {letter : Char}
    {flag : ValueFlag} (bundle : IsBundle word (pre ++ [letter])) (noValue : TakeNoValue pre)
    (isFlag : ValueFlag.ofLetter? letter = some flag) : ofWords [word] = ⟨[word], []⟩ := by
  rw [ofWords.eq_def]
  simp only [bundle.1, bundle.2, List.tail_cons, ValueFlag.first?_append_flag noValue isFlag]
  rfl

namespace Walk

/-- A value that has been glued to its flag is found again, by the scan and on the walk. -/
theorem ofWords_glued {word value : String} {pre : List Char} {letter : Char} {flag : ValueFlag}
    (bundle : IsBundle word (pre ++ [letter])) (noValue : TakeNoValue pre)
    (isFlag : ValueFlag.ofLetter? letter = some flag) (dash : startsWithDash value = true)
    (rest : List String) :
    FlagScan.ofWords ((word ++ value) :: rest) =
        (FlagScan.ofWords rest).prepend [word ++ value] [(flag, value)] ∧
      ofWords ((word ++ value) :: rest) =
        (ofWords rest).prepend (plain pre ++ [⟨letter, some value⟩]) := by
  obtain ⟨whole, nonempty⟩ := bundle.glue dash
  have whole : IsBundle (word ++ value) (pre ++ letter :: value.toList) := by simpa using whole
  constructor
  · rw [FlagScan.ofWords_attached whole noValue isFlag nonempty, String.ofList_toList]
  · rw [ofWords_attached whole noValue isFlag nonempty, String.ofList_toList]

/-- What a scan leaves is scanned and walked over as the words themselves were. -/
theorem ofWords_scan (words : List String) :
    FlagScan.ofWords (FlagScan.ofWords words).words = FlagScan.ofWords words ∧
      ofWords (FlagScan.ofWords words).words = ofWords words := by
  refine along (motive := fun _ s w => FlagScan.ofWords s.words = s ∧ ofWords s.words = w)
    ⟨rfl, rfl⟩ ?stop ?switches ?lacking ?separate ?attached words
  case stop =>
    intro word rest isEnd
    exact ⟨FlagScan.ofWords_stop isEnd rest, ofWords_stop isEnd rest⟩
  case switches =>
    rintro word rest text s w bundle noValue ⟨scanned, walked⟩
    constructor
    · exact (FlagScan.ofWords_switches bundle noValue s.words).trans (by rw [scanned])
    · exact (ofWords_switches bundle noValue s.words).trans (by rw [walked])
  case lacking =>
    intro word pre letter flag bundle noValue isFlag
    exact ⟨FlagScan.ofWords_lacking bundle noValue isFlag, ofWords_lacking bundle noValue isFlag⟩
  case separate =>
    rintro word value rest pre letter flag s w bundle noValue isFlag ⟨scanned, walked⟩
    -- Only a value that begins with a dash is met in another place the second time.
    by_cases dash : startsWithDash value = true
    · rw [if_pos dash]
      obtain ⟨scansGlued, walksGlued⟩ := ofWords_glued bundle noValue isFlag dash s.words
      exact ⟨scansGlued.trans (by rw [scanned]), walksGlued.trans (by rw [walked])⟩
    · rw [if_neg dash]
      constructor
      · refine (FlagScan.ofWords_separate bundle noValue isFlag value s.words).trans ?_
        rw [if_neg dash, scanned]
      · exact (ofWords_separate bundle noValue isFlag value s.words).trans (by rw [walked])
  case attached =>
    rintro word rest pre letter flag more s w bundle nonempty noValue isFlag ⟨scanned, walked⟩
    constructor
    · exact (FlagScan.ofWords_attached bundle noValue isFlag nonempty s.words).trans
        (by rw [scanned])
    · exact (ofWords_attached bundle noValue isFlag nonempty s.words).trans (by rw [walked])

/-- The words in front of those that the walk leaves unread may be glued; the others stay. -/
theorem exists_areGlued (words : List String) :
    ∃ front glued, words = front ++ (ofWords words).rest ∧
      (FlagScan.ofWords words).words = glued ++ (ofWords words).rest ∧ AreGlued front glued := by
  refine along (motive := fun words s w =>
      ∃ front glued, words = front ++ w.rest ∧ s.words = glued ++ w.rest ∧ AreGlued front glued)
    ⟨[], [], rfl, rfl, .nil⟩ ?stop ?switches ?lacking ?separate ?attached words
  case stop =>
    intro word rest isEnd
    exact ⟨[], [], rfl, rfl, .nil⟩
  case switches =>
    rintro word _ text s w bundle noValue ⟨front, glued, rfl, isRead, areGlued⟩
    exact ⟨word :: front, word :: glued, rfl, congrArg (word :: ·) isRead, .keep word areGlued⟩
  case lacking =>
    intro word pre letter flag bundle noValue isFlag
    exact ⟨[word], [word], rfl, rfl, .keep word .nil⟩
  case separate =>
    rintro word value _ pre letter flag s w bundle noValue isFlag
      ⟨front, glued, rfl, isRead, areGlued⟩
    by_cases dash : startsWithDash value = true
    · rw [if_pos dash]
      exact ⟨word :: value :: front, (word ++ value) :: glued, rfl,
        congrArg ((word ++ value) :: ·) isRead,
        .glue bundle (wantsNext_of_flag noValue isFlag) dash areGlued⟩
    · rw [if_neg dash]
      exact ⟨word :: value :: front, word :: value :: glued, rfl,
        congrArg (word :: value :: ·) isRead, .keep word (.keep value areGlued)⟩
  case attached =>
    rintro word _ pre letter flag more s w bundle nonempty noValue isFlag
      ⟨front, glued, rfl, isRead, areGlued⟩
    exact ⟨word :: front, word :: glued, rfl, congrArg (word :: ·) isRead, .keep word areGlued⟩

/-- The walk stops only at a word that ends the flags. -/
theorem endsFlags_of_rest {words : List String} {word : String}
    (isNext : (ofWords words).rest.head? = some word) : endsFlags word = true := by
  revert isNext
  refine along (motive := fun _ _ w => w.rest.head? = some word → endsFlags word = true)
    nofun ?_ (fun _ _ _ _ _ _ _ ih => ih) (fun _ _ _ _ _ _ _ => nofun)
    (fun _ _ _ _ _ _ _ _ _ _ _ ih => ih) (fun _ _ _ _ _ _ _ _ _ _ _ _ ih => ih) words
  rintro _ _ isEnd ⟨⟩
  exact isEnd

end Walk

/-- All that a scan does to the words of a command line is to glue values that begin with a dash to
    their flags. No character is lost or moved, a second scan changes nothing, the walk meets the
    same letters with the same values, and the words from the one that ends the flags stay as they
    are. -/
theorem FlagScan.ofWords_onlyGlues (words : List String) :
    String.join (ofWords words).words = String.join words ∧
    ofWords (ofWords words).words = ofWords words ∧
    Walk.ofWords (ofWords words).words = Walk.ofWords words ∧
    (∀ word, (Walk.ofWords words).rest.head? = some word → endsFlags word = true) ∧
    ∃ front glued, words = front ++ (Walk.ofWords words).rest ∧
      (ofWords words).words = glued ++ (Walk.ofWords words).rest ∧ AreGlued front glued := by
  obtain ⟨front, glued, isWhole, isRead, areGlued⟩ := Walk.exists_areGlued words
  obtain ⟨scanned, walked⟩ := Walk.ofWords_scan words
  refine ⟨?_, scanned, walked, fun word => Walk.endsFlags_of_rest,
    front, glued, isWhole, isRead, areGlued⟩
  calc String.join (ofWords words).words
      = String.join glued ++ String.join (Walk.ofWords words).rest := by
        rw [isRead, String.join_append]
    _ = String.join front ++ String.join (Walk.ofWords words).rest := by rw [areGlued.join_eq]
    _ = String.join words := by rw [← String.join_append, ← isWhole]

end MuxLaunch
