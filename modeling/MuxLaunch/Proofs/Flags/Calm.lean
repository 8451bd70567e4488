import MuxLaunch.Proofs.Flags.Reading

/-! # Words in order

Words of flags that are in order and do not end the reading are passed over: whatever stands behind
them is scanned and read as if it stood alone, but for the line that they leave.
-/

namespace MuxLaunch

/-- The letter is a switch that asks neither for the version nor for help. -/
def IsQuiet (letter : Char) : Prop :=
  Arity.ofLetter letter = some .switch ∧ letter ≠ 'V' ∧ letter ≠ 'h'

instance (letter : Char) : Decidable (IsQuiet letter) :=
  inferInstanceAs (Decidable (_ ∧ _ ∧ _))

/-- Words of flags that are in order and do not end the reading. The last of them has its value. -/
inductive AreCalm : List String → Prop
  | nil : AreCalm []
  | switches {word : String} {rest : List String} {text : List Char} :
      IsBundle word text → (∀ c ∈ text, IsQuiet c) → AreCalm rest → AreCalm (word :: rest)
  | attached {word : String} {rest : List String} {pre more : List Char} {letter : Char}
      {flag : ValueFlag} :
      IsBundle word (pre ++ letter :: more) → (∀ c ∈ pre, IsQuiet c) →
      ValueFlag.ofLetter? letter = some flag → more ≠ [] → AreCalm rest → AreCalm (word :: rest)
  | separate {word value : String} {rest : List String} {pre : List Char} {letter : Char}
      {flag : ValueFlag} :
      IsBundle word (pre ++ [letter]) → (∀ c ∈ pre, IsQuiet c) →
      ValueFlag.ofLetter? letter = some flag → AreCalm rest → AreCalm (word :: value :: rest)

theorem takeNoValue_of_quiet {letters : List Char} (quiet : ∀ c ∈ letters, IsQuiet c) :
    TakeNoValue letters := by
  intro c listed isValue
  rw [(quiet c listed).1] at isValue
  cases isValue

theorem late_of_flag {letter : Char} {flag : ValueFlag}
    (isFlag : ValueFlag.ofLetter? letter = some flag) : letter ≠ 'V' ∧ letter ≠ 'h' := by
  constructor
  · rintro rfl
    cases isFlag
  · rintro rfl
    cases isFlag

theorem late_of_quiet_flag {pre : List Char} (quiet : ∀ c ∈ pre, IsQuiet c) {letter : Char}
    {flag : ValueFlag} (isFlag : ValueFlag.ofLetter? letter = some flag) :
    ∀ c ∈ pre ++ [letter], c ≠ 'V' ∧ c ≠ 'h' := by
  rw [List.forall_mem_append, List.forall_mem_singleton]
  exact ⟨fun c listed => (quiet c listed).2, late_of_flag isFlag⟩

namespace FlagScan

theorem ofWords_switches {word : String} {text : List Char} (bundle : IsBundle word text)
    (noValue : TakeNoValue text) (rest : List String) :
    ofWords (word :: rest) = (ofWords rest).prepend [word] [] := by
  rw [ofWords.eq_def]
  simp only [bundle.1, bundle.2, List.tail_cons, ValueFlag.first?_of_takeNoValue noValue]
  rfl

theorem ofWords_separate {word : String} {pre : List Char} {letter : Char} {flag : ValueFlag}
    (bundle : IsBundle word (pre ++ [letter])) (noValue : TakeNoValue pre)
    (isFlag : ValueFlag.ofLetter? letter = some flag) (value : String) (rest : List String) :
    ofWords (word :: value :: rest) =
      (ofWords rest).prepend (if startsWithDash value then [word ++ value] else [word, value])
        [(flag, value)] := by
  rw [ofWords.eq_def]
  simp only [bundle.1, bundle.2, List.tail_cons, ValueFlag.first?_append_flag noValue isFlag]
  rfl

theorem ofWords_attached {word : String} {pre more : List Char} {letter : Char} {flag : ValueFlag}
    (bundle : IsBundle word (pre ++ letter :: more)) (noValue : TakeNoValue pre)
    (isFlag : ValueFlag.ofLetter? letter = some flag) (nonempty : more ≠ [])
    (rest : List String) :
    ofWords (word :: rest) = (ofWords rest).prepend [word] [(flag, String.ofList more)] := by
  obtain ⟨next, more, rfl⟩ := List.exists_cons_of_ne_nil nonempty
  rw [ofWords.eq_def]
  simp only [bundle.1, bundle.2, List.tail_cons, ValueFlag.first?_append_flag noValue isFlag]
  rfl

theorem prepend_prepend (s : FlagScan) (words words' : List String)
    (values values' : List (ValueFlag × String)) :
    (s.prepend words values).prepend words' values' =
      s.prepend (words' ++ words) (values' ++ values) := by
  simp [prepend]

end FlagScan

namespace CommandLine

theorem actAll_late (line : CommandLine) {letters : List Char}
    (late : ∀ c ∈ letters, c ≠ 'V' ∧ c ≠ 'h') :
    ∃ line', line.actAll letters = .ok line' := by
  have none : letters.find? (fun letter => letter = 'V' ∨ letter = 'h') = none := by
    rw [List.find?_eq_none]
    intro c listed
    simp [late c listed]
  rw [actAll_eq, none]
  exact ⟨_, rfl⟩

/-- Words may be passed over behind letters that do not end the reading. -/
theorem passes_acted {read : List String} {letters : List Char}
    (reads : ∀ line, ∃ line', ∀ rest, readWords [] line (read ++ rest) = readWords [] line' rest)
    (late : ∀ c ∈ letters, c ≠ 'V' ∧ c ≠ 'h') (line : CommandLine) :
    ∃ line', ∀ rest, (line.actAll letters >>= fun line => readWords [] line (read ++ rest)) =
      readWords [] line' rest := by
  obtain ⟨acted, isActed⟩ := line.actAll_late late
  obtain ⟨line', done⟩ := reads acted
  refine ⟨line', fun rest => ?_⟩
  rw [isActed]
  exact done rest

end CommandLine

open CommandLine

/-- Words in order are passed over by the scan and by the reading of bundles. -/
theorem AreCalm.passes {front : List String} (calm : AreCalm front) :
    ∃ read values,
      (∀ rest, FlagScan.ofWords (front ++ rest) = (FlagScan.ofWords rest).prepend read values) ∧
      ∀ line, ∃ line', ∀ rest, readWords [] line (read ++ rest) = readWords [] line' rest := by
  induction calm with
  | nil => exact ⟨[], [], fun rest => rfl, fun line => ⟨line, fun rest => rfl⟩⟩
  | @switches word front text bundle quiet _ ih =>
      obtain ⟨read, values, scans, reads⟩ := ih
      refine ⟨[word] ++ read, [] ++ values, fun rest => ?_, fun line => ?_⟩
      · rw [List.cons_append, FlagScan.ofWords_switches bundle (takeNoValue_of_quiet quiet), scans,
          FlagScan.prepend_prepend]
      · have isRead := Bundle.read?_switches ofLetter_equals bundle.ne_nil
          fun c listed => (quiet c listed).1
        rw [← arity_eq] at isRead
        obtain ⟨line', done⟩ := passes_acted reads (fun c listed => (quiet c listed).2) line
        exact ⟨line', fun rest => (readWords_bundle bundle isRead line _).trans (done rest)⟩
  | @attached word front pre more letter flag bundle quiet isFlag nonempty _ ih =>
      obtain ⟨read, values, scans, reads⟩ := ih
      refine ⟨[word] ++ read, [(flag, String.ofList more)] ++ values, fun rest => ?_,
        fun line => ?_⟩
      · rw [List.cons_append,
          FlagScan.ofWords_attached bundle (takeNoValue_of_quiet quiet) isFlag nonempty, scans,
          FlagScan.prepend_prepend]
      · have isRead := Bundle.read?_value ofLetter_equals (fun c listed => (quiet c listed).1)
          (value_of_flag isFlag) more
        rw [← arity_eq, if_neg nonempty] at isRead
        obtain ⟨line', done⟩ := passes_acted reads (late_of_quiet_flag quiet isFlag) line
        exact ⟨line', fun rest => (readWords_bundle bundle isRead line _).trans (done rest)⟩
  | @separate word value front pre letter flag bundle quiet isFlag _ ih =>
      obtain ⟨read, values, scans, reads⟩ := ih
      refine ⟨(if startsWithDash value then [word ++ value] else [word, value]) ++ read,
        [(flag, value)] ++ values, fun rest => ?_, fun line => ?_⟩
      · rw [List.cons_append, List.cons_append,
          FlagScan.ofWords_separate bundle (takeNoValue_of_quiet quiet) isFlag, scans,
          FlagScan.prepend_prepend]
      · have isRead := Bundle.read?_value ofLetter_equals (fun c listed => (quiet c listed).1)
          (value_of_flag isFlag)
        rw [← arity_eq] at isRead
        obtain ⟨line', done⟩ := passes_acted reads (late_of_quiet_flag quiet isFlag) line
        refine ⟨line', fun rest => ?_⟩
        by_cases dash : startsWithDash value = true
        · obtain ⟨whole, nonempty⟩ := bundle.glue dash
          have isRead := isRead value.toList
          rw [if_neg nonempty] at isRead
          rw [if_pos dash]
          exact (readWords_bundle whole isRead line _).trans (done rest)
        · rw [if_neg dash]
          exact (readWords_wanting bundle (isRead []) (by simpa using dash) line _).trans
            (done rest)

end MuxLaunch
