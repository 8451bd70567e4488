import MuxLaunch.Proofs.Flags.Walk

/-! # The letters of the flags

Two tables say which letters are flags: the one that sorts them into switches and flags with
values, and the option string. They agree, so the first letter of a bundle that takes a value is
the same by either.
-/

namespace MuxLaunch

theorem toList_optionString : optionString.toList =
    ['2', 'c', ':', 'C', 'f', ':', 'l', 'L', ':', 'q', 'S', ':', 'u', 'v', 'F', 'k', ':', 'n', ':',
      'r', ':', 'a', ':', 'h', 'V'] :=
  rfl

/-- The option string lists the flags of the program and no others. -/
theorem arity_eq_ofLetter (letter : Char) : CommandLine.arity letter = Arity.ofLetter letter := by
  simp only [CommandLine.arity]
  fun_cases SwitchFlag.ofLetter? letter
  all_goals try rfl
  fun_cases ValueFlag.ofLetter? letter
  all_goals try rfl
  simp only [Arity.ofLetter, toList_optionString, Arity.inOptionString]
  simp_all

theorem CommandLine.arity_eq : CommandLine.arity = Arity.ofLetter :=
  funext arity_eq_ofLetter

theorem ofLetter_equals : Arity.ofLetter '=' = none :=
  rfl

theorem ofLetter_eq_value_iff (letter : Char) :
    Arity.ofLetter letter = some .value ↔ (ValueFlag.ofLetter? letter).isSome := by
  rw [← arity_eq_ofLetter]
  simp only [CommandLine.arity]
  fun_cases ValueFlag.ofLetter? letter
  all_goals try decide
  split <;> simp

theorem value_of_flag {letter : Char} {flag : ValueFlag}
    (isFlag : ValueFlag.ofLetter? letter = some flag) : Arity.ofLetter letter = some .value := by
  rw [ofLetter_eq_value_iff, isFlag]
  rfl

/-- None of the letters takes a value. -/
def TakeNoValue (letters : List Char) : Prop :=
  ∀ letter ∈ letters, Arity.ofLetter letter ≠ some .value

theorem takeNoValue_nil : TakeNoValue [] :=
  fun _ member => absurd member List.not_mem_nil

theorem TakeNoValue.cons {letter : Char} {letters : List Char}
    (head : Arity.ofLetter letter ≠ some .value) (tail : TakeNoValue letters) :
    TakeNoValue (letter :: letters) := by
  intro c member
  rcases List.mem_cons.mp member with rfl | member
  · exact head
  · exact tail c member

namespace ValueFlag

def letter : ValueFlag → Char
  | command => 'c'
  | configFile => 'f'
  | label => 'L'
  | socket => 'S'
  | apiKey => 'k'
  | sessionName => 'n'
  | readOnlyName => 'r'
  | authorizedKeys => 'a'

theorem ofLetter?_eq_some_iff (c : Char) (flag : ValueFlag) :
    ofLetter? c = some flag ↔ c = flag.letter := by
  constructor
  · intro isFlag
    fun_cases ofLetter? c <;> simp_all [ofLetter?] <;> cases isFlag <;> rfl
  · rintro rfl
    cases flag <;> rfl

theorem first?_eq_none {text : List Char} (h : first? text = none) : TakeNoValue text := by
  fun_induction first? text with
  | case1 => exact takeNoValue_nil
  | case2 => cases h
  | case3 letter rest isNone ih =>
      exact .cons (by simp [ofLetter_eq_value_iff, isNone]) (ih h)

theorem first?_append {pre : List Char} (noValue : TakeNoValue pre) (text : List Char) :
    first? (pre ++ text) = first? text := by
  induction pre with
  | nil => rfl
  | cons letter pre ih =>
      have isNone : ofLetter? letter = none := by
        simpa [ofLetter_eq_value_iff] using noValue letter List.mem_cons_self
      simp only [List.cons_append, first?, isNone]
      exact ih fun c hc => noValue c (List.mem_cons_of_mem letter hc)

theorem first?_of_takeNoValue {text : List Char} (noValue : TakeNoValue text) :
    first? text = none := by
  simpa [first?] using first?_append noValue []

theorem first?_append_flag {pre : List Char} (noValue : TakeNoValue pre) {letter : Char}
    {flag : ValueFlag} (isFlag : ofLetter? letter = some flag) (more : List Char) :
    first? (pre ++ letter :: more) = some (flag, more) := by
  rw [first?_append noValue, first?, isFlag]

/-- The first flag with a value stands behind letters that take none. -/
theorem first?_eq_some {text more : List Char} {flag : ValueFlag}
    (h : first? text = some (flag, more)) :
    ∃ pre letter, text = pre ++ letter :: more ∧ ofLetter? letter = some flag ∧
      TakeNoValue pre := by
  fun_induction first? text with
  | case1 => cases h
  | case2 letter rest found isFlag =>
      cases h
      exact ⟨[], letter, rfl, isFlag, takeNoValue_nil⟩
  | case3 letter rest isNone ih =>
      obtain ⟨pre, found, rfl, isFlag, before⟩ := ih h
      exact ⟨letter :: pre, found, rfl, isFlag,
        .cons (by simp [ofLetter_eq_value_iff, isNone]) before⟩

end ValueFlag

end MuxLaunch
