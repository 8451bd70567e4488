import MuxLaunch.Flags.Bundle

/-! # Reading bundles

A bundle of known switches is read letter by letter, and one that ends in a letter with a value is
read up to that letter. The equals sign that may be skipped never stands in such a bundle.
-/

namespace MuxLaunch.Bundle

variable {arity : Char → Option Arity}

theorem follow_append {pre : List Char} (switches : ∀ c ∈ pre, arity c = some .switch)
    {letter next : Char} (isSwitch : arity letter = some .switch) (known : arity next ≠ none)
    (rest : List Char) :
    follow arity letter (pre ++ next :: rest) =
      (follow arity next rest).map fun b => { b with letters := letter :: pre ++ b.letters } := by
  induction pre generalizing letter with
  | nil => simp [follow, isSwitch, known]
  | cons c pre ih =>
      have isSwitch' := switches c List.mem_cons_self
      have ih := ih (fun d hd => switches d (List.mem_cons_of_mem c hd)) isSwitch'
      simp only [List.cons_append, follow, isSwitch, isSwitch', ih]
      cases follow arity next rest <;> simp [Except.map]

theorem follow_value {letter : Char} (isValue : arity letter = some .value) (rest : List Char) :
    follow arity letter rest = .ok ⟨[letter], if rest = [] then some letter else none⟩ := by
  cases rest <;> simp [follow, isValue]

theorem read?_cons {letter : Char} (known : arity letter ≠ none) {rest : List Char}
    (noSkip : arity letter = some .switch → rest.head? ≠ some '=') :
    read? arity (letter :: rest) = some (follow arity letter rest) := by
  cases isKnown : arity letter with
  | none => exact absurd isKnown known
  | some a =>
      cases a with
      | value => simp [read?, isKnown]
      | switch =>
          cases rest with
          | nil => simp [read?, isKnown]
          | cons next rest =>
              have different : next ≠ '=' := by simpa using noSkip isKnown
              simp [read?, isKnown, different]

theorem read?_switches (unknown : arity '=' = none) {letters : List Char}
    (nonempty : letters ≠ []) (switches : ∀ c ∈ letters, arity c = some .switch) :
    read? arity letters = some (.ok ⟨letters, none⟩) := by
  obtain ⟨letter, rest, rfl⟩ := List.exists_cons_of_ne_nil nonempty
  have isSwitch := switches letter List.mem_cons_self
  have others : ∀ c ∈ rest, arity c = some .switch := fun c hc =>
    switches c (List.mem_cons_of_mem letter hc)
  rw [read?_cons (by simp [isSwitch])]
  · rcases List.eq_nil_or_concat rest with rfl | ⟨pre, last, rfl⟩
    · simp [follow, isSwitch]
    · have isLast := others last (by simp)
      rw [List.concat_eq_append, follow_append (fun c hc => others c (by simp [hc])) isSwitch
        (by simp [isLast])]
      simp [follow, isLast, Except.map]
  · intro _ isEquals
    have isSwitch := others '=' (List.mem_of_head? isEquals)
    rw [unknown] at isSwitch
    cases isSwitch

/-- Behind a letter with a value nothing is read: the rest of the word is the value, and only an
    empty rest leaves the letter wanting one. -/
theorem read?_value (unknown : arity '=' = none) {pre : List Char}
    (switches : ∀ c ∈ pre, arity c = some .switch) {letter : Char}
    (isValue : arity letter = some .value) (more : List Char) :
    read? arity (pre ++ letter :: more) =
      some (.ok ⟨pre ++ [letter], if more = [] then some letter else none⟩) := by
  cases pre with
  | nil =>
      rw [List.nil_append, read?_cons (by simp [isValue]) (by simp [isValue]),
        follow_value isValue, List.nil_append]
  | cons first pre =>
      have isSwitch := switches first List.mem_cons_self
      have others : ∀ c ∈ pre, arity c = some .switch := fun c hc =>
        switches c (List.mem_cons_of_mem first hc)
      rw [List.cons_append, read?_cons (by simp [isSwitch]),
        follow_append others isSwitch (by simp [isValue]), follow_value isValue]
      · rfl
      · intro _ isEquals
        cases pre with
        | nil =>
            have same : letter = '=' := by simpa using isEquals
            rw [← same, isValue] at unknown
            cases unknown
        | cons c pre =>
            have same : c = '=' := by simpa using isEquals
            have isSwitch := others c List.mem_cons_self
            rw [same, unknown] at isSwitch
            cases isSwitch

theorem follow_unknown {pre : List Char} (switches : ∀ c ∈ pre, arity c = some .switch)
    {letter next : Char} (isSwitch : arity letter = some .switch) (unknown : arity next = none)
    (rest : List Char) : ∃ f, follow arity letter (pre ++ next :: rest) = .error f := by
  induction pre generalizing letter with
  | nil => exact ⟨.unusedText letter (next :: rest), by simp [follow, isSwitch, unknown]⟩
  | cons c pre ih =>
      have isSwitch' := switches c List.mem_cons_self
      obtain ⟨f, failed⟩ := ih (fun d hd => switches d (List.mem_cons_of_mem c hd)) isSwitch'
      refine ⟨f, ?_⟩
      simp only [List.cons_append, follow, isSwitch, isSwitch', failed]
      rfl

theorem read?_unknown {letter : Char} (unknown : arity letter = none) (rest : List Char) :
    read? arity (letter :: rest) = none := by
  simp [read?, unknown]

/-- The sign right behind a first letter is passed over if there is a text for it to introduce. -/
def SkipsSign (lead : List Char) (letter : Char) (tail : List Char) : Prop :=
  lead.length = 1 ∧ letter = '=' ∧ tail ≠ [] ∧ tail.head? ≠ some '='

instance (lead : List Char) (letter : Char) (tail : List Char) :
    Decidable (SkipsSign lead letter tail) :=
  inferInstanceAs (Decidable (_ ∧ _ ∧ _ ∧ _))

theorem skipsSign_append {lead : List Char} {letter : Char} {tail more : List Char}
    (atEnd : tail = [] → more = []) :
    SkipsSign lead letter (tail ++ more) ↔ SkipsSign lead letter tail := by
  cases tail with
  | nil => rw [atEnd rfl, List.append_nil]
  | cons next rest => simp [SkipsSign]

theorem read?_skipsSign {lead : List Char} (switches : ∀ c ∈ lead, arity c = some .switch)
    {letter : Char} {tail : List Char} (skips : SkipsSign lead letter tail) :
    read? arity (lead ++ letter :: tail) = read? arity (lead ++ tail) ∧
    (read? arity (lead ++ tail)).isSome := by
  obtain ⟨isSingle, rfl, nonempty, noSign⟩ := skips
  obtain ⟨first, rfl⟩ := List.length_eq_one_iff.mp isSingle
  obtain ⟨next, rest, rfl⟩ := List.exists_cons_of_ne_nil nonempty
  have isSwitch := switches first List.mem_cons_self
  have different : next ≠ '=' := by simpa using noSign
  simp [read?, isSwitch, different]

/-- An unknown letter behind known ones is refused unless it is a sign that is passed over. -/
theorem read?_unknown_behind (equals : arity '=' = none) {lead : List Char} (nonempty : lead ≠ [])
    (switches : ∀ c ∈ lead, arity c = some .switch) {letter : Char} (unknown : arity letter = none)
    {tail : List Char} (noSkip : ¬SkipsSign lead letter tail) :
    ∃ f, read? arity (lead ++ letter :: tail) = some (.error f) := by
  obtain ⟨first, pre, rfl⟩ := List.exists_cons_of_ne_nil nonempty
  have isSwitch := switches first List.mem_cons_self
  have others : ∀ c ∈ pre, arity c = some .switch := fun c hc =>
    switches c (List.mem_cons_of_mem first hc)
  by_cases isSign : pre = [] ∧ letter = '='
  · obtain ⟨rfl, rfl⟩ := isSign
    match tail with
    | [] => exact ⟨.unusedText first [], by simp [read?, isSwitch]⟩
    | next :: rest =>
        have isNext : next = '=' := by simpa [SkipsSign] using noSkip
        subst isNext
        exact ⟨.unusedText first ('=' :: rest), by simp [read?, isSwitch, follow, equals]⟩
  · obtain ⟨f, failed⟩ := follow_unknown others isSwitch unknown tail
    refine ⟨f, ?_⟩
    rw [List.cons_append, read?_cons (by simp [isSwitch]), failed]
    intro _ isEquals
    cases pre with
    | nil => exact isSign ⟨rfl, by simpa using isEquals⟩
    | cons c pre =>
        have same : c = '=' := by simpa using isEquals
        have isSwitch := others c List.mem_cons_self
        rw [same, equals] at isSwitch
        cases isSwitch

end MuxLaunch.Bundle
