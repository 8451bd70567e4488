import Mathlib.Data.List.TakeWhile
import MuxLaunch.Command.SetOption
import MuxLaunch.Proofs.Flags.Bundle

/-! # Flag words of a command

The words in front of a command that begin with a dash are its flags, up to the first double dash.
They are accepted if each is a dash and flag letters. An equals sign behind the first letter of a
word is passed over.
-/

namespace MuxLaunch

namespace Bundle

/-- The text of a bundle without the sign that reading passes over. -/
def withoutSign : List Char → List Char
  | first :: '=' :: next :: rest => first :: next :: rest
  | text => text

theorem withoutSign_eq_nil {text : List Char} : withoutSign text = [] ↔ text = [] := by
  unfold withoutSign
  split <;> simp

theorem withoutSign_eq_singleton {text : List Char} {c : Char} :
    withoutSign text = [c] ↔ text = [c] := by
  unfold withoutSign
  split <;> simp

variable {arity : Char → Option Arity}

/-- A bundle of known switches is read in full, whether or not a sign in it is passed over. -/
theorem read?_of_known (equals : arity '=' = none) {text : List Char} (nonempty : text ≠ [])
    (known : ∀ c ∈ withoutSign text, arity c = some .switch) :
    read? arity text = some (.ok ⟨withoutSign text, none⟩) := by
  unfold withoutSign at known ⊢
  split at known
  · rename_i first next rest
    have noSign : next ≠ '=' := by
      rintro rfl
      simp [equals] at known
    have skips : SkipsSign [first] '=' (next :: rest) := ⟨rfl, rfl, by simp, by simpa using noSign⟩
    have isSwitch : ∀ c ∈ [first], arity c = some .switch := by
      simpa using known first (by simp)
    exact (read?_skipsSign isSwitch skips).1.trans (read?_switches equals (by simp) known)
  · exact read?_switches equals nonempty known

theorem withoutSign_of_noSign {first : Char} {rest : List Char} (noSign : rest.head? ≠ some '=') :
    withoutSign (first :: rest) = first :: rest := by
  unfold withoutSign
  split
  · rename_i isText
    cases isText
    exact absurd rfl noSign
  · rfl

theorem follow_of_unknown (noValues : ∀ c, arity c ≠ some .value) {letter : Char}
    (isSwitch : arity letter = some .switch) {rest : List Char}
    (unknown : ∃ c ∈ rest, arity c = none) : ∃ f, follow arity letter rest = .error f := by
  have isFound : (rest.find? (arity · = none)).isSome := by simpa using unknown
  obtain ⟨next, found⟩ := Option.isSome_iff_exists.mp isFound
  obtain ⟨isUnknown, lead, tail, rfl, areKnown⟩ := List.find?_eq_some_iff_append.mp found
  refine follow_unknown (fun c listed => ?_) isSwitch (by simpa using isUnknown) tail
  cases isKnown : arity c with
  | none => simpa [isKnown] using areKnown c listed
  | some a =>
      cases a with
      | switch => rfl
      | value => exact absurd isKnown (noValues c)

/-- A bundle is not read if an unknown letter is left in it. -/
theorem read?_of_unknown (noValues : ∀ c, arity c ≠ some .value) {text : List Char}
    (unknown : ∃ c ∈ withoutSign text, arity c = none) :
    read? arity text = none ∨ ∃ f, read? arity text = some (.error f) := by
  cases text with
  | nil => exact .inl rfl
  | cons first rest =>
      cases isKnown : arity first with
      | none => exact .inl (read?_unknown isKnown rest)
      | some a =>
          have isSwitch : arity first = some .switch := by
            cases a with
            | switch => exact isKnown
            | value => exact absurd isKnown (noValues first)
          have refused : ∀ others, (∃ c ∈ first :: others, arity c = none) →
              ∃ f, follow arity first others = .error f := by
            rintro others ⟨c, listed, isUnknown⟩
            refine follow_of_unknown noValues isSwitch ⟨c, ?_, isUnknown⟩
            rcases List.mem_cons.mp listed with rfl | behind
            · rw [isSwitch] at isUnknown
              cases isUnknown
            · exact behind
          right
          -- A sign is passed over if anything follows it, and refused if nothing does.
          by_cases isSign : rest.head? = some '='
          · obtain ⟨others, rfl⟩ := List.head?_eq_some_iff.mp isSign
            cases others with
            | nil => exact ⟨.unusedText first [], by simp [read?, isSwitch]⟩
            | cons next others =>
                obtain ⟨f, failed⟩ := refused (next :: others) unknown
                exact ⟨f, by simp [read?, isSwitch, failed]⟩
          · rw [withoutSign_of_noSign isSign] at unknown
            obtain ⟨f, failed⟩ := refused rest unknown
            exact ⟨f, by rw [read?_cons (by simp [isSwitch]) fun _ => isSign, failed]⟩

end Bundle

namespace SetOption

/-- The word begins with a dash and is more than that. -/
def isDashed (word : String) : Bool :=
  startsWithDash word && word ≠ "-"

/-- The dashed words in front of a command, cut after the first double dash. -/
def flagWords (words : List String) : List String :=
  (words.takeWhile isDashed).take ((words.takeWhile isDashed).idxOf "--" + 1)

/-- The flag letters of the command. -/
def flagLetters : List Char :=
  ['g', 'q', 's', 'u', 'w']

/-- The word is a dash and one or more flag letters. -/
def isFlagWord (word : String) : Bool :=
  startsWithDash word && word.toList.tail ≠ [] && word.toList.tail.all (flagLetters.contains ·)

/-- The word without an equals sign right behind its first letter, unless nothing follows it. -/
def withoutSign (word : String) : String :=
  match word.toList with
  | [] => word
  | dash :: text => String.ofList (dash :: Bundle.withoutSign text)

theorem flagWords_stop {word : String} (stops : isDashed word = false) (rest : List String) :
    flagWords (word :: rest) = [] := by
  simp [flagWords, stops]

theorem flagWords_doubleDash (rest : List String) : flagWords ("--" :: rest) = ["--"] := by
  have dashed : isDashed "--" = true := by decide
  simp [flagWords, dashed]

theorem flagWords_cons {word : String} (dashed : isDashed word = true) (single : word ≠ "--")
    (rest : List String) : flagWords (word :: rest) = word :: flagWords rest := by
  have different : (word == "--") = false := by simpa using single
  rw [flagWords, List.takeWhile_cons_of_pos dashed, List.idxOf_cons, different]
  rfl

/-- The words fall into the flag words and the rest. -/
theorem flagWords_append (words : List String) :
    flagWords words ++ words.drop (flagWords words).length = words :=
  List.prefix_iff_eq_append.mp ((List.take_prefix _ _).trans (List.takeWhile_prefix _))

theorem isDashed_of_mem {words : List String} {word : String} (listed : word ∈ flagWords words) :
    isDashed word = true :=
  List.mem_takeWhile_imp (List.mem_of_mem_take listed)

/-- Splitting gives the flag words but for a double dash, and the words behind them. -/
theorem splitFlags_eq (words : List String) :
    splitFlags words =
      ((flagWords words).filter (· ≠ "--"), words.drop (flagWords words).length) := by
  fun_induction splitFlags words with
  | case1 => rfl
  | case2 word rest stops =>
      have notDashed : isDashed word = false := by
        rcases stops with rfl | noDash
        · decide
        · simp_all [isDashed]
      rw [flagWords_stop notDashed]
      rfl
  | case3 rest goesOn =>
      rw [flagWords_doubleDash]
      rfl
  | case4 word rest goesOn single ih =>
      have dashed : isDashed word = true := by
        simpa [isDashed, and_comm] using goesOn
      rw [flagWords_cons dashed single, List.filter_cons_of_pos (by simpa using single), ih]
      rfl

theorem arity_eq (c : Char) :
    SetOptionFlags.arity c = if c ∈ flagLetters then some .switch else none := by
  simp only [SetOptionFlags.arity, List.contains_iff_mem]
  rfl

theorem arity_ne_value (c : Char) : SetOptionFlags.arity c ≠ some .value := by
  rw [arity_eq]
  split <;> simp

theorem head?_withoutSign (word : String) :
    (withoutSign word).toList.head? = word.toList.head? := by
  unfold withoutSign
  split
  · rfl
  · rename_i isWord
    simp [isWord]

theorem tail_withoutSign (word : String) :
    (withoutSign word).toList.tail = Bundle.withoutSign word.toList.tail := by
  unfold withoutSign
  split
  · rename_i isWord
    rw [isWord]
    rfl
  · rename_i isWord
    simp [isWord]

theorem isDashed_iff (word : String) :
    isDashed word = true ↔ word.toList.head? = some '-' ∧ word.toList.tail ≠ [] := by
  have isDash : word = "-" ↔ word.toList = ['-'] := String.toList_inj.symm
  rw [isDashed, Bool.and_eq_true, startsWithDash, decide_eq_true_eq, decide_eq_true_eq, Ne, isDash]
  cases word.toList with
  | nil => simp
  | cons c rest => cases rest <;> simp

theorem isDashed_withoutSign (word : String) : isDashed (withoutSign word) = isDashed word := by
  rw [Bool.eq_iff_iff, isDashed_iff, isDashed_iff, head?_withoutSign, tail_withoutSign, Ne, Ne,
    Bundle.withoutSign_eq_nil]

theorem withoutSign_eq_doubleDash {word : String} : withoutSign word = "--" ↔ word = "--" := by
  have isDouble : ∀ w : String, w = "--" ↔ w.toList.head? = some '-' ∧ w.toList.tail = ['-'] := by
    intro w
    have sameText : w = "--" ↔ w.toList = ['-', '-'] := String.toList_inj.symm
    rw [sameText]
    cases w.toList <;> simp
  rw [isDouble, isDouble, head?_withoutSign, tail_withoutSign, Bundle.withoutSign_eq_singleton]

theorem isFlagWord_iff (word : String) :
    isFlagWord word = true ↔ isDashed word = true ∧ ∀ c ∈ word.toList.tail, c ∈ flagLetters := by
  simp [isFlagWord, isDashed_iff, startsWithDash, and_assoc]

/-- An equals sign is no flag letter. -/
theorem isFlagWord_of_sign {word : String} (changes : withoutSign word ≠ word) :
    isFlagWord word = false := by
  by_contra isFlag
  obtain ⟨-, known⟩ := (isFlagWord_iff word).mp (by simpa using isFlag)
  refine changes (String.toList_inj.mp ?_)
  unfold withoutSign
  cases isWord : word.toList with
  | nil => simpa using isWord
  | cons dash text =>
      rw [isWord, List.tail_cons] at known
      cases text with
      | nil => simp [Bundle.withoutSign]
      | cons first rest =>
          rw [String.toList_ofList, Bundle.withoutSign_of_noSign]
          intro isSign
          have listed : '=' ∈ flagLetters :=
            known '=' (List.mem_of_mem_tail (List.mem_of_head? isSign))
          exact absurd listed (by decide)

/-- Without its sign a flag word is read in full, and any other word is not read. -/
theorem read?_of_isFlagWord {word : String} (isFlag : isFlagWord (withoutSign word)) :
    Bundle.read? SetOptionFlags.arity word.toList.tail =
      some (.ok ⟨(withoutSign word).toList.tail, none⟩) := by
  obtain ⟨dashed, known⟩ := (isFlagWord_iff _).mp isFlag
  rw [isDashed_withoutSign, isDashed_iff] at dashed
  rw [tail_withoutSign] at known ⊢
  exact Bundle.read?_of_known (by decide) dashed.2 fun c listed => by
    rw [arity_eq, if_pos (known c listed)]

theorem read?_of_not_isFlagWord {word : String} (dashed : isDashed word)
    (noFlag : isFlagWord (withoutSign word) = false) :
    Bundle.read? SetOptionFlags.arity word.toList.tail = none ∨
    ∃ f, Bundle.read? SetOptionFlags.arity word.toList.tail = some (.error f) := by
  refine Bundle.read?_of_unknown arity_ne_value ?_
  by_contra allKnown
  suffices isFlag : isFlagWord (withoutSign word) = true by
    rw [noFlag] at isFlag
    cases isFlag
  refine (isFlagWord_iff _).mpr ⟨?_, fun c listed => ?_⟩
  · rw [isDashed_withoutSign, dashed]
  · by_contra isUnknown
    rw [tail_withoutSign] at listed
    exact allKnown ⟨c, listed, by rw [arity_eq, if_neg isUnknown]⟩

end SetOption

namespace SetOptionFlags

open SetOption

/-- A word that has been set aside is not forgotten. -/
theorem readWords_of_unknown {unknown : List String} (setAside : unknown ≠ [])
    (fs : SetOptionFlags) (flags : List String) : ∃ f, readWords unknown fs flags = .error f := by
  fun_induction readWords unknown fs flags with
  | case1 unknown fs setAside => exact ⟨_, rfl⟩
  | case2 unknown fs noneAside => exact absurd setAside noneAside
  | case3 unknown fs word rest notRead ih => exact ih (by simp)
  | case4 unknown fs word rest f failed => exact ⟨f, rfl⟩
  | case5 unknown fs word rest b isRead ih => exact ih setAside

/-- Flag words are accepted, and all their letters are acted on. -/
theorem readWords_of_flags {flags : List String}
    (areFlags : ∀ word ∈ flags, isFlagWord (withoutSign word)) (fs : SetOptionFlags) :
    readWords [] fs flags =
      .ok ((flags.flatMap fun word => (withoutSign word).toList.tail).foldl act fs) := by
  induction flags generalizing fs with
  | nil => rfl
  | cons word rest ih =>
      obtain ⟨isFlag, areFlags⟩ := List.forall_mem_cons.mp areFlags
      rw [readWords, read?_of_isFlagWord isFlag, List.flatMap_cons, List.foldl_append]
      exact ih areFlags _

/-- A word that is no flag word is refused, wherever it stands. -/
theorem readWords_of_other {flags : List String} (dashed : ∀ word ∈ flags, isDashed word)
    (other : ∃ word ∈ flags, isFlagWord (withoutSign word) = false) (unknown : List String)
    (fs : SetOptionFlags) : ∃ f, readWords unknown fs flags = .error f := by
  induction flags generalizing unknown fs with
  | nil => simp at other
  | cons word rest ih =>
      obtain ⟨isDashed, dashed⟩ := List.forall_mem_cons.mp dashed
      rw [readWords]
      cases isFlag : isFlagWord (withoutSign word) with
      | false =>
          rcases read?_of_not_isFlagWord isDashed isFlag with notRead | ⟨f, failed⟩
          · rw [notRead]
            exact readWords_of_unknown (by simp) fs rest
          · rw [failed]
            exact ⟨f, rfl⟩
      | true =>
          rw [read?_of_isFlagWord isFlag]
          refine ih dashed ?_ unknown _
          obtain ⟨word', listed, noFlag⟩ := other
          rcases List.mem_cons.mp listed with rfl | behind
          · rw [isFlag] at noFlag
            cases noFlag
          · exact ⟨word', behind, noFlag⟩

/-- Each flag is set by its letter. -/
theorem foldl_act (letters : List Char) (fs : SetOptionFlags) :
    letters.foldl act fs =
      ⟨fs.quiet || letters.contains 'q', fs.server || letters.contains 's',
        fs.reset || letters.contains 'u', fs.window || letters.contains 'w'⟩ := by
  induction letters generalizing fs with
  | nil => simp
  | cons letter rest ih =>
      rw [List.foldl_cons, ih]
      unfold act
      split
      · simp
      · simp
      · simp
      · simp
      · rename_i notQuiet notServer notReset notWindow
        simp [Ne.symm notQuiet, Ne.symm notServer, Ne.symm notReset, Ne.symm notWindow]

end SetOptionFlags

end MuxLaunch
