import MuxLaunch.Proofs.Flags.Calm

/-! # Where a command line goes wrong

A walk goes wrong at the first letter that is unknown or lacks its value, unless a letter before it
asks for the version or for help. The letter has its place in a word, and the words in front of that
one are in order.
-/

namespace MuxLaunch

/-- Does the letter ask for the version or for help? -/
def MetFlag.isEarly (f : MetFlag) : Bool :=
  f.letter = 'V' || f.letter = 'h'

/-- An unknown letter, or one without its value, is met before any that asks for the version or for
    help. -/
def Walk.IsFaulty (w : Walk) : Prop :=
  ∃ f ∈ w.met.takeWhile fun f => !f.isEarly, ¬f.isProper

instance (w : Walk) : Decidable w.IsFaulty :=
  inferInstanceAs (Decidable (∃ f ∈ w.met.takeWhile fun f => !f.isEarly, ¬f.isProper))

/-- A letter at its place in a command line. -/
structure Offence where
  front : List String
  /-- The letters in front of the letter in its word. -/
  lead : List Char
  letter : Char
  tail : List Char
  behind : List String
  deriving Repr, DecidableEq

namespace Offence

def text (o : Offence) : List Char :=
  o.lead ++ o.letter :: o.tail

def word (o : Offence) : String :=
  String.ofList ('-' :: o.text)

def words (o : Offence) : List String :=
  o.front ++ o.word :: o.behind

/-- The letter is the first to offend: it is unknown or lacks its value, and everything in front of
    it is in order. -/
structure IsFirst (o : Offence) : Prop where
  front : AreCalm o.front
  bundle : IsBundle o.word o.text
  lead : ∀ c ∈ o.lead, IsQuiet c
  offends : Arity.ofLetter o.letter = none ∨
    Arity.ofLetter o.letter = some .value ∧ o.tail = [] ∧ o.behind = []

end Offence

theorem quiet_or_split (letters : List Char) :
    (∀ c ∈ letters, IsQuiet c) ∨
    ∃ lead c tail, letters = lead ++ c :: tail ∧ (∀ q ∈ lead, IsQuiet q) ∧ ¬IsQuiet c := by
  induction letters with
  | nil => exact .inl (by simp)
  | cons letter rest ih =>
      by_cases quiet : IsQuiet letter
      · rcases ih with all | ⟨lead, c, tail, rfl, before, offends⟩
        · exact .inl (List.forall_mem_cons.mpr ⟨quiet, all⟩)
        · exact .inr ⟨letter :: lead, c, tail, rfl, List.forall_mem_cons.mpr ⟨quiet, before⟩,
            offends⟩
      · exact .inr ⟨[], letter, rest, rfl, by simp, quiet⟩

namespace Walk

variable {w : Walk}

/-- What is met in quiet letters neither ends the reading nor offends. -/
theorem plain_quiet {letters : List Char} (quiet : ∀ c ∈ letters, IsQuiet c) :
    ∀ f ∈ plain letters, f.isEarly = false ∧ f.isProper := by
  intro f member
  obtain ⟨c, listed, rfl⟩ := List.mem_map.mp member
  obtain ⟨isSwitch, notVersion, notHelp⟩ := quiet c listed
  simp [MetFlag.isEarly, MetFlag.isProper, isSwitch, notVersion, notHelp]

theorem valued_quiet {letter : Char} {flag : ValueFlag}
    (isFlag : ValueFlag.ofLetter? letter = some flag) (value : String) :
    (⟨letter, some value⟩ : MetFlag).isEarly = false ∧
    (⟨letter, some value⟩ : MetFlag).isProper := by
  obtain ⟨notVersion, notHelp⟩ := late_of_flag isFlag
  simp [MetFlag.isEarly, MetFlag.isProper, value_of_flag isFlag, notVersion, notHelp]

theorem IsFaulty.of_prepend {met : List MetFlag}
    (quiet : ∀ f ∈ met, f.isEarly = false ∧ f.isProper) (faulty : (w.prepend met).IsFaulty) :
    w.IsFaulty := by
  obtain ⟨f, member, improper⟩ := faulty
  rw [prepend, List.takeWhile_append_of_pos (fun f listed => by simp [(quiet f listed).1]),
    List.mem_append] at member
  rcases member with inFront | inRest
  · exact absurd (quiet f inFront).2 improper
  · exact ⟨f, inRest, improper⟩

/-- A letter that ends the reading hides the faults behind it. -/
theorem not_isFaulty_of_early {met after : List MetFlag} {f : MetFlag}
    (quiet : ∀ g ∈ met, g.isEarly = false ∧ g.isProper) (early : f.isEarly)
    (isMet : w.met = met ++ f :: after) : ¬w.IsFaulty := by
  rintro ⟨g, member, improper⟩
  rw [isMet, List.takeWhile_append_of_pos (fun f listed => by simp [(quiet f listed).1]),
    List.takeWhile_cons_of_neg (by simp [early]), List.append_nil] at member
  exact improper (quiet g member).2

end Walk

/-- If a walk goes wrong that begins in a word, either the letters of the word in front of its value
    are in order, or the first offence is in the word. -/
theorem quiet_or_offence {word : String} {behind : List String} {pre after : List Char}
    {w : Walk} {met : List MetFlag} (bundle : IsBundle word (pre ++ after))
    (noValue : TakeNoValue pre) (isMet : w.met = Walk.plain pre ++ met) (faulty : w.IsFaulty) :
    (∀ c ∈ pre, IsQuiet c) ∨ ∃ o : Offence, o.IsFirst ∧ o.words = word :: behind := by
  rcases quiet_or_split pre with quiet | ⟨lead, c, tail, rfl, quiet, offends⟩
  · exact .inl quiet
  · have unknown : Arity.ofLetter c = none := by
      cases isKnown : Arity.ofLetter c with
      | none => rfl
      | some a =>
          cases a with
          | value => exact absurd isKnown (noValue c (by simp))
          | switch =>
              have early : (⟨c, none⟩ : MetFlag).isEarly := by
                simpa [MetFlag.isEarly, IsQuiet, isKnown, Classical.or_iff_not_imp_left]
                  using offends
              have isMet : w.met = Walk.plain lead ++ ⟨c, none⟩ :: (Walk.plain tail ++ met) := by
                simp [isMet, Walk.plain]
              exact absurd faulty
                (Walk.not_isFaulty_of_early (Walk.plain_quiet quiet) early isMet)
    have isWord : (⟨[], lead, c, tail ++ after, behind⟩ : Offence).word = word := by
      rw [← String.toList_inj, bundle.2]
      simp [Offence.word, Offence.text]
    refine .inr ⟨⟨[], lead, c, tail ++ after, behind⟩, ⟨.nil, ?_, quiet, .inl unknown⟩, ?_⟩
    · rw [isWord]
      simpa [Offence.text] using bundle
    · simp [Offence.words, isWord]

/-- Words in order may be put in front of a command line that goes wrong. -/
theorem exists_offence_after {words : List String} (front : List String)
    (calm : ∀ rest, AreCalm rest → AreCalm (front ++ rest))
    (offence : ∃ o : Offence, o.IsFirst ∧ o.words = words) :
    ∃ o : Offence, o.IsFirst ∧ o.words = front ++ words := by
  obtain ⟨o, first, rfl⟩ := offence
  exact ⟨{ o with front := front ++ o.front },
    ⟨calm o.front first.front, first.bundle, first.lead, first.offends⟩,
    List.append_assoc front o.front (o.word :: o.behind)⟩

/-- Every command line on which the walk goes wrong has a first offence. -/
theorem exists_offence (words : List String) (faulty : (Walk.ofWords words).IsFaulty) :
    ∃ o : Offence, o.IsFirst ∧ o.words = words := by
  revert faulty
  refine Walk.along (motive := fun words _ w => w.IsFaulty →
    ∃ o : Offence, o.IsFirst ∧ o.words = words) ?_ ?_ ?_ ?_ ?_ ?_ words
  · rintro ⟨f, member, -⟩
    cases member
  · rintro word rest - ⟨f, member, -⟩
    cases member
  · intro word rest text s w bundle noValue ih faulty
    have whole : IsBundle word (text ++ []) := by simpa using bundle
    rcases quiet_or_offence whole noValue rfl faulty with quiet | found
    · exact exists_offence_after [word] (fun rest calm => .switches bundle quiet calm)
        (ih (faulty.of_prepend (Walk.plain_quiet quiet)))
    · exact found
  · intro word pre letter flag bundle noValue isFlag faulty
    rcases quiet_or_offence bundle noValue rfl faulty with quiet | found
    · have isWord : (⟨[], pre, letter, [], []⟩ : Offence).word = word := by
        rw [← String.toList_inj, bundle.2]
        simp [Offence.word, Offence.text]
      refine ⟨⟨[], pre, letter, [], []⟩, ⟨.nil, ?_, quiet, .inr ⟨value_of_flag isFlag, rfl, rfl⟩⟩,
        ?_⟩
      · rw [isWord]
        exact bundle
      · simp [Offence.words, isWord]
    · exact found
  · intro word value rest pre letter flag s w bundle noValue isFlag ih faulty
    rcases quiet_or_offence bundle noValue (List.append_assoc ..) faulty with quiet | found
    · refine exists_offence_after [word, value]
        (fun rest calm => .separate bundle quiet isFlag calm) (ih (faulty.of_prepend ?_))
      rw [List.forall_mem_append, List.forall_mem_singleton]
      exact ⟨Walk.plain_quiet quiet, Walk.valued_quiet isFlag value⟩
    · exact found
  · intro word rest pre letter flag more s w bundle nonempty noValue isFlag ih faulty
    rcases quiet_or_offence bundle noValue (List.append_assoc ..) faulty with quiet | found
    · refine exists_offence_after [word]
        (fun rest calm => .attached bundle quiet isFlag nonempty calm) (ih (faulty.of_prepend ?_))
      rw [List.forall_mem_append, List.forall_mem_singleton]
      exact ⟨Walk.plain_quiet quiet, Walk.valued_quiet isFlag _⟩
    · exact found

end MuxLaunch
