import MuxLaunch.Entries
import MuxLaunch.Proofs.Flags.Letters

/-! # The scan beside the walk

The scan for values and the walk over letters go over a command line word by word and in step. The
values found by the scan are those met on the walk, also where letters are unknown or values are
missing.
-/

namespace MuxLaunch

/-- The word is a dash and the letters of a text, and does not end the flags. -/
def IsBundle (word : String) (text : List Char) : Prop :=
  endsFlags word = false ∧ word.toList = '-' :: text

theorem IsBundle.of_endsFlags {word : String} (isFlags : ¬endsFlags word = true) :
    IsBundle word word.toList.tail := by
  refine ⟨by simpa using isFlags, ?_⟩
  simp only [endsFlags, Bool.or_eq_true, not_or, Bool.not_eq_true, Bool.not_eq_false',
    startsWithDash, decide_eq_true_eq] at isFlags
  obtain ⟨text, chars⟩ := List.head?_eq_some_iff.mp isFlags.2
  rw [chars, List.tail_cons]

theorem IsBundle.ne_nil {word : String} {text : List Char} (bundle : IsBundle word text) :
    text ≠ [] := by
  rintro rfl
  have isDash : word = "-" := String.toList_inj.mp bundle.2
  exact absurd (isDash ▸ bundle.1) (by decide)

theorem IsBundle.ne_dash {word : String} {text : List Char} (bundle : IsBundle word text) :
    text ≠ ['-'] := by
  rintro rfl
  have isDouble : word = "--" := String.toList_inj.mp bundle.2
  exact absurd (isDouble ▸ bundle.1) (by decide)

theorem IsBundle.of_toList {word : String} {text : List Char} (chars : word.toList = '-' :: text)
    (nonempty : text ≠ []) (noDash : text ≠ ['-']) : IsBundle word text := by
  have notSingle : word ≠ "-" := by
    rintro rfl
    exact nonempty (List.cons.inj chars).2.symm
  have notDouble : word ≠ "--" := by
    rintro rfl
    exact noDash (List.cons.inj chars).2.symm
  exact ⟨by simp [endsFlags, notSingle, notDouble, startsWithDash, chars], chars⟩

theorem IsBundle.append {word : String} {text : List Char} (bundle : IsBundle word text)
    (more : String) : IsBundle (word ++ more) (text ++ more.toList) := by
  refine .of_toList (by simp [String.toList_append, bundle.2]) (by simp [bundle.ne_nil]) ?_
  intro isDash
  rcases List.append_eq_singleton_iff.mp isDash with ⟨isNil, -⟩ | ⟨isDash, -⟩
  · exact bundle.ne_nil isNil
  · exact bundle.ne_dash isDash

/-- The flag that a letter stands for, with its value. -/
def MetFlag.assignment? (f : MetFlag) : Option (ValueFlag × String) :=
  match ValueFlag.ofLetter? f.letter, f.value with
  | some flag, some value => some (flag, value)
  | _, _ => none

namespace Walk

def plain (letters : List Char) : List MetFlag :=
  letters.map (⟨·, none⟩)

theorem overLetters_append {pre : List Char} (noValue : TakeNoValue pre) (text : List Char) :
    overLetters (pre ++ text) = (plain pre ++ (overLetters text).1, (overLetters text).2) := by
  induction pre with
  | nil => rfl
  | cons letter rest ih =>
      have ih := ih fun c hc => noValue c (List.mem_cons_of_mem letter hc)
      simp only [List.cons_append, overLetters, if_neg (noValue letter List.mem_cons_self), ih,
        plain, List.map_cons]

theorem overLetters_plain {text : List Char} (noValue : TakeNoValue text) :
    overLetters text = (plain text, none) := by
  simpa [overLetters] using overLetters_append noValue []

theorem overLetters_value {pre : List Char} (noValue : TakeNoValue pre) {letter : Char}
    (isValue : Arity.ofLetter letter = some .value) (more : List Char) :
    overLetters (pre ++ letter :: more) =
      if more = [] then (plain pre, some letter)
      else (plain pre ++ [⟨letter, some (String.ofList more)⟩], none) := by
  rw [overLetters_append noValue, overLetters, if_pos isValue]
  split <;> simp

theorem ofWords_stop {word : String} (isEnd : endsFlags word = true) (rest : List String) :
    ofWords (word :: rest) = ⟨[], word :: rest⟩ := by
  unfold ofWords
  rw [if_pos isEnd]

theorem ofWords_read {word : String} (isFlags : ¬endsFlags word = true) {met : List MetFlag}
    (read : overLetters word.toList.tail = (met, none)) (rest : List String) :
    ofWords (word :: rest) = (ofWords rest).prepend met := by
  rw [ofWords.eq_2 word rest met read, if_neg isFlags]

/-- Induction along a command line as the scan and the walk go over it side by side. -/
theorem along {motive : List String → FlagScan → Walk → Prop}
    (nil : motive [] ⟨[], []⟩ ⟨[], []⟩)
    (stop : ∀ word rest, endsFlags word = true →
      motive (word :: rest) ⟨word :: rest, []⟩ ⟨[], word :: rest⟩)
    (switches : ∀ word rest text s w, IsBundle word text → TakeNoValue text → motive rest s w →
      motive (word :: rest) (s.prepend [word] []) (w.prepend (plain text)))
    (lacking : ∀ word pre letter flag, IsBundle word (pre ++ [letter]) → TakeNoValue pre →
      ValueFlag.ofLetter? letter = some flag →
      motive [word] ⟨[word], []⟩ ⟨plain pre ++ [⟨letter, none⟩], []⟩)
    (separate : ∀ word value rest pre letter flag s w, IsBundle word (pre ++ [letter]) →
      TakeNoValue pre → ValueFlag.ofLetter? letter = some flag → motive rest s w →
      motive (word :: value :: rest)
        (s.prepend (if startsWithDash value then [word ++ value] else [word, value])
          [(flag, value)])
        (w.prepend (plain pre ++ [⟨letter, some value⟩])))
    (attached : ∀ word rest pre letter flag more s w, IsBundle word (pre ++ letter :: more) →
      more ≠ [] → TakeNoValue pre → ValueFlag.ofLetter? letter = some flag → motive rest s w →
      motive (word :: rest) (s.prepend [word] [(flag, String.ofList more)])
        (w.prepend (plain pre ++ [⟨letter, some (String.ofList more)⟩])))
    (words : List String) : motive words (FlagScan.ofWords words) (ofWords words) := by
  fun_induction FlagScan.ofWords words with
  | case1 => exact nil
  | case2 word rest isEnd =>
      rw [ofWords_stop isEnd]
      exact stop word rest isEnd
  | case3 word isFlags rest isNone ih =>
      have noValue := ValueFlag.first?_eq_none isNone
      rw [ofWords_read isFlags (overLetters_plain noValue)]
      exact switches word rest _ _ _ (.of_endsFlags isFlags) noValue ih
  | case4 word isFlags flag isLast =>
      have bundle := IsBundle.of_endsFlags isFlags
      obtain ⟨pre, letter, chars, isFlag, noValue⟩ := ValueFlag.first?_eq_some isLast
      have wants := overLetters_value noValue (value_of_flag isFlag) []
      rw [← chars] at wants
      rw [ofWords.eq_3 word _ letter wants, if_neg isFlags]
      exact lacking word pre letter flag (chars ▸ bundle) noValue isFlag
  | case5 word isFlags flag value rest isLast ih =>
      have bundle := IsBundle.of_endsFlags isFlags
      obtain ⟨pre, letter, chars, isFlag, noValue⟩ := ValueFlag.first?_eq_some isLast
      have wants := overLetters_value noValue (value_of_flag isFlag) []
      rw [← chars] at wants
      rw [ofWords.eq_4 word _ letter value rest wants, if_neg isFlags]
      exact separate word value rest pre letter flag _ _ (chars ▸ bundle) noValue isFlag ih
  | case6 word isFlags flag more rest notLast notNil isSome ih =>
      have bundle := IsBundle.of_endsFlags isFlags
      obtain ⟨pre, letter, chars, isFlag, noValue⟩ := ValueFlag.first?_eq_some isSome
      have nonempty : more ≠ [] := by
        rintro rfl
        cases rest with
        | nil => exact notLast rfl rfl
        | cons value rest => exact notNil value rest rfl rfl
      have takes := overLetters_value noValue (value_of_flag isFlag) more
      rw [← chars, if_neg nonempty] at takes
      rw [ofWords_read isFlags takes]
      exact attached word rest pre letter flag more _ _ (chars ▸ bundle) nonempty noValue isFlag ih

theorem assignment?_of_none (letter : Char) :
    (⟨letter, none⟩ : MetFlag).assignment? = none := by
  cases named : ValueFlag.ofLetter? letter <;> simp [MetFlag.assignment?, named]

theorem assignments_plain (letters : List Char) :
    (plain letters).filterMap MetFlag.assignment? = [] := by
  rw [List.filterMap_eq_nil_iff]
  intro f member
  obtain ⟨letter, _, rfl⟩ := List.mem_map.mp member
  exact assignment?_of_none letter

theorem values_scan (words : List String) :
    (FlagScan.ofWords words).values = (ofWords words).met.filterMap MetFlag.assignment? := by
  refine along (motive := fun _ s w => s.values = w.met.filterMap MetFlag.assignment?)
    rfl (fun _ _ _ => rfl) ?_ ?_ ?_ ?_ words
  · intro word rest text s w _ _ ih
    simp only [FlagScan.prepend, prepend, List.nil_append, List.filterMap_append,
      assignments_plain, ih]
  · intro word pre letter flag _ _ _
    simp only [List.filterMap_append, assignments_plain, List.filterMap_cons, assignment?_of_none,
      List.filterMap_nil, List.append_nil]
  · intro word value rest pre letter flag s w _ _ isFlag ih
    simp [FlagScan.prepend, prepend, assignments_plain, MetFlag.assignment?, isFlag, ih]
  · intro word rest pre letter flag more s w _ _ _ isFlag ih
    simp [FlagScan.prepend, prepend, assignments_plain, MetFlag.assignment?, isFlag, ih]

/-- The last value that the scan finds for a flag is the last one met on the walk. -/
theorem value?_scan (words : List String) (flag : ValueFlag) :
    (FlagScan.ofWords words).value? flag = (ofWords words).last? flag.letter := by
  rw [FlagScan.value?, values_scan, last?, ← List.filterMap_reverse]
  induction (ofWords words).met.reverse with
  | nil => rfl
  | cons f rest ih =>
      simp only [List.filterMap_cons, List.findSome?_cons]
      cases named : ValueFlag.ofLetter? f.letter with
      | none =>
          have different : f.letter ≠ flag.letter := fun same => by
            rw [(ValueFlag.ofLetter?_eq_some_iff _ _).mpr same] at named
            cases named
          simpa [MetFlag.assignment?, named, different] using ih
      | some other =>
          have isLetter := (ValueFlag.ofLetter?_eq_some_iff _ _).mp named
          cases given : f.value with
          | none => simpa [MetFlag.assignment?, named, given] using ih
          | some value =>
              have assigned : f.assignment? = some (other, value) := by
                simp [MetFlag.assignment?, named, given]
              by_cases same : flag = other
              · subst same
                simp [assigned, isLetter]
              · have different : f.letter ≠ flag.letter := fun isFlag =>
                  same (Option.some.inj
                    (((ValueFlag.ofLetter?_eq_some_iff _ _).mpr isFlag).symm.trans named))
                simpa [assigned, different, Entries.lookup_cons, same] using ih

end Walk

end MuxLaunch
