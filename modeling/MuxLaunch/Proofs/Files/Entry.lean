import MuxLaunch.Proofs.Files.Lookup

/-! # Entries of a directory

The walk over a path with one more name behind it is the walk over the path and a last step in the
directory that it leads to. As text, the path of an entry is cut at its last slash.
-/

namespace MuxLaunch

namespace Text

/-- The text before the last separator; nothing when there is none. -/
def beforeLast (separator : Char) (text : List Char) : List Char :=
  ((text.reverse.dropWhile (· ≠ separator)).drop 1).reverse

theorem ne_of_mem_reverse {c : Char} {text : List Char} (absent : c ∉ text) :
    ∀ d ∈ text.reverse, decide (d ≠ c) = true := by
  intro d member
  rw [decide_eq_true_iff]
  rintro rfl
  exact absent (List.mem_reverse.mp member)

theorem cutLast_append {c : Char} {after : List Char} (absent : c ∉ after) (before : List Char) :
    beforeLast c (before ++ c :: after) = before ∧ afterLast c (before ++ c :: after) = after := by
  have passes := ne_of_mem_reverse absent
  have backwards : (before ++ c :: after).reverse = after.reverse ++ c :: before.reverse := by simp
  rw [beforeLast, afterLast, backwards, List.dropWhile_append_of_pos passes,
    List.takeWhile_append_of_pos passes]
  simp

theorem exists_cutLast {c : Char} {text : List Char} (member : c ∈ text) :
    ∃ before after, text = before ++ c :: after ∧ c ∉ after := by
  obtain ⟨after, before, isText, absent⟩ :=
    List.eq_append_cons_of_mem (List.mem_reverse.mpr member)
  refine ⟨before.reverse, after.reverse, ?_, fun member => absent (List.mem_reverse.mp member)⟩
  rw [← List.reverse_reverse text, isText]
  simp

/-- The part stands behind the last separator of the text, or is all of it when there is none. -/
def IsLastPart (separator : Char) (part text : List Char) : Prop :=
  separator ∉ part ∧ (text = part ∨ ∃ before, text = before ++ separator :: part)

theorem afterLast_of_notMem {c : Char} {text : List Char} (absent : c ∉ text) :
    afterLast c text = text := by
  have whole : (text.reverse ++ []).takeWhile (· ≠ c) = text.reverse ++ [].takeWhile (· ≠ c) :=
    List.takeWhile_append_of_pos (ne_of_mem_reverse absent)
  rw [List.append_nil, List.takeWhile_nil, List.append_nil] at whole
  rw [afterLast, whole, List.reverse_reverse]

theorem afterLast_eq_iff {c : Char} {text part : List Char} :
    afterLast c text = part ↔ IsLastPart c part text := by
  constructor
  · rintro rfl
    by_cases member : c ∈ text
    · obtain ⟨before, after, rfl, absent⟩ := exists_cutLast member
      rw [(cutLast_append absent before).2]
      exact ⟨absent, .inr ⟨before, rfl⟩⟩
    · rw [afterLast_of_notMem member]
      exact ⟨member, .inl rfl⟩
  · rintro ⟨absent, rfl | ⟨before, rfl⟩⟩
    · exact afterLast_of_notMem absent
    · exact (cutLast_append absent before).2

end Text

namespace Path

/-- The text before the last slash. -/
def directoryPart (path : String) : String :=
  String.ofList (Text.beforeLast '/' path.toList)

/-- A path that is cut at its last slash into exactly the path of a directory and the name of an
    entry. -/
structure IsEntryOf (path directory : String) : Prop where
  directoryPart_eq : directoryPart path = directory
  isSome : baseName path ≠ ""
  ne_dot : baseName path ≠ "."
  ne_dots : baseName path ≠ ".."

theorem isEntryOf_iff (directory name : String) :
    IsEntryOf (directory ++ "/" ++ name) directory ↔ IsPlain name := by
  have isText : (directory ++ "/" ++ name).toList = directory.toList ++ '/' :: name.toList := by
    simp
  constructor
  · rintro ⟨isDirectory, isSome, notDot, notDots⟩
    obtain ⟨before, after, isCut, absent⟩ := Text.exists_cutLast
      (show '/' ∈ (directory ++ "/" ++ name).toList by rw [isText]; simp)
    obtain ⟨isBefore, isAfter⟩ := Text.cutLast_append absent before
    rw [directoryPart, isCut, isBefore] at isDirectory
    have isName : after = name.toList := by
      rw [isText, ← isDirectory, String.toList_ofList] at isCut
      exact (List.cons.inj (List.append_cancel_left isCut)).2.symm
    rw [baseName, isCut, isAfter, isName, String.ofList_toList] at isSome notDot notDots
    exact ⟨⟨isSome, isName ▸ absent⟩, notDot, notDots⟩
  · rintro ⟨⟨isSome, noSlash⟩, notDot, notDots⟩
    obtain ⟨isBefore, isAfter⟩ := Text.cutLast_append noSlash directory.toList
    have isBase : baseName (directory ++ "/" ++ name) = name := by
      rw [baseName, isText, isAfter, String.ofList_toList]
    constructor
    · rw [directoryPart, isText, isBefore, String.ofList_toList]
    · rwa [isBase]
    · rwa [isBase]
    · rwa [isBase]

theorem components_entry (directory : String) {name : String} (isName : IsName name) :
    components (directory ++ "/" ++ name) = names directory ++ [name] := by
  have ends : endsWithSlash (directory ++ "/" ++ name) = false := by
    have single := endsWithSlash_joinNames
      (fun _ member => List.mem_singleton.mp member ▸ isName) (directory ++ "/")
      (List.cons_ne_nil name [])
    rwa [joinNames, String.intercalate_singleton] at single
  rw [components, ends, names_append, names_of_isName isName]
  rfl

theorem isAbsolute_append {path : String} (nonempty : path ≠ "") (more : String) :
    isAbsolute (path ++ more) = isAbsolute path := by
  cases letters : path.toList with
  | nil => exact absurd (String.toList_eq_nil_iff.mp letters) nonempty
  | cons first rest => simp [isAbsolute, letters]

theorem isAbsolute_entry {directory : String} (nonempty : directory ≠ "") (name : String) :
    isAbsolute (directory ++ "/" ++ name) = isAbsolute directory := by
  rw [String.append_assoc]
  exact isAbsolute_append nonempty _

end Path

namespace Files

variable {files : Files} {follow : Bool} {spot middle finish : Location}
  {first second : List String} {budget : Nat}

/-- Where a walk leads that has more components behind the ones it has arrived with. -/
def Arrival.goOn (files : Files) (follow : Bool) (second : List String) :
    Arrival → Except Errno Arrival
  | .done middle => files.advance follow middle second
  | .detour directory target rest => .ok (.detour directory target (rest ++ second))

theorem Advances.advance_append {a : Arrival} (advances : Advances files true spot first a)
    (more : second ≠ []) (follow : Bool) :
    files.advance follow spot (first ++ second) = a.goOn files follow second := by
  induction advances with
  | done => rfl
  | dot isDirectory _ ih =>
      obtain ⟨mode, owner, isDirectory⟩ := isDirectory
      rw [List.cons_append, advance, isDirectory]
      exact ih
  | up isDirectory _ ih =>
      obtain ⟨mode, owner, isDirectory⟩ := isDirectory
      rw [List.cons_append, advance, isDirectory]
      exact ih
  | step isDirectory isEntry notLink _ ih =>
      obtain ⟨mode, owner, isDirectory⟩ := isDirectory
      rw [List.cons_append, advance, isDirectory]
      simp only [Nat.not_lt.mpr isEntry.short, isEntry.ne_dot, isEntry.ne_dots, if_false]
      split
      · rename_i isLink
        exact absurd ⟨_, _, isLink⟩ notLink
      · exact ih
  | stop _ _ _ noFollow => cases noFollow
  | detour isDirectory isEntry isLink _ =>
      obtain ⟨mode, owner, isDirectory⟩ := isDirectory
      rw [List.cons_append, advance, isDirectory]
      simp [Nat.not_lt.mpr isEntry.short, isEntry.ne_dot, isEntry.ne_dots, isLink, more,
        Arrival.goOn]

theorem Advances.walk_append (advances : Advances files true spot first (.done middle))
    (more : second ≠ []) (follow : Bool) (budget : Nat) :
    files.walk follow budget spot (first ++ second) = files.walk follow budget middle second := by
  rw [walk.eq_def, walk.eq_def files follow budget middle]
  dsimp only
  rw [advances.advance_append more]
  rfl

/-- Behind the place where its first part arrives, a walk has some of its budget left. -/
theorem walk_append (walks : files.walk true budget spot first = .ok middle) :
    ∃ left, ∀ follow second, second ≠ [] →
      files.walk follow budget spot (first ++ second) = files.walk follow left middle second := by
  induction budget using Nat.strongRecOn generalizing spot first with
  | ind budget ih =>
      rcases walk_eq_ok.mp walks with arrives | ⟨fewer, _, _, _, rfl, arrives, walks⟩
      · exact ⟨budget, fun follow second more => arrives.walk_append more follow budget⟩
      · obtain ⟨left, goesOn⟩ := ih fewer (Nat.lt_succ_self fewer) walks
        refine ⟨left, fun follow second more => ?_⟩
        rw [walk, arrives.advance_append more]
        dsimp only [Arrival.goOn]
        rw [← List.append_assoc]
        exact goesOn follow second more

/-- A walk with more behind its first part either passes the place where that part arrives or takes
    a detour before it. -/
theorem Advances.split {a : Arrival} (advances : Advances files follow spot (first ++ second) a)
    (more : second ≠ []) :
    (∃ middle, Advances files true spot first (.done middle)) ∨
      ∃ directory target rest, a = .detour directory target (rest ++ second) ∧
        Advances files true spot first (.detour directory target rest) := by
  induction first generalizing spot with
  | nil => exact .inl ⟨_, .done⟩
  | cons name rest ih =>
      rw [List.cons_append] at advances
      -- The constructors are told apart only once what lies behind the name is a variable.
      generalize isRest : rest ++ second = others at advances
      cases advances with
      | dot isDirectory advances =>
          rcases ih (isRest ▸ advances) with ⟨_, before⟩ | ⟨_, _, _, isEnd, before⟩
          · exact .inl ⟨_, .dot isDirectory before⟩
          · exact .inr ⟨_, _, _, isEnd, .dot isDirectory before⟩
      | up isDirectory advances =>
          rcases ih (isRest ▸ advances) with ⟨_, before⟩ | ⟨_, _, _, isEnd, before⟩
          · exact .inl ⟨_, .up isDirectory before⟩
          · exact .inr ⟨_, _, _, isEnd, .up isDirectory before⟩
      | step isDirectory isEntry notLink advances =>
          rcases ih (isRest ▸ advances) with ⟨_, before⟩ | ⟨_, _, _, isEnd, before⟩
          · exact .inl ⟨_, .step isDirectory isEntry notLink before⟩
          · exact .inr ⟨_, _, _, isEnd, .step isDirectory isEntry notLink before⟩
      | stop => exact absurd (List.append_eq_nil_iff.mp isRest).2 more
      | detour isDirectory isEntry isLink _ =>
          exact .inr ⟨_, _, rest, by rw [isRest], .detour isDirectory isEntry isLink (.inr rfl)⟩

theorem walk_before (walks : files.walk follow budget spot (first ++ second) = .ok finish)
    (more : second ≠ []) : ∃ middle, files.walk true budget spot first = .ok middle := by
  induction budget using Nat.strongRecOn generalizing spot first with
  | ind budget ih =>
      rcases walk_eq_ok.mp walks with arrives | ⟨fewer, _, _, _, rfl, arrives, walks⟩
      · rcases arrives.split more with ⟨middle, before⟩ | ⟨_, _, _, isEnd, _⟩
        · exact ⟨middle, walk_eq_ok.mpr (.inl before)⟩
        · cases isEnd
      · rcases arrives.split more with ⟨middle, before⟩ | ⟨_, _, _, isEnd, before⟩
        · exact ⟨middle, walk_eq_ok.mpr (.inl before)⟩
        · cases isEnd
          rw [← List.append_assoc] at walks
          obtain ⟨middle, walks⟩ := ih fewer (Nat.lt_succ_self fewer) walks
          exact ⟨middle, walk_eq_ok.mpr (.inr ⟨fewer, _, _, _, rfl, before, walks⟩)⟩

/-- A last step in a directory arrives at the entry, whatever is there. -/
theorem walk_name (isDirectory : files.IsDirectory spot) {name : String}
    (isPlain : Path.IsPlain name) (budget : Nat) :
    files.walk false budget spot [name] =
      if nameLimit < name.utf8ByteSize then .error .nameTooLong else .ok (spot ++ [name]) := by
  by_cases long : nameLimit < name.utf8ByteSize
  · obtain ⟨mode, owner, isDirectory⟩ := isDirectory
    rw [if_pos long, walk.eq_def]
    simp only [advance, isDirectory, long, if_true]
  · have isEntry : IsEntry name := ⟨isPlain.ne_dot, isPlain.ne_dots, Nat.not_lt.mp long⟩
    rw [if_neg long]
    by_cases isLink : files.IsLink (spot ++ [name])
    · exact walk_eq_ok.mpr (.inl (.stop isDirectory isEntry isLink rfl))
    · exact walk_eq_ok.mpr (.inl (.step isDirectory isEntry isLink .done))

theorem Advances.of_dot {a : Arrival} (advances : Advances files follow spot ["."] a) :
    a = .done spot := by
  generalize isDot : "." = name at advances
  cases advances with
  | dot _ advances =>
      cases advances
      rfl
  | up => exact absurd isDot (by decide)
  | step _ isEntry => exact absurd isDot.symm isEntry.ne_dot
  | stop _ isEntry => exact absurd isDot.symm isEntry.ne_dot
  | detour _ isEntry => exact absurd isDot.symm isEntry.ne_dot

/-- A single dot at the end of a walk leads nowhere else. -/
theorem walk_dot (walks : files.walk true budget spot (first ++ ["."]) = .ok finish) :
    files.walk true budget spot first = .ok finish := by
  obtain ⟨middle, before⟩ := walk_before walks (List.cons_ne_nil _ _)
  obtain ⟨left, goesOn⟩ := walk_append before
  rw [goesOn true _ (List.cons_ne_nil _ _)] at walks
  rcases walk_eq_ok.mp walks with arrives | ⟨_, _, _, _, _, arrives, _⟩
  · cases arrives.of_dot
    exact before
  · cases arrives.of_dot

variable {workingDirectory : Option String} {path name : String}

theorem locate_of_start (nonempty : path ≠ "") (short : path.utf8ByteSize ≤ pathLimit)
    (isStart : start? workingDirectory path = some spot) :
    files.locate workingDirectory follow path =
      files.walk follow linkLimit spot (Path.components path) := by
  unfold locate locateAlong
  rw [if_neg nonempty, if_neg (Nat.not_lt.mpr short)]
  by_cases isAbsolute : Path.isAbsolute path = true
  · rw [start?, if_pos isAbsolute] at isStart
    rw [if_pos isAbsolute, Option.some.inj isStart]
  · rw [start?, if_neg isAbsolute] at isStart
    obtain ⟨directory, rfl, rfl⟩ := Option.map_eq_some_iff.mp isStart
    rw [if_neg isAbsolute]

/-- The path of a directory with a name behind it leads to the entry of that name, unless the path
    or the name is longer than the kernel allows. -/
theorem locate_entry (isLocated : files.locate workingDirectory true path = .ok spot)
    (isDirectory : files.IsDirectory spot) (isPlain : Path.IsPlain name) :
    files.locate workingDirectory false (path ++ "/" ++ name) =
      if pathLimit < (path ++ "/" ++ name).utf8ByteSize ∨ nameLimit < name.utf8ByteSize then
        .error .nameTooLong
      else .ok (spot ++ [name]) := by
  obtain ⟨nonempty, _, start, isStart, walks⟩ := locate_eq_ok.mp isLocated
  by_cases long : pathLimit < (path ++ "/" ++ name).utf8ByteSize
  · rw [if_pos (.inl long), locate_of_long long]
  · have named : files.walk true linkLimit start (Path.names path) = .ok spot := by
      rw [Path.components] at walks
      split at walks
      · exact walk_dot walks
      · exact walks
    obtain ⟨left, goesOn⟩ := walk_append named
    have isStart' : start? workingDirectory (path ++ "/" ++ name) = some start := by
      rwa [start?, Path.isAbsolute_entry nonempty]
    rw [locate_of_start (by simp) (Nat.not_lt.mp long) isStart',
      Path.components_entry path isPlain.isName, goesOn false [name] (List.cons_ne_nil _ _),
      walk_name isDirectory isPlain left]
    simp only [long, false_or]

end Files

end MuxLaunch
