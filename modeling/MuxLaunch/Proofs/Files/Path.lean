import MuxLaunch.Files.Path

/-! # Names and paths

Joining names by slashes and cutting a path at its slashes undo each other, and a path that is
tidied or normalized keeps the names that count.
-/

namespace MuxLaunch

namespace Text

theorem splitAt_ne_nil (c : Char) (text : List Char) : splitAt c text ≠ [] := by
  fun_cases splitAt c text <;> simp_all

theorem splitAt_append (c : Char) (before after : List Char) :
    splitAt c (before ++ c :: after) = splitAt c before ++ splitAt c after := by
  induction before with
  | nil => simp [splitAt]
  | cons first rest ih =>
      by_cases isSeparator : first = c
      · simp [splitAt, isSeparator, ih]
      · simp only [List.cons_append, splitAt, if_neg isSeparator, ih]
        cases isCut : splitAt c rest with
        | nil => exact absurd isCut (splitAt_ne_nil c rest)
        | cons piece more => rfl

theorem splitAt_of_not_mem {c : Char} {text : List Char} (absent : c ∉ text) :
    splitAt c text = [text] := by
  induction text with
  | nil => rfl
  | cons first rest ih =>
      have different : first ≠ c := fun same => absent (same ▸ List.mem_cons_self)
      simp only [splitAt, if_neg different, ih fun member => absent (List.mem_cons_of_mem _ member)]

theorem not_mem_of_mem_splitAt {c : Char} {text piece : List Char}
    (member : piece ∈ splitAt c text) : c ∉ piece := by
  induction text generalizing piece with
  | nil => simp_all [splitAt]
  | cons first rest ih =>
      by_cases isSeparator : first = c
      · simp only [splitAt, if_pos isSeparator, List.mem_cons] at member
        rcases member with rfl | member
        · exact List.not_mem_nil
        · exact ih member
      · cases isCut : splitAt c rest with
        | nil => exact absurd isCut (splitAt_ne_nil c rest)
        | cons head more =>
            simp only [splitAt, if_neg isSeparator, isCut, List.mem_cons] at member
            rcases member with rfl | member
            · simp only [List.mem_cons, not_or]
              exact ⟨Ne.symm isSeparator, ih (isCut ▸ List.mem_cons_self)⟩
            · exact ih (isCut ▸ List.mem_cons_of_mem _ member)

end Text

namespace Path

/-- What may stand between two slashes. -/
def IsName (name : String) : Prop :=
  name ≠ "" ∧ '/' ∉ name.toList

theorem pieces_append (a b : String) : pieces (a ++ "/" ++ b) = pieces a ++ pieces b := by
  have text : (a ++ "/" ++ b).toList = a.toList ++ '/' :: b.toList := by simp
  rw [pieces, text, Text.splitAt_append, List.map_append]
  rfl

theorem pieces_of_noSlash {name : String} (noSlash : '/' ∉ name.toList) :
    pieces name = [name] := by
  simp [pieces, Text.splitAt_of_not_mem noSlash]

theorem names_append (a b : String) : names (a ++ "/" ++ b) = names a ++ names b := by
  rw [names, pieces_append, List.filter_append]
  rfl

theorem names_empty : names "" = [] :=
  rfl

theorem names_slash (path : String) : names ("/" ++ path) = names path := by
  have split := names_append "" path
  rwa [String.empty_append, names_empty, List.nil_append] at split

theorem names_of_isName {name : String} (isName : IsName name) : names name = [name] := by
  simp [names, pieces_of_noSlash isName.2, isName.1]

theorem noSlash_of_mem_pieces {path piece : String} (member : piece ∈ pieces path) :
    '/' ∉ piece.toList := by
  obtain ⟨text, isCut, rfl⟩ := List.mem_map.mp member
  rw [String.toList_ofList]
  exact Text.not_mem_of_mem_splitAt isCut

theorem isName_of_mem_names {path name : String} (member : name ∈ names path) : IsName name := by
  obtain ⟨isPiece, nonempty⟩ := List.mem_filter.mp member
  exact ⟨by simpa using nonempty, noSlash_of_mem_pieces isPiece⟩

variable {ns : List String}

theorem names_joinNames (areNames : ∀ name ∈ ns, IsName name) : names (joinNames ns) = ns := by
  induction ns with
  | nil => rfl
  | cons name rest ih =>
      have first := names_of_isName (areNames name List.mem_cons_self)
      have others := ih fun other member => areNames other (List.mem_cons_of_mem _ member)
      cases rest with
      | nil => simpa [joinNames] using first
      | cons second more =>
          rw [joinNames, String.intercalate_cons_cons, names_append, first]
          exact congrArg (name :: ·) others

theorem head?_joinNames_append (areNames : ∀ name ∈ ns, IsName name) (nonempty : ns ≠ [])
    (after : String) : (joinNames ns ++ after).toList.head? ≠ some '/' := by
  cases ns with
  | nil => exact absurd rfl nonempty
  | cons name rest =>
      obtain ⟨nonempty, noSlash⟩ := areNames name List.mem_cons_self
      have begins : ∃ more, (joinNames (name :: rest) ++ after).toList = name.toList ++ more := by
        cases rest with
        | nil => exact ⟨after.toList, by simp [joinNames]⟩
        | cons second more =>
            exact ⟨_, by rw [joinNames, String.intercalate_cons_cons, String.append_assoc,
              String.append_assoc, String.toList_append]⟩
      obtain ⟨more, isText⟩ := begins
      rw [isText]
      cases letters : name.toList with
      | nil => exact absurd (String.toList_eq_nil_iff.mp letters) nonempty
      | cons first others =>
          intro isSlash
          apply noSlash
          rw [letters, ← Option.some.inj isSlash]
          exact List.mem_cons_self

theorem head?_joinNames (areNames : ∀ name ∈ ns, IsName name) :
    (joinNames ns).toList.head? ≠ some '/' := by
  cases ns with
  | nil => simp [joinNames]
  | cons name rest =>
      simpa using head?_joinNames_append areNames (List.cons_ne_nil _ _) ""

theorem endsWithSlash_joinNames (areNames : ∀ name ∈ ns, IsName name) (before : String)
    (nonempty : ns ≠ []) : endsWithSlash (before ++ joinNames ns) = false := by
  induction ns generalizing before with
  | nil => exact absurd rfl nonempty
  | cons name rest ih =>
      cases rest with
      | nil =>
          obtain ⟨nonempty, noSlash⟩ := areNames name List.mem_cons_self
          have letters : name.toList ≠ [] := fun none => nonempty (String.toList_eq_nil_iff.mp none)
          have isLast : (before ++ joinNames [name]).toList.getLast? = name.toList.getLast? := by
            rw [joinNames, String.intercalate_singleton, String.toList_append,
              List.getLast?_append, List.getLast?_eq_some_getLast letters]
            rfl
          rw [endsWithSlash, isLast, decide_eq_false_iff_not]
          intro isSlash
          exact noSlash (List.mem_of_getLast? isSlash)
      | cons second more =>
          rw [joinNames, String.intercalate_cons_cons, ← String.append_assoc]
          exact ih (fun other member => areNames other (List.mem_cons_of_mem _ member)) _
            (List.cons_ne_nil _ _)

theorem joinNames_concat (ns : List String) (name : String) :
    ∃ more, joinNames (ns ++ [name]) = joinNames ns ++ more := by
  induction ns with
  | nil => exact ⟨name, by simp [joinNames]⟩
  | cons first rest ih =>
      obtain ⟨more, isLonger⟩ := ih
      cases rest with
      | nil => exact ⟨"/" ++ name, by simp [joinNames, String.append_assoc]⟩
      | cons second others =>
          refine ⟨more, ?_⟩
          rw [List.cons_append, List.cons_append, joinNames, joinNames,
            String.intercalate_cons_cons, String.intercalate_cons_cons]
          rw [joinNames, List.cons_append, joinNames] at isLonger
          rw [isLonger, ← String.append_assoc]

theorem isAbsolute_slash (path : String) : isAbsolute ("/" ++ path) = true := by
  simp [isAbsolute]

theorem isAbsolute_joinNames (areNames : ∀ name ∈ ns, IsName name) :
    isAbsolute (joinNames ns) = false := by
  simpa [isAbsolute] using head?_joinNames areNames

theorem components_joinNames (areNames : ∀ name ∈ ns, IsName name) (nonempty : ns ≠ []) :
    components (joinNames ns) = ns := by
  have ends := endsWithSlash_joinNames areNames "" nonempty
  rw [String.empty_append] at ends
  rw [components, ends, names_joinNames areNames]
  rfl

theorem components_slash (areNames : ∀ name ∈ ns, IsName name) (nonempty : ns ≠ []) :
    components ("/" ++ joinNames ns) = ns := by
  rw [components, endsWithSlash_joinNames areNames "/" nonempty, names_slash,
    names_joinNames areNames]
  rfl

theorem endsWithSlash_of_isName {name : String} (isName : IsName name) :
    endsWithSlash name = false := by
  rw [endsWithSlash, decide_eq_false_iff_not]
  intro ends
  exact isName.2 (List.mem_of_getLast? ends)

theorem isName_of_mem_components {path name : String} (member : name ∈ components path) :
    IsName name := by
  rw [components] at member
  split at member
  · rcases List.mem_append.mp member with member | isDot
    · exact isName_of_mem_names member
    · rw [List.mem_singleton.mp isDot]
      exact ⟨by decide, by decide⟩
  · exact isName_of_mem_names member

/-- A path has something to step through unless it is empty. -/
theorem components_ne_nil {path : String} (nonempty : path ≠ "") : components path ≠ [] := by
  have onlySlashes : ∀ text : List Char, (Text.splitAt '/' text).filter (· ≠ []) = [] →
      ∀ c ∈ text, c = '/' := by
    intro text
    induction text with
    | nil => simp
    | cons first rest ih =>
        intro none
        by_cases isSlash : first = '/'
        · simp only [Text.splitAt, if_pos isSlash] at none
          simpa [isSlash] using ih (by simpa using none)
        · simp only [Text.splitAt, if_neg isSlash] at none
          cases isCut : Text.splitAt '/' rest with
          | nil => exact absurd isCut (Text.splitAt_ne_nil _ _)
          | cons piece more => simp [isCut] at none
  intro none
  rw [components] at none
  split at none
  · simp at none
  · rename_i noSlash
    have empties : (Text.splitAt '/' path.toList).filter (· ≠ []) = [] := by
      rw [List.filter_eq_nil_iff]
      intro piece member isSome
      have kept : String.ofList piece ∈ names path := by
        refine List.mem_filter.mpr ⟨List.mem_map_of_mem member, ?_⟩
        simpa using isSome
      rw [none] at kept
      cases kept
    have letters : path.toList ≠ [] := fun none => nonempty (String.toList_eq_nil_iff.mp none)
    have isLast := onlySlashes _ empties _ (List.getLast_mem letters)
    simp [endsWithSlash, List.getLast?_eq_some_getLast letters, isLast] at noSlash

/-- The names that count: all but the single dots. -/
def steps (path : String) : List String :=
  (names path).filter (· ≠ ".")

theorem isName_of_mem_steps {path name : String} (member : name ∈ steps path) : IsName name :=
  isName_of_mem_names (List.mem_filter.mp member).1

theorem ne_dot_of_mem_steps {path name : String} (member : name ∈ steps path) : name ≠ "." := by
  simpa using (List.mem_filter.mp member).2

theorem steps_eq_filter_pieces (path : String) :
    steps path = (pieces path).filter fun name => !(name = "" ∨ name = ".") := by
  rw [steps, names, List.filter_filter]
  congr 1
  funext name
  by_cases isEmpty : name = "" <;> by_cases isDot : name = "." <;> simp [isEmpty, isDot]

theorem steps_eq_filter_components (path : String) :
    (components path).filter (· ≠ ".") = steps path := by
  rw [components]
  split
  · simp [steps]
  · rfl

theorem root_slash {path : String} (single : path.toList.head? ≠ some '/') :
    root ("/" ++ path) = "/" := by
  have slashes : (("/" ++ path).toList.takeWhile (· = '/')).length = 1 := by
    cases letters : path.toList with
    | nil => simp [letters]
    | cons first rest =>
        rw [letters] at single
        have other : first ≠ '/' := by simpa using single
        simp [letters, other]
  rw [root, slashes]
  rfl

theorem root_of_relative {path : String} (relative : isAbsolute path = false) :
    root path = "" := by
  have slashes : (path.toList.takeWhile (· = '/')).length = 0 := by
    cases letters : path.toList with
    | nil => rfl
    | cons first rest =>
        have other : first ≠ '/' := by simpa [isAbsolute, letters] using relative
        simp [other]
  rw [root, slashes]
  rfl

theorem root_of_absolute {path : String} (absolute : isAbsolute path = true) :
    root path = "/" ∨ root path = "//" := by
  have slashes : (path.toList.takeWhile (· = '/')).length ≠ 0 := by
    cases letters : path.toList with
    | nil => simp [isAbsolute, letters] at absolute
    | cons first rest =>
        have isSlash : first = '/' := by simpa [isAbsolute, letters] using absolute
        simp [isSlash]
  unfold root
  split
  · rename_i isZero
    exact absurd isZero slashes
  · exact .inr rfl
  · exact .inl rfl

/-- Tidying changes neither the names that count nor where a path starts. -/
theorem tidy_spec (path : String) :
    steps (tidy path) = steps path ∧ isAbsolute (tidy path) = isAbsolute path := by
  have areNames : ∀ name ∈ steps path, IsName name := fun _ => isName_of_mem_steps
  have kept : steps (joinNames (steps path)) = steps path := by
    rw [steps, names_joinNames areNames, List.filter_eq_self]
    intro name member
    simpa using ne_dot_of_mem_steps member
  have text : tidy path =
      if root path ++ joinNames (steps path) = "" then "."
      else root path ++ joinNames (steps path) := rfl
  rw [text]
  cases isPath : isAbsolute path with
  | false =>
      rw [root_of_relative isPath, String.empty_append]
      split
      · rename_i isEmpty
        rw [isEmpty] at kept
        exact ⟨kept, rfl⟩
      · exact ⟨kept, isAbsolute_joinNames areNames⟩
  | true =>
      rcases root_of_absolute isPath with isRoot | isRoot
      · rw [isRoot, if_neg (by simp)]
        refine ⟨?_, isAbsolute_slash _⟩
        rw [steps, names_slash]
        exact kept
      · have double : "//" ++ joinNames (steps path) = "/" ++ ("/" ++ joinNames (steps path)) := by
          rw [← String.append_assoc]
          rfl
        rw [isRoot, if_neg (by simp), double]
        refine ⟨?_, isAbsolute_slash _⟩
        rw [steps, names_slash, names_slash]
        exact kept

/-- A name that is neither a single dot nor a double one. -/
structure IsPlain (name : String) : Prop where
  isName : IsName name
  ne_dot : name ≠ "."
  ne_dots : name ≠ ".."

theorem areNames_up (k : Nat) (arePlain : ∀ name ∈ ns, IsPlain name) :
    ∀ name ∈ List.replicate k ".." ++ ns, IsName name := by
  intro name member
  rcases List.mem_append.mp member with isDots | member
  · rw [(List.mem_replicate.mp isDots).2]
    exact ⟨by decide, by decide⟩
  · exact (arePlain name member).isName

theorem cancelDots_plain (absolute : Bool) (arePlain : ∀ name ∈ ns, IsPlain name)
    (done rest : List String) :
    cancelDots absolute done (ns ++ rest) = cancelDots absolute (ns.reverse ++ done) rest := by
  induction ns generalizing done with
  | nil => rfl
  | cons name others ih =>
      have plain := arePlain name List.mem_cons_self
      have step : cancelDots absolute done (name :: (others ++ rest)) =
          cancelDots absolute (name :: done) (others ++ rest) := by
        rw [cancelDots.eq_def]
        simp only [plain.ne_dot, plain.ne_dots, if_false]
      rw [List.cons_append, step, ih fun other member =>
        arePlain other (List.mem_cons_of_mem _ member)]
      simp

theorem cancelDots_dots {done : List String} (noDots : ∀ name ∈ done, name ≠ "..") (k : Nat)
    (rest : List String) :
    cancelDots true done (List.replicate k ".." ++ rest) = cancelDots true (done.drop k) rest := by
  induction k generalizing done with
  | zero => rfl
  | succ k ih =>
      rw [List.replicate_succ, List.cons_append, cancelDots.eq_def]
      cases done with
      | nil => simpa using ih noDots
      | cons last before =>
          have other := noDots last List.mem_cons_self
          simp only [other, if_false, if_true, List.drop_succ_cons]
          exact ih fun name member => noDots name (List.mem_cons_of_mem _ member)

theorem cancelDots_up {base : List String} (basePlain : ∀ name ∈ base, IsPlain name)
    (arePlain : ∀ name ∈ ns, IsPlain name) (k : Nat) :
    cancelDots true [] (base ++ (List.replicate k ".." ++ ns)) =
      base.take (base.length - k) ++ ns := by
  have noDots : ∀ name ∈ base.reverse, name ≠ ".." := by
    intro name member
    exact (basePlain name (List.mem_reverse.mp member)).ne_dots
  have last := cancelDots_plain true arePlain (base.reverse.drop k) []
  rw [List.append_nil] at last
  rw [cancelDots_plain true basePlain, List.append_nil, cancelDots_dots noDots, last, cancelDots,
    List.reverse_append, List.reverse_reverse, List.drop_reverse, List.reverse_reverse]

theorem normalize_slash {path : String} (single : path.toList.head? ≠ some '/') :
    normalize ("/" ++ path) = "/" ++ joinNames (cancelDots true [] (names path)) := by
  rw [normalize, root_slash single, isAbsolute_slash, names_slash, if_neg (by simp)]

theorem normalize_plain (arePlain : ∀ name ∈ ns, IsPlain name) :
    normalize ("/" ++ joinNames ns) = "/" ++ joinNames ns := by
  have areNames : ∀ name ∈ ns, IsName name := fun name member => (arePlain name member).isName
  have kept := cancelDots_plain true arePlain [] []
  rw [List.append_nil, List.append_nil] at kept
  rw [normalize_slash (head?_joinNames areNames), names_joinNames areNames, kept, cancelDots,
    List.reverse_reverse]

/-- Seen from a directory, steps upwards shorten its path. -/
theorem normalize_join {base : List String} (basePlain : ∀ name ∈ base, IsPlain name)
    (arePlain : ∀ name ∈ ns, IsPlain name) (k : Nat) :
    normalize (join ("/" ++ joinNames base) (joinNames (List.replicate k ".." ++ ns))) =
      "/" ++ joinNames (base.take (base.length - k) ++ ns) := by
  have baseNames : ∀ name ∈ base, IsName name := fun name member => (basePlain name member).isName
  have areNames := areNames_up k arePlain
  rw [join, isAbsolute_joinNames areNames, if_neg (by simp)]
  by_cases isRoot : base = []
  · subst isRoot
    have ends : endsWithSlash ("/" ++ joinNames []) = true := by decide
    rw [if_pos (.inr ends), ← cancelDots_up basePlain arePlain]
    have text : "/" ++ joinNames [] ++ joinNames (List.replicate k ".." ++ ns) =
        "/" ++ joinNames (List.replicate k ".." ++ ns) := rfl
    rw [text, normalize_slash (head?_joinNames areNames), names_joinNames areNames]
    rfl
  · have ends : ¬("/" ++ joinNames base = "" ∨ endsWithSlash ("/" ++ joinNames base) = true) := by
      rw [endsWithSlash_joinNames baseNames "/" isRoot]
      simp
    have text : "/" ++ joinNames base ++ "/" ++ joinNames (List.replicate k ".." ++ ns) =
        "/" ++ (joinNames base ++ ("/" ++ joinNames (List.replicate k ".." ++ ns))) := by
      simp only [String.append_assoc]
    rw [if_neg ends, text, normalize_slash (head?_joinNames_append baseNames isRoot _),
      ← String.append_assoc, names_append, names_joinNames baseNames, names_joinNames areNames,
      cancelDots_up basePlain arePlain]

end Path

end MuxLaunch
