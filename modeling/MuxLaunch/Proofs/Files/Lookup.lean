import MuxLaunch.Proofs.Files.Tree

/-! # Looking up paths

The walk of the kernel as a relation: the steps up to the first link that has to be followed, and
from there a walk with less budget. In a tree the names of a location lead straight to it.
-/

namespace MuxLaunch.Files

variable {files : Files} {follow : Bool} {spot finish : Location} {components : List String}
  {workingDirectory : Option String} {path : String}

/-- Where the walk over a link's target starts. -/
def startOf (target : String) (directory : Location) : Location :=
  if Path.isAbsolute target then [] else directory

theorem IsTree.isDirectory_startOf (tree : files.IsTree) {directory : Location}
    (isDirectory : files.IsDirectory directory) (target : String) :
    files.IsDirectory (startOf target directory) := by
  unfold startOf
  split
  · exact tree.isDirectory_root isDirectory
  · exact isDirectory

/-- A name to look up in a directory. -/
structure IsEntry (name : String) : Prop where
  ne_dot : name ≠ "."
  ne_dots : name ≠ ".."
  short : name.utf8ByteSize ≤ nameLimit

/-- A walk up to the first link that has to be followed. -/
inductive Advances (files : Files) (follow : Bool) : Location → List String → Arrival → Prop
  | done {spot : Location} : Advances files follow spot [] (.done spot)
  | dot {spot : Location} {rest : List String} {a : Arrival} : files.IsDirectory spot →
      Advances files follow spot rest a → Advances files follow spot ("." :: rest) a
  | up {spot : Location} {rest : List String} {a : Arrival} : files.IsDirectory spot →
      Advances files follow spot.dropLast rest a → Advances files follow spot (".." :: rest) a
  | step {spot : Location} {name : String} {rest : List String} {a : Arrival} :
      files.IsDirectory spot → IsEntry name → ¬files.IsLink (spot ++ [name]) →
      Advances files follow (spot ++ [name]) rest a → Advances files follow spot (name :: rest) a
  | stop {spot : Location} {name : String} : files.IsDirectory spot → IsEntry name →
      files.IsLink (spot ++ [name]) → follow = false →
        Advances files follow spot [name] (.done (spot ++ [name]))
  | detour {spot : Location} {name : String} {rest : List String} {owner : Int} {target : String} :
      files.IsDirectory spot → IsEntry name →
      files.find? (spot ++ [name]) = some (.link owner target) → (rest ≠ [] ∨ follow = true) →
        Advances files follow spot (name :: rest) (.detour spot target rest)

theorem advances_of_advance {a : Arrival} (arrives : files.advance follow spot components = .ok a) :
    Advances files follow spot components a := by
  fun_induction advance files follow spot components with
  | case1 =>
      cases arrives
      exact .done
  | case2 | case3 | case9 => cases arrives
  | case4 spot rest mode owner isDirectory _ ih =>
      exact .dot ⟨mode, owner, isDirectory⟩ (ih arrives)
  | case5 spot rest mode owner isDirectory _ _ ih =>
      exact .up ⟨mode, owner, isDirectory⟩ (ih arrives)
  | case6 spot name rest mode owner isDirectory short notDot notDots _ target isLink isLast =>
      cases arrives
      obtain ⟨rfl, noFollow⟩ := isLast
      exact .stop ⟨mode, owner, isDirectory⟩ ⟨notDot, notDots, by omega⟩ ⟨_, target, isLink⟩
        (by simpa using noFollow)
  | case7 spot name rest mode owner isDirectory short notDot notDots _ target isLink goesOn =>
      cases arrives
      refine .detour ⟨mode, owner, isDirectory⟩ ⟨notDot, notDots, by omega⟩ isLink ?_
      by_cases isLast : rest = []
      · exact .inr (by simpa [isLast] using goesOn)
      · exact .inl isLast
  | case8 spot name rest mode owner isDirectory short notDot notDots notLink ih =>
      refine .step ⟨mode, owner, isDirectory⟩ ⟨notDot, notDots, by omega⟩ ?_ (ih arrives)
      rintro ⟨owner, target, isLink⟩
      exact notLink owner target isLink

theorem Advances.advance_eq {a : Arrival} (advances : Advances files follow spot components a) :
    files.advance follow spot components = .ok a := by
  induction advances with
  | done => rfl
  | dot isDirectory _ ih =>
      obtain ⟨mode, owner, isDirectory⟩ := isDirectory
      rw [advance, isDirectory]
      exact ih
  | up isDirectory _ ih =>
      obtain ⟨mode, owner, isDirectory⟩ := isDirectory
      rw [advance, isDirectory]
      exact ih
  | step isDirectory isEntry notLink _ ih =>
      obtain ⟨mode, owner, isDirectory⟩ := isDirectory
      rw [advance, isDirectory]
      simp only [Nat.not_lt.mpr isEntry.short, isEntry.ne_dot, isEntry.ne_dots, if_false]
      split
      · rename_i isLink
        exact absurd ⟨_, _, isLink⟩ notLink
      · exact ih
  | stop isDirectory isEntry isLink noFollow =>
      obtain ⟨mode, owner, isDirectory⟩ := isDirectory
      obtain ⟨_, target, isLink⟩ := isLink
      rw [advance, isDirectory]
      simp only [Nat.not_lt.mpr isEntry.short, isEntry.ne_dot, isEntry.ne_dots, if_false, isLink,
        noFollow, Bool.not_false, and_self, if_true]
  | detour isDirectory isEntry isLink goesOn =>
      obtain ⟨mode, owner, isDirectory⟩ := isDirectory
      rw [advance, isDirectory]
      simp only [Nat.not_lt.mpr isEntry.short, isEntry.ne_dot, isEntry.ne_dots, if_false, isLink]
      rw [if_neg]
      rintro ⟨isLast, noFollow⟩
      rcases goesOn with more | follows
      · exact more isLast
      · simp [follows] at noFollow

/-- A walk arrives at once, or it takes a detour and walks on. -/
theorem walk_eq_ok {budget : Nat} :
    files.walk follow budget spot components = .ok finish ↔
      Advances files follow spot components (.done finish) ∨
        ∃ fewer directory target rest, budget = fewer + 1 ∧
          Advances files follow spot components (.detour directory target rest) ∧
          files.walk follow fewer (startOf target directory) (Path.components target ++ rest) =
            .ok finish := by
  constructor
  · intro walks
    rw [walk.eq_def] at walks
    dsimp only at walks
    split at walks
    · cases walks
    · rename_i arrives
      cases walks
      exact .inl (advances_of_advance arrives)
    · rename_i directory target rest arrives
      cases budget with
      | zero => cases walks
      | succ fewer =>
          exact .inr ⟨fewer, directory, target, rest, rfl, advances_of_advance arrives, walks⟩
  · rintro (arrives | ⟨fewer, directory, target, rest, rfl, arrives, walks⟩)
    · rw [walk.eq_def]
      dsimp only
      rw [arrives.advance_eq]
    · rw [walk, arrives.advance_eq]
      exact walks

theorem Advances.following {a : Arrival} (advances : Advances files false spot components a)
    (notLink : ∀ finish, a = .done finish → ¬files.IsLink finish) :
    Advances files true spot components a := by
  induction advances with
  | done => exact .done
  | dot isDirectory _ ih => exact .dot isDirectory (ih notLink)
  | up isDirectory _ ih => exact .up isDirectory (ih notLink)
  | step isDirectory isEntry other _ ih => exact .step isDirectory isEntry other (ih notLink)
  | stop _ _ isLink _ => exact absurd isLink (notLink _ rfl)
  | detour isDirectory isEntry isLink _ => exact .detour isDirectory isEntry isLink (.inr rfl)

/-- A walk that succeeds goes over to other files, or to another way of walking, when each of its
    arrivals does. -/
theorem walk_of_advances {files' : Files} {follow' : Bool} {budget : Nat}
    (done : ∀ {spot components}, Advances files follow spot components (.done finish) →
      Advances files' follow' spot components (.done finish))
    (detour : ∀ {spot components directory target rest},
      Advances files follow spot components (.detour directory target rest) →
        Advances files' follow' spot components (.detour directory target rest))
    (walks : files.walk follow budget spot components = .ok finish) :
    files'.walk follow' budget spot components = .ok finish := by
  induction budget using Nat.strongRecOn generalizing spot components with
  | ind budget ih =>
      rcases walk_eq_ok.mp walks with arrives | ⟨fewer, _, _, _, rfl, arrives, walks⟩
      · exact walk_eq_ok.mpr (.inl (done arrives))
      · exact walk_eq_ok.mpr (.inr ⟨fewer, _, _, _, rfl, detour arrives,
          ih fewer (Nat.lt_succ_self fewer) walks⟩)

theorem walk_following {budget : Nat} (walks : files.walk false budget spot components = .ok finish)
    (notLink : ¬files.IsLink finish) : files.walk true budget spot components = .ok finish := by
  refine walk_of_advances (fun arrives => arrives.following ?_)
    (fun arrives => arrives.following ?_) walks
  · rintro _ ⟨⟩
    exact notLink
  · exact fun _ same => nomatch same

/-- Where the walk over a path starts. A relative path has no start when the working directory has
    gone away. -/
def start? (workingDirectory : Option String) (path : String) : Option Location :=
  if Path.isAbsolute path then some [] else workingDirectory.map Path.names

theorem locateAlong_eq_ok :
    files.locateAlong workingDirectory follow path components = .ok finish ↔
      path ≠ "" ∧ path.utf8ByteSize ≤ pathLimit ∧
        ∃ spot, start? workingDirectory path = some spot ∧
          files.walk follow linkLimit spot components = .ok finish := by
  unfold locateAlong start?
  by_cases isEmpty : path = ""
  · simp [isEmpty]
  · by_cases isLong : pathLimit < path.utf8ByteSize
    · simp [isEmpty, isLong, Nat.not_le.mpr isLong]
    · rw [if_neg isEmpty, if_neg isLong]
      by_cases isAbsolute : Path.isAbsolute path = true
      · simp [isEmpty, Nat.not_lt.mp isLong, isAbsolute]
      · rw [if_neg isAbsolute, if_neg isAbsolute]
        cases workingDirectory with
        | none => simp
        | some directory => simp [isEmpty, Nat.not_lt.mp isLong]

theorem locate_eq_ok :
    files.locate workingDirectory follow path = .ok finish ↔
      path ≠ "" ∧ path.utf8ByteSize ≤ pathLimit ∧
        ∃ spot, start? workingDirectory path = some spot ∧
          files.walk follow linkLimit spot (Path.components path) = .ok finish :=
  locateAlong_eq_ok

theorem locate_of_long (long : pathLimit < path.utf8ByteSize) :
    files.locate workingDirectory follow path = .error .nameTooLong := by
  have nonempty : path ≠ "" := by
    rintro rfl
    exact absurd long (by decide)
  unfold locate locateAlong
  rw [if_neg nonempty, if_pos long]

theorem locate_following (isLocated : files.locate workingDirectory false path = .ok finish)
    (notLink : ¬files.IsLink finish) (follow : Bool) :
    files.locate workingDirectory follow path = .ok finish := by
  cases follow with
  | false => exact isLocated
  | true =>
      obtain ⟨nonempty, short, spot, isStart, walks⟩ := locate_eq_ok.mp isLocated
      exact locate_eq_ok.mpr ⟨nonempty, short, spot, isStart, walk_following walks notLink⟩

/-- A new directory gets in the way of no walk: none has gone through the place where it is put. -/
theorem Advances.set {a : Arrival} {place : Location} {mode : Nat} {owner : Int}
    (missing : files.find? place = none)
    (advances : Advances files follow spot components a) :
    Advances (files.set place (.directory mode owner)) follow spot components a := by
  have notLink : ∀ {l}, ¬files.IsLink l → ¬(files.set place (.directory mode owner)).IsLink l := by
    rintro l notLink ⟨owner', target, isLink⟩
    rw [find?_set] at isLink
    split at isLink
    · cases isLink
    · exact notLink ⟨owner', target, isLink⟩
  have isLink : ∀ {l owner' target}, files.find? l = some (.link owner' target) →
      (files.set place (.directory mode owner)).find? l = some (.link owner' target) := by
    intro l owner' target isLink
    have other : l ≠ place := by
      rintro rfl
      rw [missing] at isLink
      cases isLink
    rw [find?_set, if_neg other]
    exact isLink
  induction advances with
  | done => exact .done
  | dot isDirectory _ ih => exact .dot (isDirectory.set place mode owner) ih
  | up isDirectory _ ih => exact .up (isDirectory.set place mode owner) ih
  | step isDirectory isEntry other _ ih =>
      exact .step (isDirectory.set place mode owner) isEntry (notLink other) ih
  | stop isDirectory isEntry found noFollow =>
      obtain ⟨owner', target, found⟩ := found
      exact .stop (isDirectory.set place mode owner) isEntry ⟨owner', target, isLink found⟩ noFollow
  | detour isDirectory isEntry found goesOn =>
      exact .detour (isDirectory.set place mode owner) isEntry (isLink found) goesOn

theorem locateAlong_set {place : Location} {mode : Nat} {owner : Int}
    (missing : files.find? place = none)
    (isLocated : files.locateAlong workingDirectory follow path components = .ok finish) :
    (files.set place (.directory mode owner)).locateAlong workingDirectory follow path components =
      .ok finish := by
  obtain ⟨nonempty, short, spot, isStart, walks⟩ := locateAlong_eq_ok.mp isLocated
  refine locateAlong_eq_ok.mpr ⟨nonempty, short, spot, isStart, ?_⟩
  exact walk_of_advances (fun arrives => arrives.set missing) (fun arrives => arrives.set missing)
    walks

/-- A walk that takes any steps at all goes from one directory to the next, up to its end. -/
theorem Advances.isVacancy (tree : files.IsTree) {a : Arrival}
    (areNames : ∀ name ∈ components, Path.IsName name)
    (advances : Advances files follow spot components a) (done : a = .done finish)
    (missing : files.find? finish = none) :
    files.IsVacancy finish ∨ finish = spot ∧ components = [] := by
  have notDirectory : ∀ {found}, files.IsDirectory found → finish ≠ found := by
    rintro found isDirectory rfl
    have isPresent := isDirectory.isSome
    rw [missing] at isPresent
    cases isPresent
  induction advances with
  | done =>
      cases done
      exact .inr ⟨rfl, rfl⟩
  | dot isDirectory _ ih =>
      rcases ih (fun name member => areNames name (List.mem_cons_of_mem _ member)) done with
        vacancy | ⟨same, _⟩
      · exact .inl vacancy
      · exact absurd same (notDirectory isDirectory)
  | up isDirectory _ ih =>
      rcases ih (fun name member => areNames name (List.mem_cons_of_mem _ member)) done with
        vacancy | ⟨same, _⟩
      · exact .inl vacancy
      · exact absurd same (notDirectory (tree.isDirectory_dropLast isDirectory))
  | step isDirectory isEntry _ _ ih =>
      rcases ih (fun name member => areNames name (List.mem_cons_of_mem _ member)) done with
        vacancy | ⟨same, _⟩
      · exact .inl vacancy
      · exact .inl ⟨_, _, same, isDirectory,
          ⟨areNames _ List.mem_cons_self, isEntry.ne_dot, isEntry.ne_dots⟩, isEntry.short⟩
  | stop isDirectory isEntry _ _ =>
      cases done
      exact .inl ⟨_, _, rfl, isDirectory,
        ⟨areNames _ List.mem_cons_self, isEntry.ne_dot, isEntry.ne_dots⟩, isEntry.short⟩
  | detour => cases done

theorem Advances.detour_spec {a : Arrival} (advances : Advances files follow spot components a)
    {directory : Location} {target : String} {rest : List String}
    (detour : a = .detour directory target rest) :
    files.IsDirectory directory ∧ ∀ name ∈ rest, name ∈ components := by
  induction advances with
  | done => cases detour
  | dot _ _ ih | up _ _ ih | step _ _ _ _ ih =>
      exact ⟨(ih detour).1, fun name member => List.mem_cons_of_mem _ ((ih detour).2 name member)⟩
  | stop => cases detour
  | detour isDirectory _ _ _ =>
      cases detour
      exact ⟨isDirectory, fun name member => List.mem_cons_of_mem _ member⟩

theorem isVacancy_of_walk (tree : files.IsTree) {budget : Nat}
    (areNames : ∀ name ∈ components, Path.IsName name)
    (walks : files.walk follow budget spot components = .ok finish)
    (missing : files.find? finish = none) :
    files.IsVacancy finish ∨ finish = spot ∧ components = [] := by
  induction budget generalizing spot components with
  | zero =>
      rcases walk_eq_ok.mp walks with arrives | ⟨_, _, _, _, isZero, _⟩
      · exact arrives.isVacancy tree areNames rfl missing
      · cases isZero
  | succ budget ih =>
      rcases walk_eq_ok.mp walks with arrives | ⟨_, directory, target, rest, isSucc, arrives, walks⟩
      · exact arrives.isVacancy tree areNames rfl missing
      · cases isSucc
        obtain ⟨isDirectory, members⟩ := arrives.detour_spec rfl
        have stillNames : ∀ name ∈ Path.components target ++ rest, Path.IsName name := by
          intro name member
          rcases List.mem_append.mp member with member | member
          · exact Path.isName_of_mem_components member
          · exact areNames name (members name member)
        rcases ih stillNames walks with vacancy | ⟨same, _⟩
        · exact .inl vacancy
        · have isPresent := (tree.isDirectory_startOf isDirectory target).isSome
          rw [← same, missing] at isPresent
          cases isPresent

/-- Where components lead to nothing there is room for a node. -/
theorem isVacancy_of_locateAlong (tree : files.IsTree)
    (areNames : ∀ name ∈ components, Path.IsName name) (nonempty : components ≠ [])
    (isLocated : files.locateAlong workingDirectory follow path components = .ok finish)
    (missing : files.find? finish = none) : files.IsVacancy finish := by
  obtain ⟨_, _, spot, _, walks⟩ := locateAlong_eq_ok.mp isLocated
  rcases isVacancy_of_walk tree areNames walks missing with vacancy | ⟨_, none⟩
  · exact vacancy
  · exact absurd none nonempty

theorem IsTree.advances (tree : files.IsTree) {names : List String}
    (isPresent : (files.find? (spot ++ names)).isSome) (notLink : ¬files.IsLink (spot ++ names)) :
    Advances files follow spot names (.done (spot ++ names)) := by
  induction names generalizing spot with
  | nil =>
      rw [List.append_nil]
      exact .done
  | cons name rest ih =>
      have isDirectory := tree.isDirectory_of_append (List.cons_ne_nil name rest) isPresent
      rw [List.append_cons] at isPresent notLink ⊢
      have next : (files.find? (spot ++ [name])).isSome ∧ ¬files.IsLink (spot ++ [name]) := by
        by_cases isLast : rest = []
        · rw [isLast, List.append_nil] at isPresent notLink
          exact ⟨isPresent, notLink⟩
        · have between := tree.isDirectory_of_append isLast isPresent
          exact ⟨between.isSome, between.not_isLink⟩
      have isPlain := tree.plain spot name next.1
      exact .step isDirectory ⟨isPlain.ne_dot, isPlain.ne_dots, tree.short spot name next.1⟩ next.2
        (ih isPresent notLink)

/-- The path of a directory from the root leads to it, unless it is too long. -/
theorem IsTree.locate_eq (tree : files.IsTree) (isDirectory : files.IsDirectory spot)
    (short : ("/" ++ Path.joinNames spot).utf8ByteSize ≤ pathLimit)
    (workingDirectory : Option String) :
    files.locate workingDirectory follow ("/" ++ Path.joinNames spot) = .ok spot := by
  have arrives : Advances files follow [] (Path.components ("/" ++ Path.joinNames spot))
      (.done spot) := by
    by_cases isRoot : spot = []
    · subst isRoot
      exact .dot isDirectory .done
    · have areNames : ∀ name ∈ spot, Path.IsName name := fun name member =>
        (tree.plain_of_mem isDirectory.isSome name member).isName
      rw [Path.components_slash areNames isRoot]
      have isPresent : (files.find? ([] ++ spot)).isSome := isDirectory.isSome
      have notLink : ¬files.IsLink ([] ++ spot) := isDirectory.not_isLink
      exact tree.advances isPresent notLink
  have isStart : start? workingDirectory ("/" ++ Path.joinNames spot) = some [] :=
    if_pos (Path.isAbsolute_slash _)
  exact locate_eq_ok.mpr ⟨by simp, short, [], isStart, walk_eq_ok.mpr (.inl arrives)⟩

theorem Advances.of_dots {a : Arrival} {k : Nat} {rest : List String}
    (advances : Advances files follow spot (List.replicate k ".." ++ rest) a) :
    Advances files follow (spot.take (spot.length - k)) rest a := by
  induction k generalizing spot with
  | zero => simpa using advances
  | succ k ih =>
      rw [List.replicate_succ, List.cons_append] at advances
      generalize isRest : List.replicate k ".." ++ rest = others at advances
      generalize isDots : ".." = name at advances
      cases advances with
      | dot => exact absurd isDots (by decide)
      | up _ advances =>
          have shortened := ih (isRest ▸ advances)
          rw [List.dropLast_eq_take, List.take_take, List.length_take] at shortened
          have same : min (min (spot.length - 1) spot.length - k) (spot.length - 1) =
              spot.length - (k + 1) := by omega
          rwa [same] at shortened
      | step _ isEntry _ _ => exact absurd isDots.symm isEntry.ne_dots
      | stop _ isEntry _ _ => exact absurd isDots.symm isEntry.ne_dots
      | detour _ isEntry _ _ => exact absurd isDots.symm isEntry.ne_dots

/-- No link is met among names on the way from a location. -/
def IsClear (files : Files) (spot : Location) (names : List String) : Prop :=
  ∀ before, before <+: names → before ≠ [] → ¬files.IsLink (spot ++ before)

/-- On a clear way a walk that follows no link at the end arrives where the names say. -/
theorem Advances.of_isClear {a : Arrival} {names : List String} {name : String}
    (clear : files.IsClear spot names) (arePlain : ∀ other ∈ names, Path.IsPlain other)
    (isPlain : Path.IsPlain name) (advances : Advances files false spot (names ++ [name]) a) :
    a = .done (spot ++ (names ++ [name])) := by
  induction names generalizing spot with
  | nil =>
      cases advances with
      | dot => exact absurd rfl isPlain.ne_dot
      | up => exact absurd rfl isPlain.ne_dots
      | step _ _ _ advances =>
          cases advances
          rfl
      | stop => rfl
      | detour _ _ _ goesOn => simp at goesOn
  | cons first rest ih =>
      have firstPlain := arePlain first List.mem_cons_self
      have notLink := clear [first] (by simp) (List.cons_ne_nil _ _)
      rw [List.cons_append] at advances ⊢
      -- The constructors are told apart only once the rest of the way is a variable.
      generalize isRest : rest ++ [name] = others at advances
      cases advances with
      | dot => exact absurd rfl firstPlain.ne_dot
      | up => exact absurd rfl firstPlain.ne_dots
      | step _ _ _ advances =>
          rw [← isRest] at advances ⊢
          rw [List.append_cons]
          refine ih ?_ (fun other member => arePlain other (List.mem_cons_of_mem _ member)) advances
          intro before isPrefix _
          rw [← List.append_cons]
          exact clear (first :: before) (by simpa using isPrefix) (List.cons_ne_nil _ _)
      | stop => simp at isRest
      | detour _ _ isLink _ => exact absurd ⟨_, _, isLink⟩ notLink

end MuxLaunch.Files
