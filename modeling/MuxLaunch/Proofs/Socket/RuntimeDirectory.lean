import MuxLaunch.Proofs.Files.Nested
import MuxLaunch.Socket.RuntimeDirectory

/-! # The runtime directory that is handed out

The directory that has been checked is the one that the path handed out leads to, although the
checks look the path up as the kernel does while the canonical path is put together name by name.
-/

namespace MuxLaunch

namespace RuntimeDirectory

open Files

variable {s s' : Storage} {path name : String} {user : Int}

/-- Make the directory unless there is something at its path already. -/
def attempt (s : Storage) (path : String) : Except Fault Storage :=
  if Path.holdsNull path then .error .nullInPath
  else
    match s.mkdir path 0o700 with
    | .ok made => .ok made
    | .error e => if e = .fileExists then .ok s else .error (.refused ⟨e, path⟩)

/-- One directory is new, and it belongs to the user of the process. -/
def IsMade (s : Storage) (path : String) (s' : Storage) : Prop :=
  ∃ spot, s.locateNew path = .ok spot ∧ s.files.find? spot = none ∧
    s' = { s with files := s.files.set spot (.directory (s.newMode spot 0o700) s.user) }

/-- Nothing but one new directory comes of an attempt. -/
theorem attempt_eq_ok (attempted : attempt s path = .ok s') : s' = s ∨ IsMade s path s' := by
  unfold attempt at attempted
  split at attempted
  · cases attempted
  · split at attempted
    · rename_i made isMade
      cases attempted
      exact .inr (Storage.mkdir_ok.mp isMade)
    · split at attempted
      · exact .inl (Except.ok.inj attempted).symm
      · cases attempted

/-- An attempt fails on a path that is none, and where the directory cannot be made. -/
theorem attempt_eq_error {f : Fault} (attempted : attempt s path = .error f) :
    Path.holdsNull path = true ∧ f = .nullInPath ∨
      ∃ e, s.mkdir path 0o700 = .error e ∧ e ≠ .fileExists ∧ f = .refused ⟨e, path⟩ := by
  unfold attempt at attempted
  split at attempted
  · rename_i holdsNull
    cases attempted
    exact .inl ⟨holdsNull, rfl⟩
  · split at attempted
    · cases attempted
    · rename_i e isError
      split at attempted
      · cases attempted
      · rename_i isOther
        cases attempted
        exact .inr ⟨e, isError, isOther, rfl⟩

theorem attempt_keeps (tree : s.files.IsTree) (canonical : s.HasCanonicalDirectory)
    (attempted : attempt s path = .ok s') : s'.files.IsTree ∧ s'.HasCanonicalDirectory := by
  rcases attempt_eq_ok attempted with rfl | ⟨spot, isLocated, missing, rfl⟩
  · exact ⟨tree, canonical⟩
  · have vacancy := Storage.isVacancy_of_locateNew tree isLocated missing
    exact ⟨tree.set vacancy _ _, canonical⟩

theorem ensure_eq (s : Storage) (path : String) (user : Int) :
    (ensure s path user).result =
        (match attempt s path with
          | .error f => .error f
          | .ok s' => (check s' path user).1.mapError .refused) ∧
      (ensure s path user).storage =
        (match attempt s path with
          | .error _ => s
          | .ok s' => s') := by
  unfold ensure attempt
  by_cases holdsNull : Path.holdsNull path = true
  · rw [if_pos holdsNull, if_pos holdsNull]
    exact ⟨rfl, rfl⟩
  · rw [if_neg holdsNull, if_neg holdsNull]
    cases s.mkdir path 0o700 with
    | ok made => exact ⟨rfl, rfl⟩
    | error e =>
        dsimp only
        by_cases isThere : e = .fileExists
        · rw [if_pos isThere, if_pos isThere]
          exact ⟨rfl, rfl⟩
        · rw [if_neg isThere, if_neg isThere]
          exact ⟨rfl, rfl⟩

theorem storage_of_ensure (s : Storage) (path : String) (user : Int) :
    (ensure s path user).storage = s ∨ IsMade s path (ensure s path user).storage := by
  rw [(ensure_eq s path user).2]
  cases attempted : attempt s path with
  | error e => exact .inl rfl
  | ok s' => exact attempt_eq_ok attempted

theorem failing_of_ensure (s : Storage) (path : String) (user : Int) :
    (ensure s path user).storage.failing = s.failing := by
  rcases storage_of_ensure s path user with same | ⟨_, _, _, same⟩
  · rw [same]
  · rw [same]

theorem ensure_eq_ok {directory : String}
    (isEnsured : (ensure s path user).result = .ok directory) :
    attempt s path = .ok (ensure s path user).storage ∧
      (check (ensure s path user).storage path user).1 = .ok directory := by
  obtain ⟨isResult, isStorage⟩ := ensure_eq s path user
  cases attempted : attempt s path with
  | error e =>
      rw [isEnsured, attempted] at isResult
      cases isResult
  | ok s' =>
      rw [isEnsured, attempted] at isResult
      rw [attempted] at isStorage
      rw [isStorage]
      exact ⟨rfl, exceptMapError_eq_ok.mp isResult.symm⟩

/-- What is handed out for a directory: its canonical path, or else the path itself. -/
theorem canonicalPath_leads (tree : s.files.IsTree) (canonical : s.HasCanonicalDirectory)
    {spot : Location} (isLocated : s.files.locate s.workingDirectory false path = .ok spot)
    (isDirectory : s.files.IsDirectory spot) {p : String}
    (isHandedOut : p = (s.canonicalPath path).toOption.getD path) :
    if Path.isAbsolute path = false ∧ pathLimit < p.utf8ByteSize then
      ∀ follow, s.files.locate s.workingDirectory follow p = .error .nameTooLong
    else ∀ follow, s.files.locate s.workingDirectory follow p = .ok spot := by
  cases isCanonical : s.canonicalPath path with
  -- The path is then used as it is, and the kernel has just looked it up.
  | error e =>
      obtain rfl : p = path := by rw [isHandedOut, isCanonical]; rfl
      rw [if_neg fun long => Nat.not_lt.mpr (locate_eq_ok.mp isLocated).2.1 long.2]
      exact locate_following isLocated isDirectory.not_isLink
  | ok found =>
      obtain rfl : p = found := by rw [isHandedOut, isCanonical]; rfl
      obtain ⟨rfl, short⟩ := Storage.canonicalPath_eq_ok canonical isCanonical isLocated
        isDirectory.not_isLink
      split
      · rename_i tooLong
        exact fun follow => locate_of_long tooLong.2
      · rename_i reachable
        have isShort : ("/" ++ Path.joinNames spot).utf8ByteSize ≤ pathLimit := by
          cases isAbsolute : Path.isAbsolute path with
          | true => exact short isAbsolute
          | false => exact Nat.not_lt.mp fun long => reachable ⟨isAbsolute, long⟩
        exact fun follow => tree.locate_eq isDirectory isShort s.workingDirectory

theorem check_of_private {n : Node} (isNode : s.lstat path = .ok n) (isKind : n.isDirectory = true)
    (isPrivate : ¬(n.owner ≠ user ∨ n.isShared = true)) :
    (check s path user).1 = .ok ((s.canonicalPath path).toOption.getD path) := by
  unfold check
  simp only [isNode, isKind, Bool.not_true, Bool.false_eq_true, if_false, if_neg isPrivate]
  cases s.canonicalPath path with
  | error e => rfl
  | ok found => rfl

/-- Only a directory of the user's that is closed to all others passes the check. -/
theorem check_eq_ok {directory : String} (checked : (check s path user).1 = .ok directory) :
    ∃ n, s.lstat path = .ok n ∧ n.isDirectory = true ∧ n.owner = user ∧ n.isShared = false ∧
      directory = (s.canonicalPath path).toOption.getD path := by
  cases isNode : s.lstat path with
  | error e => simp [check, isNode] at checked
  | ok n =>
      cases isKind : n.isDirectory with
      | false => simp [check, isNode, isKind] at checked
      | true =>
          by_cases isRefused : n.owner ≠ user ∨ n.isShared = true
          · simp [check, isNode, isKind, isRefused] at checked
          · obtain ⟨isOwn, isClosed⟩ := not_or.mp isRefused
            have isHandedOut := checked.symm.trans (check_of_private isNode isKind isRefused)
            exact ⟨n, rfl, isKind, Decidable.not_not.mp isOwn, by simpa using isClosed,
              Except.ok.inj isHandedOut⟩

theorem check_eq (tree : s.files.IsTree) (canonical : s.HasCanonicalDirectory) (path : String)
    (user : Int) :
    let result := (check s path user).1.mapError Fault.refused
    match s.lstat path with
    | .error e => result = .error (.refused ⟨e, path⟩)
    | .ok n =>
        if n.isDirectory = false then result = .error (.refused ⟨.notADirectory, path⟩)
        else if n.owner ≠ user ∨ n.isShared then
          result = .error (.refused ⟨.permissionDenied, path⟩)
        else ∃ p spot, result = .ok p ∧
          s.files.locate s.workingDirectory false path = .ok spot ∧ s.files.find? spot = some n ∧
            if Path.isAbsolute path = false ∧ pathLimit < p.utf8ByteSize then
              ∀ follow, s.files.locate s.workingDirectory follow p = .error .nameTooLong
            else ∀ follow, s.files.locate s.workingDirectory follow p = .ok spot := by
  intro result
  cases isNode : s.lstat path with
  | error e =>
      simp only [result, check, isNode]
      rfl
  | ok n =>
      dsimp only
      obtain ⟨spot, isLocated, isFound⟩ := Storage.locate_of_node isNode
      cases isKind : n.isDirectory with
      | false =>
          simp only [result, check, isNode, isKind, Bool.not_false, if_true]
          rfl
      | true =>
          rw [if_neg (by decide)]
          by_cases isRefused : n.owner ≠ user ∨ n.isShared = true
          · rw [if_pos isRefused]
            simp only [result, check, isNode, isKind, Bool.not_true, Bool.false_eq_true, if_false,
              if_pos isRefused]
            rfl
          · rw [if_neg isRefused]
            have checked := check_of_private isNode isKind isRefused
            exact ⟨_, spot, exceptMapError_eq_ok.mpr checked, isLocated, isFound,
              canonicalPath_leads tree canonical isLocated (isDirectory_of_kind isFound isKind) rfl⟩

def nestedAfter (name : String) (depth : Nat) : Storage :=
  { nested name depth with
    files := (nestedFiles name depth).set (List.replicate depth name ++ [name])
      (.directory 0o700 1000) }

theorem mkdir_nested (isPlain : Path.IsPlain name) (short : name.utf8ByteSize ≤ nameLimit)
    (depth : Nat) : (nested name depth).mkdir name 0o700 = .ok (nestedAfter name depth) := by
  have missing := find?_nestedFiles_beyond isPlain short depth
  have isLocated : (nestedFiles name depth).locate _ false name = .ok _ :=
    locate_name false (names_nested isPlain depth) isPlain short
      (nestedFiles_isTree isPlain short depth).2.1 fun ⟨_, _, isLink⟩ => by
        rw [missing] at isLink
        cases isLink
  have isNamed := (nested name depth).newComponents_of_noSlash
    (Path.endsWithSlash_of_isName isPlain.isName)
  have isMode : (nested name depth).newMode (List.replicate depth name ++ [name]) 0o700 =
      0o700 := by
    rw [Storage.newMode, List.dropLast_concat]
    simp only [nested, find?_nestedFiles]
    decide
  refine Storage.mkdir_ok.mpr ⟨_, Storage.locateNew_ok.mpr ⟨rfl, ?_⟩, missing, ?_⟩
  · rw [isNamed]
    exact isLocated
  · rw [isMode]
    rfl

theorem lstat_nestedAfter (isPlain : Path.IsPlain name) (short : name.utf8ByteSize ≤ nameLimit)
    (depth : Nat) : (nestedAfter name depth).lstat name = .ok (.directory 0o700 1000) := by
  have isNew : (nestedAfter name depth).files.find? (List.replicate depth name ++ [name]) =
      some (.directory 0o700 1000) := by
    rw [nestedAfter, find?_set, if_pos rfl]
  have inside : (nestedAfter name depth).files.IsDirectory (List.replicate depth name) := by
    refine ⟨0o755, 0, ?_⟩
    rw [nestedAfter, find?_set, if_neg (by simp), find?_nestedFiles]
  exact (Storage.node_eq_ok rfl).mpr ⟨_, locate_name false (names_nested isPlain depth) isPlain
    short inside (IsDirectory.not_isLink ⟨_, _, isNew⟩), isNew⟩

/-- A new directory inside of nested ones is handed out under its path from the root. -/
theorem ensure_nested_eq (noNull : Path.holdsNull name = false) (isPlain : Path.IsPlain name)
    (short : name.utf8ByteSize ≤ nameLimit) (depth : Nat) :
    (ensure (nested name depth) name 1000).storage = nestedAfter name depth ∧
      (nestedAfter name depth).lstat name = .ok (.directory 0o700 1000) ∧
      (ensure (nested name depth) name 1000).result =
        .ok ("/" ++ Path.joinNames (List.replicate depth name ++ [name])) := by
  have made := mkdir_nested isPlain short depth
  have isFound := lstat_nestedAfter isPlain short depth
  have isCanonical := canonicalPath_name (s := nestedAfter name depth) rfl
    (names_nested isPlain depth) (nested_hasCanonicalDirectory isPlain depth) isPlain isFound
  have noNull : ¬Path.holdsNull name = true := by simp [noNull]
  refine ⟨by rw [ensure, if_neg noNull, made], isFound, ?_⟩
  rw [ensure, if_neg noNull, made]
  simp only [check, isFound, isCanonical]
  rfl

/-- A directory is handed out exactly when, after the attempt to make it, it is a real one of the
    user's and closed to all others; otherwise the fault says what is wrong. The path handed out
    leads the kernel to the very directory that was checked, unless the path asked for is relative
    and the one handed out is longer than a path may be, so that the kernel refuses it. At most that
    one directory is new, and it is closed to all others. A path with a null character is no path to
    the system, so nothing is attempted. -/
theorem ensure_spec (s : Storage) (path : String) (user : Int) (tree : s.files.IsTree)
    (canonical : s.HasCanonicalDirectory) :
    (match attempt s path with
      | .error f =>
          (ensure s path user).result = .error f ∧ (ensure s path user).storage = s ∧
          (Path.holdsNull path = true ∧ f = .nullInPath ∨
            ∃ e, s.mkdir path 0o700 = .error e ∧ e ≠ .fileExists ∧ f = .refused ⟨e, path⟩)
      | .ok s' =>
          (ensure s path user).storage = s' ∧ (s' = s ∨ IsMade s path s') ∧
          match s'.lstat path with
          | .error e => (ensure s path user).result = .error (.refused ⟨e, path⟩)
          | .ok n =>
              if n.isDirectory = false then
                (ensure s path user).result = .error (.refused ⟨.notADirectory, path⟩)
              else if n.owner ≠ user ∨ n.isShared then
                (ensure s path user).result = .error (.refused ⟨.permissionDenied, path⟩)
              else ∃ p spot, (ensure s path user).result = .ok p ∧
                s'.files.locate s'.workingDirectory false path = .ok spot ∧
                s'.files.find? spot = some n ∧
                if Path.isAbsolute path = false ∧ pathLimit < p.utf8ByteSize then
                  ∀ follow, s'.files.locate s'.workingDirectory follow p = .error .nameTooLong
                else ∀ follow, s'.files.locate s'.workingDirectory follow p = .ok spot) ∧
    (∀ spot, (Node.directory (s.newMode spot 0o700) s.user).isShared = false) ∧
    ∀ f, (ensure s path user).result = .error (.refused f) → f.message = f.error.message := by
  refine ⟨?_, fun spot => s.isShared_newMode spot s.user, fun _ _ => rfl⟩
  obtain ⟨isResult, isStorage⟩ := ensure_eq s path user
  rw [isResult, isStorage]
  cases attempted : attempt s path with
  | error f => exact ⟨rfl, rfl, attempt_eq_error attempted⟩
  | ok s' =>
      obtain ⟨tree', canonical'⟩ := attempt_keeps tree canonical attempted
      exact ⟨rfl, attempt_eq_ok attempted, check_eq tree' canonical' path user⟩

/-- A final slash makes no difference to what is made. -/
theorem ensure_nested :
    (nested "a" 1).files.IsTree ∧ (nested "a" 1).HasCanonicalDirectory ∧
      (ensure (nested "a" 1) "x/" 1000).result = .ok "/a/x" ∧
      ∀ follow, (ensure (nested "a" 1) "x/" 1000).storage.files.locate (some "/a") follow "/a/x" =
        .ok ["a", "x"] := by
  have isPlain : Path.IsPlain "a" := ⟨⟨by decide, by decide⟩, by decide, by decide⟩
  have tree := (nestedFiles_isTree isPlain (by decide) 1).1
  have canonical := nested_hasCanonicalDirectory isPlain 1
  have spec := (ensure_spec (nested "a" 1) "x/" 1000 tree canonical).1
  have attempted : attempt (nested "a" 1) "x/" = .ok { nested "a" 1 with
      files := (nestedFiles "a" 1).set ["a", "x"] (.directory 0o700 1000) } := rfl
  rw [attempted] at spec
  obtain ⟨isStorage, -, p, spot, isResult, isLocated, -, reached⟩ := spec
  have isPath : p = "/a/x" := (Except.ok.inj isResult).symm
  have isPlace : spot = ["a", "x"] := (Except.ok.inj isLocated).symm
  rw [isPath, isPlace, if_neg fun long => absurd long.2 (by decide)] at reached
  rw [isPath] at isResult
  rw [isStorage]
  exact ⟨tree, canonical, isResult, reached⟩

/-- A directory whose set-group-ID bit goes over to what is made in it. -/
def grouped : Storage :=
  { nested "a" 1 with files := (nestedFiles "a" 1).set ["a"] (.directory 0o2755 0) }

/-- In a deep working directory the path that is handed out can be too long to be looked up. A
    directory can be made with another bit than the owner's, and a path with a null character is
    refused without an error of the system. -/
theorem ensure_unreachable :
    ((nested longName 15).failing = [] ∧ (nested longName 15).files.IsTree ∧
      (nested longName 15).HasCanonicalDirectory ∧
      ∃ s' p, (ensure (nested longName 15) longName 1000).storage = s' ∧
        s'.lstat longName = .ok (.directory 0o700 1000) ∧
        (ensure (nested longName 15) longName 1000).result = .ok p ∧
        ∀ follow, s'.files.locate s'.workingDirectory follow p = .error .nameTooLong) ∧
    (ensure grouped "x" 1000).storage.files.find? ["a", "x"] = some (.directory 0o2700 1000) ∧
    (ensure (nested "a" 1) "x\x00" 1000).result = .error .nullInPath := by
  have short : longName.utf8ByteSize ≤ nameLimit := Nat.le_of_eq longName_size
  obtain ⟨isStorage, isFound, isResult⟩ :=
    ensure_nested_eq longName_holdsNull longName_isPlain short 15
  have tooLong : pathLimit <
      ("/" ++ Path.joinNames (List.replicate 15 longName ++ [longName])).utf8ByteSize := by
    have slash : "/".utf8ByteSize = 1 := rfl
    rw [← List.replicate_succ', String.utf8ByteSize_append, utf8ByteSize_joinNames_replicate,
      longName_size, slash]
    decide
  exact ⟨⟨rfl, (nestedFiles_isTree longName_isPlain short 15).1,
    nested_hasCanonicalDirectory longName_isPlain 15, _, _, isStorage, isFound, isResult,
    fun follow => locate_of_long tooLong⟩, rfl, rfl⟩

end RuntimeDirectory

end MuxLaunch
