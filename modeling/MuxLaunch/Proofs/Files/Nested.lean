import MuxLaunch.Proofs.Files.Canonical

/-! # Nested directories

Directories of one name inside of each other, and what is found under a name that stands alone in
the innermost of them.
-/

namespace MuxLaunch

open Files

variable {s : Storage} {name : String}

theorem locate_name {files : Files} {directory : String} {base : Location} (follow : Bool)
    (isBase : Path.names directory = base) (isPlain : Path.IsPlain name)
    (short : name.utf8ByteSize ≤ nameLimit) (inside : files.IsDirectory base)
    (notLink : ¬files.IsLink (base ++ [name])) :
    files.locate (some directory) follow name = .ok (base ++ [name]) := by
  have isJoined : Path.joinNames [name] = name := by simp [Path.joinNames]
  have areNames : ∀ other ∈ [name], Path.IsName other :=
    fun _ member => List.mem_singleton.mp member ▸ isPlain.isName
  have isRelative := Path.isAbsolute_joinNames areNames
  have isComponent := Path.components_joinNames areNames (List.cons_ne_nil _ _)
  rw [isJoined] at isRelative isComponent
  have fits : name.utf8ByteSize ≤ pathLimit := Nat.le_trans short (by decide)
  have isStart : start? (some directory) name = some base := by
    rw [start?, isRelative, if_neg Bool.false_ne_true, Option.map_some, isBase]
  refine locate_eq_ok.mpr ⟨isPlain.isName.1, fits, base, isStart, ?_⟩
  rw [isComponent]
  exact walk_eq_ok.mpr (.inl (.step inside ⟨isPlain.ne_dot, isPlain.ne_dots, short⟩ notLink .done))

theorem canonicalPath_name {directory : String} {base : Location}
    (isThere : s.workingDirectory = some directory) (isBase : Path.names directory = base)
    (canonical : s.HasCanonicalDirectory) (isPlain : Path.IsPlain name)
    {mode : Nat} {owner : Int} (isFound : s.lstat name = .ok (.directory mode owner)) :
    s.canonicalPath name = .ok ("/" ++ Path.joinNames (base ++ [name])) := by
  have onlyName : ∀ other ∈ [name], Path.IsPlain other :=
    fun _ member => List.mem_singleton.mp member ▸ isPlain
  have isJoined : Path.joinNames [name] = name := by simp [Path.joinNames]
  have isRelative := Path.isAbsolute_joinNames fun other member => (onlyName other member).isName
  rw [isJoined] at isRelative
  have isTidy : Path.tidy name = name := by
    rw [Path.tidy, Path.root_of_relative isRelative, Path.names_of_isName isPlain.isName]
    simp [isPlain.ne_dot, isJoined, isPlain.isName.1]
  have isNext : (Stem.here.push name).path = name := isJoined
  have isResolved : s.resolve (s.files.nodes.length + 2) name .here [] =
      .ok (Stem.here.push name, []) := by
    rw [Storage.resolve, isRelative, Path.pieces_of_noSlash isPlain.isName.2, Storage.resolveNames,
      if_neg (not_or.mpr ⟨isPlain.isName.1, isPlain.ne_dot⟩), if_neg isPlain.ne_dots]
    simp only [Bool.false_eq_true, if_false, isNext, isFound]
    rfl
  obtain ⟨isNamed, basePlain⟩ := canonical directory isThere
  have isWhole := Path.normalize_join basePlain onlyName 0
  rw [← isNamed, List.replicate_zero, List.nil_append, isJoined, Nat.sub_zero, List.take_length,
    isBase] at isWhole
  rw [Storage.canonicalPath, isTidy, isResolved]
  simp only [bind, Except.bind, isNext, Storage.absolutePath, isRelative, Bool.false_eq_true,
    if_false, isThere, isWhole]
  rfl

/-- Directories of one name inside of each other. -/
def nestedFiles (name : String) : Nat → Files
  | 0 => Files.empty.set [] (.directory 0o755 0)
  | depth + 1 =>
      (nestedFiles name depth).set (List.replicate depth name ++ [name]) (.directory 0o755 0)

/-- A process in the innermost of nested directories. -/
def nested (name : String) (depth : Nat) : Storage where
  files := nestedFiles name depth
  workingDirectory := some ("/" ++ Path.joinNames (List.replicate depth name))
  user := 1000
  failing := []
  rules := .linux

theorem find?_nestedFiles (name : String) (depth : Nat) :
    (nestedFiles name depth).find? (List.replicate depth name) = some (.directory 0o755 0) := by
  cases depth with
  | zero => rfl
  | succ depth => rw [nestedFiles, find?_set, if_pos List.replicate_succ']

theorem nestedFiles_isTree (isPlain : Path.IsPlain name) (short : name.utf8ByteSize ≤ nameLimit)
    (depth : Nat) :
    (nestedFiles name depth).IsTree ∧
      (nestedFiles name depth).IsDirectory (List.replicate depth name) ∧
      ∀ spot, ((nestedFiles name depth).find? spot).isSome → spot.length ≤ depth := by
  induction depth with
  | zero =>
      have onlyRoot : ∀ spot, ((nestedFiles name 0).find? spot).isSome → spot = [] := by
        intro spot isPresent
        rw [nestedFiles, find?_set] at isPresent
        split at isPresent
        · assumption
        · cases isPresent
      refine ⟨⟨?_, ?_, ?_⟩, ⟨0o755, 0, rfl⟩,
        fun spot isPresent => by simp [onlyRoot spot isPresent]⟩
      · exact fun spot other isPresent => absurd (onlyRoot _ isPresent) (by simp)
      · exact fun spot other isPresent => absurd (onlyRoot _ isPresent) (by simp)
      · exact fun spot other isPresent => absurd (onlyRoot _ isPresent) (by simp)
  | succ depth ih =>
      obtain ⟨tree, isDirectory, deep⟩ := ih
      refine ⟨tree.set ⟨_, name, rfl, isDirectory, isPlain, short⟩ _ _,
        ⟨0o755, 0, find?_nestedFiles name (depth + 1)⟩, ?_⟩
      intro spot isPresent
      rw [nestedFiles, find?_set] at isPresent
      split at isPresent
      · rename_i same
        simp [same]
      · exact Nat.le_succ_of_le (deep spot isPresent)

/-- Beyond the innermost directory there is nothing. -/
theorem find?_nestedFiles_beyond (isPlain : Path.IsPlain name)
    (short : name.utf8ByteSize ≤ nameLimit) (depth : Nat) :
    (nestedFiles name depth).find? (List.replicate depth name ++ [name]) = none := by
  obtain ⟨-, -, deep⟩ := nestedFiles_isTree isPlain short depth
  rw [← Option.not_isSome_iff_eq_none]
  intro isPresent
  have tooDeep := deep _ isPresent
  simp only [List.length_append, List.length_replicate, List.length_singleton] at tooDeep
  omega

theorem names_nested (isPlain : Path.IsPlain name) (depth : Nat) :
    Path.names ("/" ++ Path.joinNames (List.replicate depth name)) = List.replicate depth name := by
  rw [Path.names_slash, Path.names_joinNames]
  exact fun _ member => (List.mem_replicate.mp member).2 ▸ isPlain.isName

theorem nested_hasCanonicalDirectory (isPlain : Path.IsPlain name) (depth : Nat) :
    (nested name depth).HasCanonicalDirectory := by
  rintro _ ⟨⟩
  rw [names_nested isPlain]
  exact ⟨rfl, fun _ member => (List.mem_replicate.mp member).2 ▸ isPlain⟩

theorem utf8ByteSize_joinNames_replicate (name : String) (depth : Nat) :
    (Path.joinNames (List.replicate (depth + 1) name)).utf8ByteSize =
      (depth + 1) * name.utf8ByteSize + depth := by
  induction depth with
  | zero => simp [Path.joinNames]
  | succ depth ih =>
      have isLonger : Path.joinNames (List.replicate (depth + 2) name) =
          name ++ "/" ++ Path.joinNames (List.replicate (depth + 1) name) :=
        String.intercalate_cons_cons
      have slash : "/".utf8ByteSize = 1 := rfl
      rw [isLonger, String.utf8ByteSize_append, String.utf8ByteSize_append, ih, slash,
        Nat.succ_mul (depth + 1)]
      omega

def longName : String :=
  String.ofList (List.replicate nameLimit 'a')

theorem longName_isPlain : Path.IsPlain longName := by
  have letters : longName.toList = List.replicate nameLimit 'a' := String.toList_ofList
  have other : ∀ {short : String}, short.toList.length < nameLimit → longName ≠ short := by
    rintro _ isShort rfl
    rw [letters, List.length_replicate] at isShort
    omega
  refine ⟨⟨other (by decide), ?_⟩, other (by decide), other (by decide)⟩
  rw [letters, List.mem_replicate]
  exact fun ⟨_, isSlash⟩ => absurd isSlash (by decide)

theorem longName_holdsNull : Path.holdsNull longName = false := by
  rw [Path.holdsNull, longName, String.toList_ofList]
  decide

theorem longName_size : longName.utf8ByteSize = nameLimit := by
  decide +kernel

end MuxLaunch
