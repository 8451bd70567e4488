import MuxLaunch.Proofs.Socket.Label

/-! # Labels drawn by lot

Labels are drawn block by block from random characters until nothing stands under one of them. The
look-up and the path handed out put directory and label together in two ways, which lead to the
same place.
-/

namespace MuxLaunch

open Files

theorem Path.normalize_ne_empty (path : String) : normalize path ≠ "" := by
  unfold normalize
  dsimp only
  split
  · decide
  · assumption

/-- A path that is joined to a directory leads where it leads behind a slash. -/
theorem Files.locate_join {files : Files} {workingDirectory : Option String} {follow : Bool}
    {directory name : String} {spot : Location} (nonempty : directory ≠ "")
    (isName : Path.IsName name)
    (isLocated : files.locate workingDirectory follow (directory ++ "/" ++ name) = .ok spot) :
    files.locate workingDirectory follow (Path.join directory name) = .ok spot := by
  have isRelative : Path.isAbsolute name = false := by
    rw [Path.isAbsolute, decide_eq_false_iff_not]
    intro isSlash
    exact isName.2 (List.mem_of_mem_head? isSlash)
  rw [Path.join, isRelative, if_neg (by decide)]
  by_cases ends : Path.endsWithSlash directory = true
  · rw [if_pos (.inr ends)]
    obtain ⟨before, isDirectory⟩ : ∃ before, directory = before ++ "/" := by
      obtain ⟨letters, isText⟩ := List.getLast?_eq_some_iff.mp (of_decide_eq_true ends)
      refine ⟨String.ofList letters, ?_⟩
      rw [← String.toList_inj, isText]
      simp
    subst isDirectory
    obtain ⟨-, short, start, isStart, walks⟩ := locate_eq_ok.mp isLocated
    have sameNames : Path.names (before ++ "/") = Path.names before := by
      have := Path.names_append before ""
      simpa [Path.names_empty] using this
    refine locate_eq_ok.mpr ⟨by simp, ?_, start, ?_, ?_⟩
    · rw [String.utf8ByteSize_append, String.utf8ByteSize_append] at short
      rw [String.utf8ByteSize_append]
      omega
    · rw [start?, Path.isAbsolute_entry nonempty] at isStart
      rwa [start?, Path.isAbsolute_append nonempty]
    · rw [Path.components_entry _ isName, sameNames] at walks
      rwa [Path.components_entry _ isName]
  · rw [if_neg (by simp [nonempty, ends])]
    exact isLocated

namespace Storage

variable {s : Storage}

theorem lstat_entry_error (noFailures : s.failing = []) {directory name : String}
    (nonempty : directory ≠ "") (isName : Path.IsName name) {e : Errno}
    (isFree : s.lstat (Path.join directory name) = .error e) :
    ∃ e', s.lstat (directory ++ "/" ++ name) = .error e' := by
  cases isNode : s.lstat (directory ++ "/" ++ name) with
  | error e' => exact ⟨e', rfl⟩
  | ok n =>
      obtain ⟨spot, isLocated, isFound⟩ := (node_eq_ok noFailures).mp isNode
      have isTaken : s.lstat (Path.join directory name) = .ok n :=
        (node_eq_ok noFailures).mpr ⟨spot, locate_join nonempty isName isLocated, isFound⟩
      rw [isTaken] at isFree
      cases isFree

theorem canonicalPath_ne_empty {path p : String} (isCanonical : s.canonicalPath path = .ok p) :
    p ≠ "" := by
  obtain ⟨⟨stem, _⟩, _, isPath⟩ := exceptBind_eq_ok.mp isCanonical
  have isAbsolute := exceptMapError_eq_ok.mp isPath
  unfold absolutePath at isAbsolute
  split at isAbsolute
  · cases isAbsolute
    exact Path.normalize_ne_empty _
  · split at isAbsolute
    · cases isAbsolute
    · cases isAbsolute
      exact Path.normalize_ne_empty _

end Storage

/-- A number ends with a digit. -/
theorem getLast?_toString (n : Int) :
    ∃ c, (toString n).toList.getLast? = some c ∧ c.isDigit = true := by
  have ofNat : ∀ n : Nat, ∃ c, n.repr.toList.getLast? = some c ∧ c.isDigit = true := by
    intro n
    rw [Nat.repr, String.toList_ofList, List.getLast?_eq_some_getLast Nat.toDigits_ne_nil]
    exact ⟨_, rfl, Nat.isDigit_of_mem_toDigits (by decide) (by decide) (List.getLast_mem _)⟩
  cases n with
  | ofNat n => exact ofNat n
  | negSucc n =>
      obtain ⟨c, isLast, isDigit⟩ := ofNat (n + 1)
      refine ⟨c, ?_, isDigit⟩
      rw [Int.toString_eq_repr, Int.repr, String.toList_append, List.getLast?_append, isLast]
      rfl

theorem RuntimeDirectory.endsWithSlash_path (e : Environ) (start : String) (user : Int) :
    Path.endsWithSlash (RuntimeDirectory.path e start user) = false := by
  obtain ⟨c, isLast, isDigit⟩ := getLast?_toString user
  rw [Path.endsWithSlash, decide_eq_false_iff_not, RuntimeDirectory.path, String.toList_append,
    List.getLast?_append, isLast]
  rintro ⟨⟩
  cases isDigit

/-- Nothing is made but the runtime directory, which stands where its path leads. -/
theorem RuntimeDirectory.storage_of_ensure_path (s : Storage) (e : Environ) (start : String)
    (user owner : Int) :
    let runtime := RuntimeDirectory.path e start user
    let after := (ensure s runtime owner).storage
    after = s ∨ ∃ spot, s.files.locate s.workingDirectory false runtime = .ok spot ∧
      s.files.find? spot = none ∧ after =
        { s with files := s.files.set spot (.directory (s.newMode spot 0o700) s.user) } := by
  intro runtime after
  rcases storage_of_ensure s runtime owner with same | ⟨spot, isLocated, missing, isMade⟩
  · exact .inl same
  · have located := (Storage.locateNew_ok.mp isLocated).2
    rw [s.newComponents_of_noSlash (endsWithSlash_path e start user)] at located
    exact .inr ⟨spot, located, missing, isMade⟩

theorem RuntimeDirectory.ne_empty_of_ensure {s : Storage} {path directory : String} {user : Int}
    (nonempty : path ≠ "") (isEnsured : (ensure s path user).result = .ok directory) :
    directory ≠ "" := by
  obtain ⟨n, -, -, -, -, isHandedOut⟩ := check_eq_ok (ensure_eq_ok isEnsured).2
  cases isCanonical : (ensure s path user).storage.canonicalPath path with
  | error e =>
      rw [isCanonical] at isHandedOut
      exact isHandedOut ▸ nonempty
  | ok p =>
      rw [isCanonical] at isHandedOut
      exact isHandedOut ▸ Storage.canonicalPath_ne_empty isCanonical

namespace Socket

variable {s : Storage} {directory label : String} {random rest : List Char}

/-- Something stands in the directory under the label. -/
def IsTaken (s : Storage) (directory label : String) : Prop :=
  ∃ n, s.lstat (Path.join directory label) = .ok n

/-- The labels have six characters each, and something stands under all of them. -/
def AreTaken (s : Storage) (directory : String) (labels : List String) : Prop :=
  ∀ label ∈ labels, label.length = 6 ∧ IsTaken s directory label

theorem drawLabel_block (s : Storage) (directory : String) (isBlock : label.length = 6)
    (random : List Char) :
    drawLabel s directory (label.toList ++ random) =
      match s.lstat (Path.join directory label) with
      | .ok _ => drawLabel s directory random
      | .error _ => (some label, random) := by
  rw [← String.length_toList] at isBlock
  match isText : label.toList, isBlock with
  | [a, b, c, d, e, f], _ =>
      have isLabel : label = String.ofList [a, b, c, d, e, f] := by
        rw [← isText, String.ofList_toList]
      subst isLabel
      exact drawLabel.eq_1 ..

theorem drawLabel_short (s : Storage) (directory : String) (short : random.length < 6) :
    drawLabel s directory random = (none, []) := by
  match random, short with
  | [], _ | [_], _ | [_, _], _ | [_, _, _], _ | [_, _, _, _], _ | [_, _, _, _, _], _ => rfl

theorem drawLabel_free (isBlock : label.length = 6) (isFree : ¬IsTaken s directory label)
    (random : List Char) :
    drawLabel s directory (label.toList ++ random) = (some label, random) := by
  rw [drawLabel_block s directory isBlock]
  cases isNode : s.lstat (Path.join directory label) with
  | ok n => exact absurd ⟨n, isNode⟩ isFree
  | error e => rfl

/-- Labels that are taken are drawn in vain. -/
theorem drawLabel_taken {labels : List String} (taken : AreTaken s directory labels)
    (random : List Char) :
    drawLabel s directory (labels.flatMap String.toList ++ random) =
      drawLabel s directory random := by
  induction labels with
  | nil => rfl
  | cons label labels ih =>
      obtain ⟨isBlock, n, isNode⟩ := taken label List.mem_cons_self
      rw [List.flatMap_cons, List.append_assoc, drawLabel_block s directory isBlock, isNode]
      exact ih fun other listed => taken other (List.mem_cons_of_mem _ listed)

/-- Random characters fall into blocks that are taken, up to one that is free or to their end. -/
theorem exists_blocks (s : Storage) (directory : String) (random : List Char) :
    ∃ taken, AreTaken s directory taken ∧
      ((∃ label rest, random = taken.flatMap String.toList ++ (label.toList ++ rest) ∧
          label.length = 6 ∧ ¬IsTaken s directory label) ∨
        ∃ left, random = taken.flatMap String.toList ++ left ∧ left.length < 6) := by
  -- A block takes six characters at once, so the induction is on how many there are.
  induction size : random.length using Nat.strongRecOn generalizing random with
  | ind length ih =>
      by_cases short : random.length < 6
      · exact ⟨[], nofun, .inr ⟨random, rfl, short⟩⟩
      · obtain ⟨label, isLabel⟩ : ∃ label : String, label.toList = random.take 6 :=
          ⟨String.ofList (random.take 6), String.toList_ofList⟩
        have isBlock : label.length = 6 := by
          rw [← String.length_toList, isLabel, List.length_take]
          omega
        have isWhole : random = label.toList ++ random.drop 6 := by
          rw [isLabel, List.take_append_drop]
        by_cases isTaken : IsTaken s directory label
        · obtain ⟨taken, areTaken, isRest⟩ := ih (random.drop 6).length
            (by rw [List.length_drop]; omega) (random.drop 6) rfl
          have allTaken : AreTaken s directory (label :: taken) :=
            List.forall_mem_cons.mpr ⟨⟨isBlock, isTaken⟩, areTaken⟩
          refine ⟨label :: taken, allTaken, ?_⟩
          rw [isWhole]
          rcases isRest with ⟨other, rest, isRest, isFree⟩ | ⟨left, isRest, short⟩
          · exact .inl ⟨other, rest, by rw [isRest, List.flatMap_cons, List.append_assoc], isFree⟩
          · exact .inr ⟨left, by rw [isRest, List.flatMap_cons, List.append_assoc], short⟩
        · exact ⟨[], nofun, .inl ⟨label, random.drop 6, isWhole, isBlock, isTaken⟩⟩

/-- The label that is drawn is the first free block, and what is left begins behind it. -/
theorem drawLabel_eq_some_iff :
    drawLabel s directory random = (some label, rest) ↔
      ∃ taken, random = taken.flatMap String.toList ++ (label.toList ++ rest) ∧
        AreTaken s directory taken ∧ label.length = 6 ∧ ¬IsTaken s directory label := by
  constructor
  · intro isDrawn
    obtain ⟨taken, areTaken, ⟨free, left, rfl, isBlock, isFree⟩ | ⟨left, rfl, short⟩⟩ :=
      exists_blocks s directory random
    · rw [drawLabel_taken areTaken, drawLabel_free isBlock isFree] at isDrawn
      cases isDrawn
      exact ⟨taken, rfl, areTaken, isBlock, isFree⟩
    · rw [drawLabel_taken areTaken, drawLabel_short s directory short] at isDrawn
      cases isDrawn
  · rintro ⟨taken, rfl, areTaken, isBlock, isFree⟩
    rw [drawLabel_taken areTaken, drawLabel_free isBlock isFree]

/-- No label is drawn when all blocks are taken, and then no character is left. -/
theorem drawLabel_eq_none_iff :
    drawLabel s directory random = (none, rest) ↔
      rest = [] ∧ ∃ taken left, random = taken.flatMap String.toList ++ left ∧
        AreTaken s directory taken ∧ left.length < 6 := by
  constructor
  · intro isDry
    obtain ⟨taken, areTaken, ⟨free, left, rfl, isBlock, isFree⟩ | ⟨left, rfl, short⟩⟩ :=
      exists_blocks s directory random
    · rw [drawLabel_taken areTaken, drawLabel_free isBlock isFree] at isDry
      cases isDry
    · rw [drawLabel_taken areTaken, drawLabel_short s directory short] at isDry
      cases isDry
      exact ⟨rfl, taken, left, rfl, areTaken, short⟩
  · rintro ⟨rfl, taken, left, rfl, areTaken, short⟩
    rw [drawLabel_taken areTaken, drawLabel_short s directory short]

/-- Letters and digits make a plain name. -/
theorem isPlain_of_isAlphanum (isBlock : label.length = 6)
    (alphanumeric : ∀ c ∈ label.toList, c.isAlphanum = true) : Path.IsPlain label := by
  have noSlash : '/' ∉ label.toList := fun member => absurd (alphanumeric '/' member) (by decide)
  refine ⟨⟨?_, noSlash⟩, ?_, ?_⟩
  · rintro rfl
    cases isBlock
  · rintro rfl
    cases isBlock
  · rintro rfl
    cases isBlock

theorem utf8ByteSize_ofList_le (text : List Char) :
    (String.ofList text).utf8ByteSize ≤ 4 * text.length := by
  induction text with
  | nil => decide
  | cons c text ih =>
      have isSplit : String.ofList (c :: text) = String.singleton c ++ String.ofList text := by
        rw [← String.toList_inj]
        simp
      have small := c.utf8Size_le_four
      rw [isSplit, String.utf8ByteSize_append, String.utf8ByteSize_singleton, List.length_cons]
      omega

variable {e : Environ} {user : Int} {start : String}

/-- What comes of a call that draws a label. -/
theorem locate_byLot (unmarked : inherited? e = none) (random : List Char) :
    locate s e user ⟨none, none, start, true⟩ random =
      let ensured := RuntimeDirectory.ensure s (RuntimeDirectory.path e start user) user
      match ensured.result with
      | .error f => (⟨.error (.directory f), ensured.storage, ensured.notes⟩, random)
      | .ok directory =>
          match drawLabel ensured.storage directory random with
          | (none, rest) => (⟨.error .exhausted, ensured.storage, ensured.notes⟩, rest)
          | (some label, rest) =>
              (⟨.ok (directory ++ "/" ++ label), ensured.storage, ensured.notes⟩, rest) := by
  have unknown : known? e ⟨none, none, start, true⟩ = none := by simp [known?, unmarked]
  unfold locate
  rw [unknown]
  rfl

theorem storage_byLot (unmarked : inherited? e = none) (random : List Char) :
    (locate s e user ⟨none, none, start, true⟩ random).1.storage =
      (RuntimeDirectory.ensure s (RuntimeDirectory.path e start user) user).storage := by
  rw [locate_byLot unmarked]
  dsimp only
  split
  · rfl
  · split <;> rfl

theorem locate_byLot_eq_ok {path : String} (unmarked : inherited? e = none) :
    (locate s e user ⟨none, none, start, true⟩ random).1.result = .ok path ↔
      ∃ directory label,
        (RuntimeDirectory.ensure s (RuntimeDirectory.path e start user) user).result =
          .ok directory ∧
        drawLabel (RuntimeDirectory.ensure s (RuntimeDirectory.path e start user) user).storage
            directory random =
          (some label, (locate s e user ⟨none, none, start, true⟩ random).2) ∧
        path = directory ++ "/" ++ label := by
  rw [locate_byLot unmarked]
  dsimp only
  cases isEnsured :
      (RuntimeDirectory.ensure s (RuntimeDirectory.path e start user) user).result with
  | error f => simp
  | ok directory =>
      dsimp only
      rcases isDrawn : drawLabel (RuntimeDirectory.ensure s (RuntimeDirectory.path e start user)
        user).storage directory random with ⟨_ | label, rest⟩
      · simp [isDrawn]
      · simp [isDrawn, eq_comm]

/-- Where a free label is put behind the runtime directory, no file is found. -/
theorem isFree_byLot (noFailures : s.failing = []) (isPlain : Path.IsPlain label)
    (short : label.utf8ByteSize ≤ nameLimit)
    (isEnsured : (RuntimeDirectory.ensure s (RuntimeDirectory.path e start user) user).result =
      .ok directory)
    (isFree : ¬IsTaken
      (RuntimeDirectory.ensure s (RuntimeDirectory.path e start user) user).storage
      directory label) :
    let after := (RuntimeDirectory.ensure s (RuntimeDirectory.path e start user) user).storage
    (∃ error, after.lstat (directory ++ "/" ++ label) = .error error) ∧
      (s.files.IsTree → s.HasCanonicalDirectory →
        ∃ spot, RuntimeDirectory.IsPrivate after.files spot user ∧
          (pathLimit < (directory ++ "/" ++ label).utf8ByteSize ∨
            after.files.find? (spot ++ [label]) = none)) := by
  intro after
  have sameFailures : after.failing = [] :=
    (RuntimeDirectory.failing_of_ensure s _ user).trans noFailures
  have nonempty : directory ≠ "" :=
    RuntimeDirectory.ne_empty_of_ensure (by simp [RuntimeDirectory.path]) isEnsured
  obtain ⟨error, isAbsent⟩ : ∃ error, after.lstat (directory ++ "/" ++ label) = .error error := by
    cases isNode : after.lstat (Path.join directory label) with
    | ok n => exact absurd ⟨n, isNode⟩ isFree
    | error error => exact Storage.lstat_entry_error sameFailures nonempty isPlain.isName isNode
  refine ⟨⟨error, isAbsent⟩, fun tree canonical => ?_⟩
  obtain ⟨spot, isPrivate, leads⟩ := RuntimeDirectory.entry_of_ensure tree canonical isEnsured
  refine ⟨spot, isPrivate, ?_⟩
  by_cases long : pathLimit < (directory ++ "/" ++ label).utf8ByteSize
  · exact .inl long
  · have isLocated := leads label isPlain
    rw [if_neg (not_or.mpr ⟨long, Nat.not_lt.mpr short⟩)] at isLocated
    cases isFound : after.files.find? (spot ++ [label]) with
    | none => exact .inr rfl
    | some n =>
        have isNode : after.lstat (directory ++ "/" ++ label) = .ok n :=
          (Storage.node_eq_ok sameFailures).mpr ⟨_, isLocated, isFound⟩
        rw [isNode] at isAbsent
        cases isAbsent

/-- Labels are drawn as blocks of six characters, one behind the other, up to the first under which
    nothing is found; without one the characters run out. So a socket whose label is drawn by lot
    stands in the runtime directory under six letters or digits, where there is nothing yet, and
    nothing but that directory is made on the way. -/
theorem locate_drawn (s : Storage) (random : List Char) :
    (∀ directory label rest, drawLabel s directory random = (some label, rest) ↔
      ∃ taken, random = taken.flatMap String.toList ++ (label.toList ++ rest) ∧
        AreTaken s directory taken ∧ label.length = 6 ∧ ¬IsTaken s directory label) ∧
    (∀ directory rest, drawLabel s directory random = (none, rest) ↔
      rest = [] ∧ ∃ taken left, random = taken.flatMap String.toList ++ left ∧
        AreTaken s directory taken ∧ left.length < 6) ∧
    ∀ e user start, inherited? e = none → s.failing = [] →
      (∀ c ∈ random, c.isAlphanum = true) →
      let runtime := RuntimeDirectory.path e start user
      let ensured := RuntimeDirectory.ensure s runtime user
      let located := locate s e user ⟨none, none, start, true⟩ random
      (located.1.storage = s ∨ ∃ spot, s.files.locate s.workingDirectory false runtime = .ok spot ∧
        s.files.find? spot = none ∧
          located.1.storage =
            { s with files := s.files.set spot (.directory (s.newMode spot 0o700) s.user) }) ∧
      (∀ path, located.1.result = .ok path ↔ ∃ directory label, ensured.result = .ok directory ∧
        drawLabel ensured.storage directory random = (some label, located.2) ∧
        path = directory ++ "/" ++ label) ∧
      ∀ path, located.1.result = .ok path → ∃ directory label,
        ensured.result = .ok directory ∧ path = directory ++ "/" ++ label ∧
        label.length = 6 ∧ (∀ c ∈ label.toList, c.isAlphanum = true) ∧
        (∃ error, located.1.storage.lstat path = .error error) ∧
        (s.files.IsTree → s.HasCanonicalDirectory →
          ∃ spot, RuntimeDirectory.IsPrivate located.1.storage.files spot user ∧
            (pathLimit < path.utf8ByteSize ∨
              located.1.storage.files.find? (spot ++ [label]) = none)) := by
  refine ⟨fun _ _ _ => drawLabel_eq_some_iff, fun _ _ => drawLabel_eq_none_iff, ?_⟩
  intro e user start unmarked noFailures alphanumeric
  dsimp only
  rw [storage_byLot unmarked]
  refine ⟨RuntimeDirectory.storage_of_ensure_path s e start user user,
    fun _ => locate_byLot_eq_ok unmarked, ?_⟩
  intro path isLocated
  obtain ⟨directory, label, isEnsured, isDrawn, rfl⟩ := (locate_byLot_eq_ok unmarked).mp isLocated
  obtain ⟨taken, isSplit, -, isBlock, isFree⟩ := drawLabel_eq_some_iff.mp isDrawn
  have letters : ∀ c ∈ label.toList, c.isAlphanum = true := fun c member =>
    alphanumeric c (by rw [isSplit]; simp [member])
  have short : label.utf8ByteSize ≤ nameLimit := by
    have size := utf8ByteSize_ofList_le label.toList
    rw [String.ofList_toList, String.length_toList, isBlock] at size
    exact Nat.le_trans size (by decide)
  obtain ⟨isAbsent, isVacant⟩ := isFree_byLot noFailures (isPlain_of_isAlphanum isBlock letters)
    short isEnsured isFree
  exact ⟨directory, label, isEnsured, rfl, isBlock, letters, isAbsent, isVacant⟩

/-- A runtime directory in which something stands under one label already. -/
def crowded : Storage :=
  { nested "a" 1 with
    files := ((nestedFiles "a" 1).set ["a", "mux-1000"] (.directory 0o700 1000)).set
      ["a", "mux-1000", "aaaaaa"] (.directory 0o755 0) }

/-- The label that is taken is passed over, and what has been drawn for it is used up. -/
theorem locate_drawn_crowded :
    inherited? ⟨[("TMUX_TMPDIR", "/a")]⟩ = none ∧ crowded.failing = [] ∧
      (∀ c ∈ "aaaaaaB1c2D3xy".toList, c.isAlphanum = true) ∧
      crowded.files.IsTree ∧ crowded.HasCanonicalDirectory ∧
      (locate crowded ⟨[("TMUX_TMPDIR", "/a")]⟩ 1000 ⟨none, none, "mux", true⟩
        "aaaaaaB1c2D3xy".toList).1.result = .ok "/a/mux-1000/B1c2D3" ∧
      (locate crowded ⟨[("TMUX_TMPDIR", "/a")]⟩ 1000 ⟨none, none, "mux", true⟩
        "aaaaaaB1c2D3xy".toList).2 = "xy".toList ∧
      ∃ spot, RuntimeDirectory.IsPrivate crowded.files spot 1000 ∧
        crowded.files.find? (spot ++ ["B1c2D3"]) = none := by
  have isPlain : Path.IsPlain "a" := ⟨⟨by decide, by decide⟩, by decide, by decide⟩
  have isPlainDirectory : Path.IsPlain "mux-1000" :=
    ⟨⟨by decide, by decide⟩, by decide, by decide⟩
  have isPlainLabel : Path.IsPlain "aaaaaa" := ⟨⟨by decide, by decide⟩, by decide, by decide⟩
  have tree : crowded.files.IsTree :=
    ((nestedFiles_isTree isPlain (by decide) 1).1.set
      ⟨["a"], "mux-1000", rfl, ⟨0o755, 0, rfl⟩, isPlainDirectory, by decide⟩ _ _).set
        ⟨["a", "mux-1000"], "aaaaaa", rfl, ⟨0o700, 1000, rfl⟩, isPlainLabel, by decide⟩ _ _
  have canonical : crowded.HasCanonicalDirectory := nested_hasCanonicalDirectory isPlain 1
  have unmarked : inherited? ⟨[("TMUX_TMPDIR", "/a")]⟩ = none := rfl
  have letters : ∀ c ∈ "aaaaaaB1c2D3xy".toList, c.isAlphanum = true :=
    List.all_eq_true.mp (by decide)
  obtain ⟨-, -, drawn⟩ := locate_drawn crowded "aaaaaaB1c2D3xy".toList
  obtain ⟨-, -, comes⟩ := drawn ⟨[("TMUX_TMPDIR", "/a")]⟩ 1000 "mux" unmarked rfl letters
  obtain ⟨directory, label, isEnsured, isPath, -, -, -, isVacant⟩ :=
    comes "/a/mux-1000/B1c2D3" rfl
  obtain rfl : "/a/mux-1000" = directory := Except.ok.inj isEnsured
  have isLabel : "B1c2D3" = label := by
    have isText : "/a/mux-1000/".toList ++ "B1c2D3".toList =
        "/a/mux-1000/".toList ++ label.toList := by
      simpa using congrArg String.toList isPath
    exact String.toList_inj.mp (List.append_cancel_left isText)
  obtain ⟨spot, isPrivate, long | isNone⟩ := isVacant tree canonical
  · exact absurd long (by decide)
  · exact ⟨unmarked, rfl, letters, tree, canonical, rfl, rfl, spot, isPrivate, isLabel ▸ isNone⟩

end Socket

end MuxLaunch
