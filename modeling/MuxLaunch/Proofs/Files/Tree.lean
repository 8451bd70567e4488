import MuxLaunch.Files.Lookup
import MuxLaunch.Proofs.Files.Path

/-! # Trees of files

In a tree of files every node lies in a directory, so all that a location lies in are directories.
-/

namespace MuxLaunch.Files

variable {files : Files} {spot : Location}

/-- Every node lies in a directory, under a name that a node may have. -/
structure IsTree (files : Files) : Prop where
  parent : ∀ spot name, (files.find? (spot ++ [name])).isSome →
    ∃ mode owner, files.find? spot = some (.directory mode owner)
  plain : ∀ spot name, (files.find? (spot ++ [name])).isSome → Path.IsPlain name
  short : ∀ spot name, (files.find? (spot ++ [name])).isSome → name.utf8ByteSize ≤ nameLimit

def IsDirectory (files : Files) (spot : Location) : Prop :=
  ∃ mode owner, files.find? spot = some (.directory mode owner)

def IsLink (files : Files) (spot : Location) : Prop :=
  ∃ owner target, files.find? spot = some (.link owner target)

theorem isDirectory_of_kind {n : Node} (isFound : files.find? spot = some n)
    (isKind : n.isDirectory = true) : files.IsDirectory spot := by
  cases n with
  | directory mode owner => exact ⟨mode, owner, isFound⟩
  | file => cases isKind
  | link => cases isKind

theorem IsDirectory.not_isLink (isDirectory : files.IsDirectory spot) : ¬files.IsLink spot := by
  rintro ⟨_, _, isLink⟩
  obtain ⟨_, _, isDirectory⟩ := isDirectory
  rw [isDirectory] at isLink
  cases isLink

theorem IsDirectory.isSome (isDirectory : files.IsDirectory spot) : (files.find? spot).isSome := by
  obtain ⟨_, _, isDirectory⟩ := isDirectory
  rw [isDirectory]
  rfl

theorem IsTree.isDirectory_of_append (tree : files.IsTree) {below : List String}
    (nonempty : below ≠ []) (isPresent : (files.find? (spot ++ below)).isSome) :
    files.IsDirectory spot := by
  induction below generalizing spot with
  | nil => exact absurd rfl nonempty
  | cons name rest ih =>
      by_cases isLast : rest = []
      · subst isLast
        exact tree.parent spot name isPresent
      · rw [List.append_cons] at isPresent
        exact tree.parent spot name (ih isLast isPresent).isSome

theorem IsTree.isDirectory_dropLast (tree : files.IsTree) (isDirectory : files.IsDirectory spot) :
    files.IsDirectory spot.dropLast := by
  rcases List.eq_nil_or_concat spot with rfl | ⟨before, name, rfl⟩
  · exact isDirectory
  · rw [List.concat_eq_append] at isDirectory ⊢
    rw [List.dropLast_concat]
    exact tree.isDirectory_of_append (List.cons_ne_nil _ _) isDirectory.isSome

theorem IsTree.isDirectory_root (tree : files.IsTree) (isDirectory : files.IsDirectory spot) :
    files.IsDirectory [] := by
  by_cases isRoot : spot = []
  · exact isRoot ▸ isDirectory
  · have isPresent : (files.find? ([] ++ spot)).isSome := isDirectory.isSome
    exact tree.isDirectory_of_append isRoot isPresent

theorem IsTree.plain_of_mem (tree : files.IsTree) (isPresent : (files.find? spot).isSome) :
    ∀ name ∈ spot, Path.IsPlain name := by
  intro name member
  obtain ⟨before, after, rfl⟩ := List.append_of_mem member
  rw [List.append_cons] at isPresent
  by_cases isLast : after = []
  · rw [isLast, List.append_nil] at isPresent
    exact tree.plain before name isPresent
  · exact tree.plain before name (tree.isDirectory_of_append isLast isPresent).isSome

/-- Directories stay directories when one more is put among the files. -/
theorem IsDirectory.set (isDirectory : files.IsDirectory spot) (place : Location) (mode : Nat)
    (owner : Int) : (files.set place (.directory mode owner)).IsDirectory spot := by
  obtain ⟨mode', owner', isDirectory⟩ := isDirectory
  unfold IsDirectory
  rw [find?_set]
  split
  · exact ⟨mode, owner, rfl⟩
  · exact ⟨mode', owner', isDirectory⟩

/-- A place in a directory where a node may be put. -/
def IsVacancy (files : Files) (spot : Location) : Prop :=
  ∃ directory name, spot = directory ++ [name] ∧ files.IsDirectory directory ∧
    Path.IsPlain name ∧ name.utf8ByteSize ≤ nameLimit

/-- A tree stays one when a directory is put where there is room for it. -/
theorem IsTree.set (tree : files.IsTree) (vacancy : files.IsVacancy spot) (mode : Nat)
    (owner : Int) : (files.set spot (.directory mode owner)).IsTree := by
  obtain ⟨directory, name, rfl, isDirectory, isPlain, isShort⟩ := vacancy
  have isOld : ∀ l x, ((files.set (directory ++ [name]) (.directory mode owner)).find?
      (l ++ [x])).isSome → l ++ [x] = directory ++ [name] ∨ (files.find? (l ++ [x])).isSome := by
    intro l x isPresent
    rw [find?_set] at isPresent
    split at isPresent
    · rename_i same
      exact .inl same
    · exact .inr isPresent
  have stays : ∀ l, files.IsDirectory l →
      (files.set (directory ++ [name]) (.directory mode owner)).IsDirectory l :=
    fun _ isDirectory => isDirectory.set _ mode owner
  constructor
  · intro l x isPresent
    rcases isOld l x isPresent with same | isPresent
    · rw [(List.append_inj' same rfl).1]
      exact stays directory isDirectory
    · exact stays l (tree.parent l x isPresent)
  · intro l x isPresent
    rcases isOld l x isPresent with same | isPresent
    · rw [(List.cons.inj (List.append_inj' same rfl).2).1]
      exact isPlain
    · exact tree.plain l x isPresent
  · intro l x isPresent
    rcases isOld l x isPresent with same | isPresent
    · rw [(List.cons.inj (List.append_inj' same rfl).2).1]
      exact isShort
    · exact tree.short l x isPresent

end MuxLaunch.Files
