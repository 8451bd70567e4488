import MuxLaunch.Proofs.Files.Entry
import MuxLaunch.Proofs.Socket.RuntimeDirectory
import MuxLaunch.Socket.Basic

/-! # Labels

A label is put behind the path of the runtime directory as it is. The socket is an entry of the
directory that was checked when the label is a plain name, and only then.
-/

namespace MuxLaunch

open Files

namespace RuntimeDirectory

variable {s : Storage} {path directory : String} {user : Int}

/-- A real directory of the user's that is closed to all others. -/
def IsPrivate (files : Files) (spot : Location) (user : Int) : Prop :=
  ∃ n, files.find? spot = some n ∧ n.isDirectory = true ∧ n.owner = user ∧ n.isShared = false

theorem isPrivate_of_check (tree : s.files.IsTree) (canonical : s.HasCanonicalDirectory)
    (checked : (check s path user).1 = .ok directory) :
    ∃ spot, IsPrivate s.files spot user ∧ s.files.IsDirectory spot ∧
      (pathLimit < directory.utf8ByteSize ∨
        s.files.locate s.workingDirectory true directory = .ok spot) := by
  obtain ⟨n, isNode, isKind, isOwn, isClosed, isHandedOut⟩ := check_eq_ok checked
  obtain ⟨spot, isLocated, isFound⟩ := Storage.locate_of_node isNode
  have isDirectory := isDirectory_of_kind isFound isKind
  refine ⟨spot, ⟨n, isFound, isKind, isOwn, isClosed⟩, isDirectory, ?_⟩
  have leads := canonicalPath_leads tree canonical isLocated isDirectory isHandedOut
  split at leads
  · rename_i long
    exact .inl long.2
  · exact .inr (leads true)

/-- The directory that is handed out is private, and a plain name behind its path is looked up in
    it. -/
theorem entry_of_ensure (tree : s.files.IsTree) (canonical : s.HasCanonicalDirectory)
    (isEnsured : (ensure s path user).result = .ok directory) :
    ∃ spot, IsPrivate (ensure s path user).storage.files spot user ∧
      ∀ name, Path.IsPlain name →
        (ensure s path user).storage.files.locate (ensure s path user).storage.workingDirectory
            false (directory ++ "/" ++ name) =
          if pathLimit < (directory ++ "/" ++ name).utf8ByteSize ∨
              nameLimit < name.utf8ByteSize then
            .error .nameTooLong
          else .ok (spot ++ [name]) := by
  obtain ⟨attempted, checked⟩ := ensure_eq_ok isEnsured
  obtain ⟨tree', canonical'⟩ := attempt_keeps tree canonical attempted
  obtain ⟨spot, isPrivate, isDirectory, leads⟩ := isPrivate_of_check tree' canonical' checked
  refine ⟨spot, isPrivate, fun name isPlain => ?_⟩
  rcases leads with long | isLocated
  · have longer : pathLimit < (directory ++ "/" ++ name).utf8ByteSize := by
      rw [String.utf8ByteSize_append, String.utf8ByteSize_append]
      omega
    rw [if_pos (.inl longer), locate_of_long longer]
  · exact locate_entry isLocated isDirectory isPlain

end RuntimeDirectory

namespace Socket

/-- With a label the socket is put into the runtime directory that is handed out. Its path is that
    of an entry of this directory exactly when the label is a plain name, and then it leads to the
    entry of that name in a private directory, unless it is too long to be looked up. -/
theorem locate_labelled (s : Storage) (e : Environ) (user : Int) (label start : String)
    (randomLabel : Bool) (random : List Char) :
    let located := (locate s e user ⟨none, some label, start, randomLabel⟩ random).1
    match (RuntimeDirectory.ensure s (RuntimeDirectory.path e start user) user).result with
    | .error f => located.result = .error (.directory f)
    | .ok directory =>
        located.result = .ok (directory ++ "/" ++ label) ∧
          (Path.IsEntryOf (directory ++ "/" ++ label) directory ↔ Path.IsPlain label) ∧
          (s.files.IsTree → s.HasCanonicalDirectory → Path.IsPlain label →
            ∃ spot, RuntimeDirectory.IsPrivate located.storage.files spot user ∧
              located.storage.files.locate located.storage.workingDirectory false
                  (directory ++ "/" ++ label) =
                if pathLimit < (directory ++ "/" ++ label).utf8ByteSize ∨
                    nameLimit < label.utf8ByteSize then
                  .error .nameTooLong
                else .ok (spot ++ [label])) := by
  have unknown : known? e ⟨none, some label, start, randomLabel⟩ = none := rfl
  unfold locate
  rw [unknown]
  dsimp only
  cases isEnsured :
      (RuntimeDirectory.ensure s (RuntimeDirectory.path e start user) user).result with
  | error f => rfl
  | ok directory =>
      refine ⟨rfl, Path.isEntryOf_iff directory label, fun tree canonical isPlain => ?_⟩
      obtain ⟨spot, isPrivate, leads⟩ := RuntimeDirectory.entry_of_ensure tree canonical isEnsured
      exact ⟨spot, isPrivate, leads label isPlain⟩

theorem locate_labelled_plain :
    Path.IsPlain "work" ∧ (nested "a" 1).files.IsTree ∧ (nested "a" 1).HasCanonicalDirectory ∧
      ∃ located, (locate (nested "a" 1) ⟨[("TMUX_TMPDIR", "/a")]⟩ 1000
          ⟨none, some "work", "mux", false⟩ []).1 = located ∧
        located.result = .ok "/a/mux-1000/work" ∧
        Path.IsEntryOf "/a/mux-1000/work" "/a/mux-1000" ∧
        ∃ spot, RuntimeDirectory.IsPrivate located.storage.files spot 1000 ∧
          located.storage.files.locate (some "/a") false "/a/mux-1000/work" =
            .ok (spot ++ ["work"]) := by
  have isPlain : Path.IsPlain "a" := ⟨⟨by decide, by decide⟩, by decide, by decide⟩
  have isPlainLabel : Path.IsPlain "work" := ⟨⟨by decide, by decide⟩, by decide, by decide⟩
  have tree := (nestedFiles_isTree isPlain (by decide) 1).1
  have canonical := nested_hasCanonicalDirectory isPlain 1
  have labelled := locate_labelled (nested "a" 1) ⟨[("TMUX_TMPDIR", "/a")]⟩ 1000 "work" "mux" false
    []
  have isEnsured : (RuntimeDirectory.ensure (nested "a" 1)
      (RuntimeDirectory.path ⟨[("TMUX_TMPDIR", "/a")]⟩ "mux" 1000) 1000).result =
      .ok "/a/mux-1000" := rfl
  rw [isEnsured] at labelled
  obtain ⟨isPath, isEntry, leads⟩ := labelled
  obtain ⟨spot, isPrivate, isLocated⟩ := leads tree canonical isPlainLabel
  rw [if_neg (by decide)] at isLocated
  exact ⟨isPlainLabel, tree, canonical, _, rfl, isPath, isEntry.mpr isPlainLabel, spot, isPrivate,
    isLocated⟩

/-- A label with a double dot leads out of the directory that was checked, into one that was not. -/
theorem locate_labelled_upwards :
    ∃ located, (locate (nested "a" 1) ⟨[("TMUX_TMPDIR", "/a")]⟩ 1000
        ⟨none, some "../x", "mux", false⟩ []).1 = located ∧
      located.result = .ok "/a/mux-1000/../x" ∧
      (RuntimeDirectory.ensure (nested "a" 1) "/a/mux-1000" 1000).result = .ok "/a/mux-1000" ∧
      ¬Path.IsEntryOf "/a/mux-1000/../x" "/a/mux-1000" ∧
      located.storage.files.locate (some "/a") false "/a/mux-1000/../x" = .ok ["a", "x"] ∧
      ¬RuntimeDirectory.IsPrivate located.storage.files ["a"] 1000 := by
  refine ⟨_, rfl, rfl, rfl, ?_, rfl, ?_⟩
  · intro isEntry
    have isPlain := (Path.isEntryOf_iff "/a/mux-1000" "../x").mp isEntry
    exact absurd (by decide) isPlain.isName.2
  · rintro ⟨n, isFound, -, isOwn, -⟩
    cases isFound
    exact absurd isOwn (by decide)

end Socket

end MuxLaunch
