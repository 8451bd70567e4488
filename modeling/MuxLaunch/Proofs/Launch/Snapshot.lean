import MuxLaunch.Proofs.Launch.Trees

/-! # The environment in a context

The client gets the environment as the launch leaves it, with the working directory in it. Where no
working directory is known, the one that the environment has from elsewhere is passed on.
-/

namespace MuxLaunch

theorem Environ.get?_withDirectory (e : Environ) (directory : Option String) (name : String) :
    (e.withDirectory directory).get? name =
      if name = "PWD" then directory <|> e.get? "PWD" else e.get? name := by
  cases directory with
  | none =>
      split
      · rename_i isDirectory
        rw [isDirectory]
        rfl
      · rfl
  | some path => exact e.get?_set "PWD" path name

theorem OptionTrees.environ_atLaunch (e : Environ) (shell : String) (directory : Option String) :
    (atLaunch e shell directory).environ = e.withDirectory directory := by
  unfold atLaunch withEditorKeys
  cases KeyTable.ofEnviron? e <;> rfl

namespace Launch

variable {arguments : List String} {p : Profile} {setUp : Nat → Launch Unit} {user : Option Int}
  {directory : Option String} {m m' : Machine} {c : Context}

/-- Every launch that comes to a context hands on the environment that it leaves behind, without
    the mark of a session in the foreground. The directory in it is the one that is given, else the
    working directory, else the one that the environment has already; so there is one when no
    directory is known exactly if the environment has one. -/
theorem snapshot_of_startup (started : startup arguments p setUp user directory m = .ok c m') :
    (∀ name, name ≠ "PWD" → c.trees.environ.get? name = m'.environ.get? name) ∧
    c.trees.environ.get? "PWD" =
      (directory <|> m'.storage.workingDirectory <|> m'.environ.get? "PWD") ∧
    (c.trees.environ.get? "PWD" = (directory <|> m'.storage.workingDirectory) ↔
      directory ≠ none ∨ m'.storage.workingDirectory ≠ none ∨ m'.environ.get? "PWD" = none) ∧
    ((∀ verbosity, KeepsEnviron (setUp verbosity)) → 'F' ∈ CommandLine.lettersGiven arguments.tail →
      c.trees.environ.get? sessionMarker = none) := by
  obtain ⟨m₁, ⟨line, isRead, isSetUp⟩, sameEnviron, -, areTrees⟩ := trees_eq_of_startup started
  have isFound : ∀ name, c.trees.environ.get? name =
      if name = "PWD" then (directory <|> m'.storage.workingDirectory) <|> m'.environ.get? "PWD"
      else m'.environ.get? name := by
    intro name
    rw [areTrees, OptionTrees.environ_atLaunch, Environ.get?_withDirectory]
  have isDirectory := (isFound "PWD").trans (if_pos rfl)
  have others : ∀ name, name ≠ "PWD" → c.trees.environ.get? name = m'.environ.get? name :=
    fun name isOther => (isFound name).trans (if_neg isOther)
  refine ⟨others, ?_, ?_, fun keeps isGiven => ?_⟩
  · rw [isDirectory]
    cases directory <;> rfl
  · rw [isDirectory]
    cases directory with
    | some path => simp
    | none => cases m'.storage.workingDirectory <;> simp
  · have isForeground := (CommandLine.counts_of_ok isRead).foreground.mpr isGiven
    rw [others sessionMarker (by decide), ← sameEnviron,
      (keeps (verbosityOf line)).of_ok isSetUp, Machine.get?_leaving,
      if_pos ⟨isForeground, rfl⟩]

/-- The working directory has gone away, but the environment still has a name for it. -/
def strayed : Machine :=
  { Machine.bare with
    storage := { Machine.bare.storage with workingDirectory := none }
    environ := .ofList [("PWD", "/stale"), (sessionMarker, "/tmp/other,1,0")] }

/-- A directory that is given takes the place of a stale one. -/
theorem snapshot_given :
    ∃ c m', startup ["tmate", "-F", "-S", "/s"] {} (fun _ => pure ()) none (some "/work") strayed =
        .ok c m' ∧
      c.trees.environ.get? "PWD" = some "/work" ∧ c.trees.environ.get? sessionMarker = none := by
  obtain ⟨c, m', started⟩ : ∃ c m', startup ["tmate", "-F", "-S", "/s"] {}
      (fun _ => pure ()) none (some "/work") strayed = .ok c m' := ⟨_, _, rfl⟩
  obtain ⟨-, isDirectory, -, unmarked⟩ := snapshot_of_startup started
  exact ⟨c, m', started, isDirectory, unmarked (fun _ => keepsEnviron_pure ()) (by decide)⟩

/-- A stale directory is passed on when the working directory is not known. -/
theorem snapshot_stale :
    ∃ c m', startup ["tmate", "-S", "/s"] {} (fun _ => pure ()) none none strayed = .ok c m' ∧
      m'.storage.workingDirectory = none ∧ c.trees.environ.get? "PWD" = some "/stale" :=
  ⟨_, _, rfl, rfl, rfl⟩

end Launch

end MuxLaunch
