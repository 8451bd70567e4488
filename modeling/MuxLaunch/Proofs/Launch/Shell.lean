import MuxLaunch.Proofs.Launch.Trees

/-! # The shell in a context

The first usable shell that the environment or the user database offers is taken, and none that is
usable is the program itself. The fallback is taken without a look at it, so a launch chooses itself
exactly if the fallback is called like the program and nothing that is offered is usable.
-/

namespace MuxLaunch

namespace Shell

/-- The last part of the path is the name of the program, without the dash that marks a login. -/
def NamesProgram (shell program : String) : Prop :=
  ∃ name, Text.IsLastPart '/' name shell.toList ∧
    (program.toList = '-' :: name ∨ program.toList = name ∧ name.head? ≠ some '-')

theorem isSelf_iff (shell program : String) :
    isSelf shell program = true ↔ NamesProgram shell program := by
  unfold isSelf NamesProgram
  rw [decide_eq_true_iff, Text.afterLast_eq_iff]
  split
  · rename_i name isDashed
    constructor
    · intro isLast
      exact ⟨name, isLast, .inl isDashed⟩
    · rintro ⟨other, isLast, same | ⟨same, noDash⟩⟩
      · cases isDashed.symm.trans same
        exact isLast
      · rw [← same, isDashed] at noDash
        exact absurd rfl noDash
  · rename_i noDash
    constructor
    · intro isLast
      refine ⟨_, isLast, .inr ⟨rfl, fun isDash => ?_⟩⟩
      obtain ⟨rest, isDashed⟩ := List.head?_eq_some_iff.mp isDash
      exact noDash rest isDashed
    · rintro ⟨other, isLast, same | ⟨rfl, -⟩⟩
      · exact absurd same (noDash other)
      · exact isLast

variable {h : Host} {s : Storage} {e : Environ} {shell program fallback : String}

/-- The shells that are offered before the fallback. -/
def offers (h : Host) (s : Storage) (e : Environ) : List String :=
  (e.get? "SHELL").toList ++ ((owner? h s).map User.shell).toList

/-- The first offer that is usable is taken, or else the fallback as it is. -/
theorem resolve_eq (h : Host) (s : Storage) (e : Environ) (program fallback : String) :
    (resolve h s e program fallback).1 =
      ((offers h s e).find? fun shell => isUsable s (some shell) program).getD fallback := by
  have find?_toList : ∀ (offer : Option String) (more : List String),
      (offer.toList ++ more).find? (fun shell => isUsable s (some shell) program) =
        ((offer.filter fun shell => isUsable s (some shell) program) <|>
          more.find? fun shell => isUsable s (some shell) program) := by
    intro offer more
    cases offer with
    | none => rfl
    | some shell =>
        rw [Option.toList_some, List.singleton_append, List.find?_cons, Option.filter_some]
        cases isUsable s (some shell) program <;> rfl
  have own := find?_toList ((owner? h s).map User.shell) []
  rw [List.append_nil] at own
  rw [offers, find?_toList, own, resolve]
  cases (e.get? "SHELL").filter fun shell => isUsable s (some shell) program with
  | some shell => rfl
  | none =>
      cases ((owner? h s).map User.shell).filter fun shell => isUsable s (some shell) program <;>
        rfl

theorem isSelf_of_isUsable (usable : isUsable s (some shell) program = true) :
    isSelf shell program = false := by
  unfold isUsable at usable
  rw [Bool.and_eq_true, Bool.and_eq_true, Bool.not_eq_true'] at usable
  exact usable.1.2

/-- The program is its own shell exactly if the fallback is and no offer is usable. -/
theorem isSelf_resolve_iff :
    isSelf (resolve h s e program fallback).1 program = true ↔
      isSelf fallback program = true ∧
        ∀ shell ∈ offers h s e, isUsable s (some shell) program = false := by
  rw [resolve_eq]
  cases found : (offers h s e).find? fun shell => isUsable s (some shell) program with
  | none =>
      have unusable : ∀ shell ∈ offers h s e, isUsable s (some shell) program = false :=
        fun shell member => Bool.eq_false_iff.mpr (List.find?_eq_none.mp found shell member)
      exact (and_iff_left unusable).symm
  | some shell =>
      have usable := List.find?_some (p := fun shell => isUsable s (some shell) program) found
      refine iff_of_false ?_ fun ⟨_, unusable⟩ => ?_
      · rw [Option.getD_some, isSelf_of_isUsable usable]
        exact Bool.false_ne_true
      · rw [unusable shell (List.mem_of_find?_eq_some found)] at usable
        cases usable

end Shell

namespace Launch

open Shell

/-- A program chooses itself as its shell exactly if the fallback is called like it and no shell
    that is offered is usable. Its launches put into the session whatever is chosen. -/
theorem shell_isSelf_iff (program fallback : String) :
    (∀ (h : Host) (s : Storage) (e : Environ),
      isSelf (resolve h s e program fallback).1 program = true ↔
        isSelf fallback program = true ∧
          ∀ shell ∈ offers h s e, isUsable s (some shell) program = false) ∧
    ∀ {arguments : List String} {p : Profile} {setUp : Nat → Launch Unit} {user : Option Int}
      {directory : Option String} {m m' : Machine} {c : Context},
      startup arguments p setUp user directory m = .ok c m' →
      programName arguments = program → p.fallbackShell = fallback →
      ∃ m₁ shell, IsSetUp arguments setUp m m₁ ∧ m₁.environ = m'.environ ∧
        c.trees.session.value? "default-shell" = some (.text shell) ∧
        (NamesProgram shell program ↔
          NamesProgram fallback program ∧
            ∀ offer ∈ offers m₁.host m₁.storage m'.environ,
              isUsable m₁.storage (some offer) program = false) := by
  constructor
  · intro h s e
    exact isSelf_resolve_iff
  · rintro arguments p setUp user directory m m' c started rfl rfl
    obtain ⟨m₁, isSetUp, sameEnviron, holds⟩ := holdDefaultsBut_of_startup started
    refine ⟨m₁, _, isSetUp, sameEnviron, holds.shell, ?_⟩
    rw [← isSelf_iff, ← isSelf_iff]
    exact isSelf_resolve_iff

/-- The program is installed, and the environment names it as its shell. -/
def selfShelled : Machine :=
  { Machine.bare with
    storage := { Machine.bare.storage with
      files := Machine.bare.storage.files.set ["tmp", "tmate"] (.file 0o755 0 []) }
    environ := .ofList [("SHELL", "/tmp/tmate")] }

/-- The program is passed over for the fallback, even if a dash marks its name as a login. -/
theorem shell_passedOver :
    ∃ c m' shell, startup ["-tmate", "-S", "/s"] {} (fun _ => pure ()) none none selfShelled =
        .ok c m' ∧
      selfShelled.storage.isExecutable "/tmp/tmate" = true ∧
      c.trees.session.value? "default-shell" = some (.text shell) ∧
      ¬NamesProgram shell "-tmate" := by
  obtain ⟨c, m', started⟩ : ∃ c m', startup ["-tmate", "-S", "/s"] {} (fun _ => pure ()) none none
      selfShelled = .ok c m' := ⟨_, _, rfl⟩
  obtain ⟨_, shell, _, _, isShell, isSelf⟩ :=
    (shell_isSelf_iff "-tmate" "/bin/sh").2 started (by decide) rfl
  refine ⟨c, m', shell, started, by decide +kernel, isShell, fun names => ?_⟩
  have fallbackNames := (Shell.isSelf_iff _ _).mpr (isSelf.mp names).1
  exact absurd fallbackNames (by decide)

/-- A fallback that is called like the program becomes the shell of the session. -/
theorem shell_itself :
    ¬(∀ (h : Host) (s : Storage) (e : Environ) (program fallback : String),
      isSelf (resolve h s e program fallback).1 program = false) ∧
    ∃ c m', startup ["tmate", "-S", "/s"] { fallbackShell := "/usr/bin/tmate" }
        (fun _ => pure ()) none none .bare = .ok c m' ∧
      c.trees.session.value? "default-shell" = some (.text "/usr/bin/tmate") ∧
      NamesProgram "/usr/bin/tmate" "tmate" := by
  constructor
  · intro never
    have other := never Machine.bare.host Machine.bare.storage .empty "tmate" "/usr/bin/tmate"
    exact absurd other (by decide)
  · exact ⟨_, _, rfl, rfl, (Shell.isSelf_iff _ _).mp (by decide)⟩

end Launch

end MuxLaunch
