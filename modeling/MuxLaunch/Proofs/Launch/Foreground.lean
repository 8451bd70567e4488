import MuxLaunch.Proofs.Environ.Order
import MuxLaunch.Proofs.Flags.Given
import MuxLaunch.Proofs.Launch.Stages

/-! # Launches in the foreground

A launch in the foreground leaves the session that it was started from before it looks at anything
else. So nothing that it does, in success or in failure, tells whether there was one.
-/

namespace MuxLaunch.Launch

/-- In the foreground two environments that differ only in the mark of a session lead to the same
    outcome, whatever it is, on the same machine, and no session is marked there any more. -/
theorem startup_foreground (arguments : List String) (p : Profile) (setUp : Nat → Launch Unit)
    (user : Option Int) (directory : Option String) {line : CommandLine} {m : Machine}
    {name : String} {e e' : Environ} (established : m.host.locales.establish.result = .ok name)
    (isRead : CommandLine.ofWords arguments.tail = .ok line)
    (isGiven : 'F' ∈ CommandLine.lettersGiven arguments.tail)
    (sorted : e.IsSorted) (sorted' : e'.IsSorted)
    (same : ∀ other, other ≠ sessionMarker → e.get? other = e'.get? other) :
    startup arguments p setUp user directory (m.withEnviron e) =
        startup arguments p setUp user directory (m.withEnviron e') ∧
      ((∀ verbosity, KeepsEnviron (setUp verbosity)) → ∀ other,
        (machineAfter
            (startup arguments p setUp user directory (m.withEnviron e))).environ.get? other =
          if other = sessionMarker then none else e.get? other) := by
  have isForeground := (CommandLine.counts_of_ok isRead).foreground.mpr isGiven
  have settles : ∀ e, startup arguments p setUp user directory (m.withEnviron e) =
      settleContext arguments p setUp user directory line
        ((m.noteAll m.host.locales.establish.notes).withEnviron (e.unset sessionMarker)) := by
    intro e
    have started : startup arguments p setUp user directory (m.withEnviron e) =
        settleContext arguments p setUp user directory line
          (((m.withEnviron e).noteAll m.host.locales.establish.notes).leaving line) :=
      startup_of_read established isRead
    rw [started, Machine.noteAll_withEnviron, Machine.leaving_of_foreground isForeground]
    rfl
  constructor
  · rw [settles, settles, sorted.unset_eq sorted' same]
  · intro keeps other
    rw [settles, keepsEnviron_settleContext keeps]
    exact Environ.get?_unset e sessionMarker other

/-- A launch in the foreground from within a session makes a socket of its own, as it would outside
    of any. -/
theorem startup_foreground_within :
    startup ["tmate", "-vF"] {} (setUpJournal {} none "tmate") none none
        (Machine.bare.withEnviron (.ofList [("LANG", "C"), ("TMUX", "/tmp/other,1,0")])) =
      startup ["tmate", "-vF"] {} (setUpJournal {} none "tmate") none none
        (Machine.bare.withEnviron (.ofList [("LANG", "C")])) ∧
    (machineAfter (startup ["tmate", "-vF"] {} (setUpJournal {} none "tmate") none none
        (Machine.bare.withEnviron
          (.ofList [("LANG", "C"), ("TMUX", "/tmp/other,1,0")])))).environ.get? "TMUX" = none := by
  have isRead : CommandLine.ofWords ["-vF"] = .ok { verbosity := 1, foreground := true } := rfl
  have isGiven : 'F' ∈ CommandLine.lettersGiven ["-vF"] := by decide
  have same : ∀ other, other ≠ sessionMarker →
      (Environ.ofList [("LANG", "C"), ("TMUX", "/tmp/other,1,0")]).get? other =
        (Environ.ofList [("LANG", "C")]).get? other := by
    intro other isOther
    exact (Environ.get?_set _ "TMUX" _ other).trans (if_neg isOther)
  have established : Machine.bare.host.locales.establish.result = .ok "C.UTF-8" := rfl
  obtain ⟨sameOutcome, unmarked⟩ := startup_foreground ["tmate", "-vF"] {}
    (setUpJournal {} none "tmate") none none established isRead isGiven
    (Environ.isSorted_ofList _) (Environ.isSorted_ofList _) same
  exact ⟨sameOutcome, unmarked (keepsEnviron_setUpJournal {} none "tmate") "TMUX"⟩

end MuxLaunch.Launch
