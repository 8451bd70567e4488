import MuxLaunch.Proofs.Socket.RuntimeDirectory
import MuxLaunch.Socket.Basic

/-! # Locating a socket again

The first call may make the runtime directory, and the next one finds it there. Both check the same
files afterwards, so they come to the same path or the same fault, and the second changes nothing.
-/

namespace MuxLaunch

/-- What has been made cannot be made again. -/
theorem Storage.mkdir_again {s s' : Storage} {path : String} {mode : Nat}
    (made : s.mkdir path mode = .ok s') : s'.mkdir path mode = .error .fileExists := by
  obtain ⟨place, isLocated, missing, isNew⟩ := mkdir_ok.mp made
  obtain ⟨allowed, isLocated⟩ := locateNew_ok.mp isLocated
  have again : s'.locateNew path = .ok place := by
    rw [isNew]
    exact locateNew_ok.mpr ⟨allowed, Files.locateAlong_set missing isLocated⟩
  have isThere : s'.files.find? place =
      some (.directory (s.newMode place mode) s.user) := by
    rw [isNew]
    exact (Files.find?_set ..).trans (if_pos rfl)
  rw [mkdir, again]
  simp only [isThere, Option.isSome_some, if_true]

namespace RuntimeDirectory

variable {s s' : Storage} {path : String}

theorem attempt_again (attempted : attempt s path = .ok s') : attempt s' path = .ok s' := by
  have whole := attempted
  unfold attempt at attempted
  split at attempted
  · cases attempted
  · rename_i noNull
    split at attempted
    · rename_i made isMade
      obtain rfl := Except.ok.inj attempted
      rw [attempt, if_neg noNull, Storage.mkdir_again isMade]
      rfl
    · split at attempted
      · obtain rfl := Except.ok.inj attempted
        exact whole
      · cases attempted

theorem ensure_again (s : Storage) (path : String) (user : Int) :
    (ensure (ensure s path user).storage path user).result = (ensure s path user).result ∧
      (ensure (ensure s path user).storage path user).storage = (ensure s path user).storage := by
  obtain ⟨isResult, isStorage⟩ := ensure_eq s path user
  cases attempted : attempt s path with
  | error e =>
      simp only [attempted] at isStorage
      rw [isStorage]
      exact ⟨rfl, isStorage⟩
  | ok s' =>
      simp only [attempted] at isResult isStorage
      obtain ⟨isResult', isStorage'⟩ := ensure_eq s' path user
      simp only [attempt_again attempted] at isResult' isStorage'
      rw [isStorage, isResult, isResult', isStorage']
      exact ⟨rfl, rfl⟩

end RuntimeDirectory

namespace Socket

variable {s : Storage} {e : Environ} {user : Int} {r : SocketRequest}

/-- A label is drawn: nothing settles the path or the label, and there is a directory to look in. -/
structure DrawsLabel (s : Storage) (e : Environ) (user : Int) (r : SocketRequest) : Prop where
  unknown : known? e r = none
  noLabel : r.label = none
  byLot : r.randomLabel = true
  inDirectory : ∃ directory,
    (RuntimeDirectory.ensure s (RuntimeDirectory.path e r.directoryStart user) user).result =
      .ok directory

theorem label_of_settled {directory : String} (settled : r.label = none → r.randomLabel = false)
    (random : List Char) :
    label s directory r random = (some (r.label.getD defaultLabel), random) := by
  unfold label
  cases isLabel : r.label with
  | some name => rfl
  | none => simp [settled isLabel]

/-- What comes of a call that draws no label. The random characters play no part in it. -/
def settled (s : Storage) (e : Environ) (user : Int) (r : SocketRequest) :
    FileWork SocketFault String :=
  match known? e r with
  | some (path, notes) => ⟨.ok path, s, notes⟩
  | none =>
      let ensured := RuntimeDirectory.ensure s (RuntimeDirectory.path e r.directoryStart user) user
      match ensured.result with
      | .error f => ⟨.error (.directory f), ensured.storage, ensured.notes⟩
      | .ok directory =>
          ⟨.ok (directory ++ "/" ++ r.label.getD defaultLabel), ensured.storage, ensured.notes⟩

theorem locate_eq_settled (noDraw : ¬DrawsLabel s e user r) (random : List Char) :
    locate s e user r random = (settled s e user r, random) := by
  unfold locate settled
  cases unknown : known? e r with
  | some known => rfl
  | none =>
      dsimp only
      cases isEnsured : (RuntimeDirectory.ensure s
          (RuntimeDirectory.path e r.directoryStart user) user).result with
      | error f => rfl
      | ok directory =>
          have noLot : r.label = none → r.randomLabel = false := by
            intro noLabel
            cases byLot : r.randomLabel with
            | false => rfl
            | true => exact absurd ⟨unknown, noLabel, byLot, directory, isEnsured⟩ noDraw
          dsimp only
          rw [label_of_settled noLot]

theorem settled_storage (unknown : known? e r = none) :
    (settled s e user r).storage =
      (RuntimeDirectory.ensure s (RuntimeDirectory.path e r.directoryStart user) user).storage := by
  simp only [settled, unknown]
  split
  · rfl
  · rfl

theorem settled_again (s : Storage) (e : Environ) (user : Int) (r : SocketRequest) :
    (settled (settled s e user r).storage e user r).result = (settled s e user r).result ∧
      (settled (settled s e user r).storage e user r).storage = (settled s e user r).storage := by
  cases unknown : known? e r with
  | some known =>
      simp only [settled, unknown, and_self]
  | none =>
      obtain ⟨sameResult, sameStorage⟩ := RuntimeDirectory.ensure_again s
        (RuntimeDirectory.path e r.directoryStart user) user
      cases isEnsured : (RuntimeDirectory.ensure s
          (RuntimeDirectory.path e r.directoryStart user) user).result with
      | error f =>
          rw [isEnsured] at sameResult
          simp only [settled, unknown, isEnsured, sameResult, sameStorage, and_self]
      | ok directory =>
          rw [isEnsured] at sameResult
          simp only [settled, unknown, isEnsured, sameResult, sameStorage, and_self]

/-- A call that draws no label, made again at once, comes to the same path or the same fault and
    leaves the files as the first call left them. Neither uses up any random characters. -/
theorem locate_again (s : Storage) (e : Environ) (user : Int) (r : SocketRequest)
    (noDraw : ¬DrawsLabel s e user r) (random later : List Char) :
    (locate (locate s e user r random).1.storage e user r later).1.result =
        (locate s e user r random).1.result ∧
      (locate (locate s e user r random).1.storage e user r later).1.storage =
        (locate s e user r random).1.storage ∧
      (locate s e user r random).2 = random ∧
      (locate (locate s e user r random).1.storage e user r later).2 = later := by
  rw [locate_eq_settled noDraw random]
  dsimp only
  have noDrawAgain : ¬DrawsLabel (settled s e user r).storage e user r := by
    rintro ⟨unknown, noLabel, byLot, directory, isEnsured⟩
    refine noDraw ⟨unknown, noLabel, byLot, directory, ?_⟩
    rw [settled_storage unknown] at isEnsured
    rw [← isEnsured]
    exact (RuntimeDirectory.ensure_again s _ user).1.symm
  rw [locate_eq_settled noDrawAgain later]
  obtain ⟨sameResult, sameStorage⟩ := settled_again s e user r
  exact ⟨sameResult, sameStorage, rfl, rfl⟩

/-- The first call makes the directory and the second finds it. -/
theorem locate_again_made :
    (¬DrawsLabel (nested "a" 1) ⟨[("TMUX_TMPDIR", "/a")]⟩ 1000 ⟨none, some "work", "mux", true⟩) ∧
      (nested "a" 1).files.find? ["a", "mux-1000"] = none ∧
      ∃ s', s'.files.find? ["a", "mux-1000"] = some (.directory 0o700 1000) ∧
        (locate (nested "a" 1) ⟨[("TMUX_TMPDIR", "/a")]⟩ 1000 ⟨none, some "work", "mux", true⟩
          []).1.storage = s' ∧
        (locate s' ⟨[("TMUX_TMPDIR", "/a")]⟩ 1000 ⟨none, some "work", "mux", true⟩
          []).1.result = .ok "/a/mux-1000/work" ∧
        (locate s' ⟨[("TMUX_TMPDIR", "/a")]⟩ 1000 ⟨none, some "work", "mux", true⟩
          []).1.storage = s' := by
  have noDraw : ¬DrawsLabel (nested "a" 1) ⟨[("TMUX_TMPDIR", "/a")]⟩ 1000
      ⟨none, some "work", "mux", true⟩ := fun draws => nomatch draws.noLabel
  obtain ⟨sameResult, sameStorage, -, -⟩ := locate_again _ _ _ _ noDraw [] []
  exact ⟨noDraw, rfl, _, rfl, rfl, sameResult.trans rfl, sameStorage⟩

end Socket

end MuxLaunch
