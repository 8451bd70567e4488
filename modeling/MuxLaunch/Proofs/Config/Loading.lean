import MuxLaunch.Config.Load
import MuxLaunch.Proofs.Options.Puts

/-! # What commands and configuration files do to the trees

A command that succeeds puts at most one value, and one that fails puts none. So whatever is in a
configuration file, the trees afterwards come from those before by a number of puts.
-/

namespace MuxLaunch

namespace SetOption

variable {ts us : OptionTrees} {notes : List Note}

theorem assign_leads {fs : SetOptionFlags} {name : String} {value : Option String}
    (h : assign ts fs name value = .ok (us, notes)) : ts.Leads us := by
  unfold assign at h
  split at h
  · split at h
    · cases h
      exact .refl
    · cases h
  · rename_i scope _
    split at h
    · split at h
      · cases h
      · split at h
        · cases h
        · rename_i isReset
          cases h
          exact .put scope .refl (OptionTree.reset_isPut isReset)
    · split at h
      · cases h
      · rename_i isParsed
        cases h
        exact .put scope .refl (OptionTree.parse_isPut isParsed)

theorem run_leads {words : List String} (h : run ts words = .ok (us, notes)) : ts.Leads us := by
  unfold run at h
  split at h
  · cases h
  · cases h
  · exact assign_leads h
  · exact assign_leads h
  · cases h

end SetOption

/-- The cause that a failure leaves behind. A place that is not empty goes in front of its
    wording. -/
def Cause.ofFault (origin : Option String) (command : List String) (f : CommandFault) : Cause :=
  let place := origin.getD ""
  ⟨if place = "" then f.message else place ++ ": " ++ f.message, command⟩

namespace CommandRunner

theorem execute_leads {ts us : OptionTrees} {command : List String} {notes : List Note}
    (h : execute ts command = .ok (us, notes)) : ts.Leads us := by
  cases command with
  | nil => cases h
  | cons name words =>
      simp only [execute] at h
      split at h
      · exact SetOption.run_leads h
      · cases h

variable {r : CommandRunner} {command : List String}

theorem runDeferred_of_ok {us : OptionTrees} {notes : List Note}
    (executed : execute r.trees command = .ok (us, notes)) (origin : Option String) :
    r.runDeferred command origin = (true, { r with trees := us, notes := r.notes ++ notes }) := by
  simp only [runDeferred, run, executed]

theorem runDeferred_of_error {f : CommandFault} (refused : execute r.trees command = .error f)
    (origin : Option String) :
    r.runDeferred command origin =
      (false, r.addCause (Cause.ofFault origin command f).message command) := by
  simp only [runDeferred, run, refused]
  cases origin with
  | none => simp [Cause.ofFault]
  | some place =>
      by_cases isEmpty : place = ""
      · simp [Cause.ofFault, isEmpty]
      · simp [Cause.ofFault, isEmpty]

theorem runDeferred_leads (r : CommandRunner) (command : List String) (origin : Option String) :
    r.trees.Leads (r.runDeferred command origin).2.trees := by
  cases outcome : execute r.trees command with
  | error f =>
      rw [runDeferred_of_error outcome]
      exact .refl
  | ok done =>
      rw [runDeferred_of_ok outcome]
      exact execute_leads outcome

end CommandRunner

namespace Config

theorem runLines_leads (path : String) (r : CommandRunner) (lines : List ConfigLine) :
    r.trees.Leads (runLines path r lines).2.trees := by
  fun_induction runLines path r lines with
  | case1 r => exact .refl
  | case2 r line rest origin f isBad ih => exact ih
  | case3 r line rest isEmpty ih => exact ih
  | case4 r line rest origin command isCommand ne succeeded next isRun count last isRest ih =>
      have first := r.runDeferred_leads command (some origin)
      rw [isRun] at first
      rw [isRest] at ih
      exact first.trans ih

theorem runLines_append (path : String) (r : CommandRunner) (first second : List ConfigLine) :
    runLines path r (first ++ second) =
      ((runLines path r first).1 + (runLines path (runLines path r first).2 second).1,
        (runLines path (runLines path r first).2 second).2) := by
  fun_induction runLines path r first with
  | case1 r => simp
  | case2 r line rest origin f isBad ih =>
      simp only [List.cons_append, runLines, isBad]
      exact ih
  | case3 r line rest isEmpty ih =>
      simp only [List.cons_append, runLines, isEmpty]
      exact ih
  | case4 r line rest origin command isCommand ne succeeded next isRun count last isRest ih =>
      obtain ⟨name, words, rfl⟩ := List.exists_cons_of_ne_nil isCommand
      rw [isRest] at ih
      simp only [List.cons_append, runLines, ne]
      rw [isRun]
      simp only [ih]
      cases succeeded with
      | false => rfl
      | true => simp only [if_true, Nat.add_right_comm]

/-- Whatever a configuration file holds, it puts admitted values only. -/
theorem load_leads {s : Storage} {path : String} {isOptional : Bool} {r r' : CommandRunner}
    {count : Nat} (h : load s path isOptional r = .ok (count, r')) : r.trees.Leads r'.trees := by
  unfold load at h
  split at h
  · cases h
  · split at h
    · cases h
      exact .refl
    · cases h
      exact .refl
  · rename_i text _
    have lines := runLines_leads path (r.note ⟨.configFound, "Loading config file " ++ path⟩)
      (ConfigLine.ofText text)
    rw [Except.ok.inj h] at lines
    exact lines

/-- Loading fails for a file that is no text and for no other reason. -/
theorem load_eq_error {s : Storage} {path : String} {isOptional : Bool} {r : CommandRunner}
    {f : Text.Utf8.Fault} (h : load s path isOptional r = .error f) :
    s.readText path = .error (.encoding f) := by
  unfold load at h
  split at h
  · rename_i isRead
    rw [isRead, Except.error.inj h]
  · split at h
    · cases h
    · cases h
  · cases h

/-- What is reported about a file that cannot be read; nothing if it is missing and optional. -/
def unreadCause? (path : String) (isOptional : Bool) (e : Errno) : Option Cause :=
  if e = .noEntry ∧ isOptional then none else some ⟨path ++ ": " ++ e.message, []⟩

theorem load_of_unread {s : Storage} {path : String} {e : Errno} (unread : s.bytes path = .error e)
    (isOptional : Bool) (r : CommandRunner) :
    ∃ r', load s path isOptional r = .ok (0, r') ∧ r'.trees = r.trees ∧
      r'.causes = r.causes ++ (unreadCause? path isOptional e).toList := by
  have isUnread : s.readText path = .error (.file ⟨e, some path⟩) := by
    rw [Storage.readText, unread]
  rw [load, isUnread, unreadCause?]
  dsimp only
  split
  · exact ⟨r, rfl, rfl, (List.append_nil _).symm⟩
  · exact ⟨_, rfl, rfl, rfl⟩

theorem readText_of_undecodable {s : Storage} {path : String} {content : List UInt8}
    {f : Text.Utf8.Fault} (isFile : s.bytes path = .ok content)
    (isFaulty : Text.Utf8.decode content = .error f) :
    s.readText path = .error (.encoding f) := by
  simp only [Storage.readText, isFile, isFaulty]

end Config

end MuxLaunch
