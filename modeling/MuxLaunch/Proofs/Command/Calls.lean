import MuxLaunch.Proofs.Command.Edit

/-! # Calls of a runner

A caller of a runner gets failures at once or has them put off. Either way the trees become what
the edit of the command says, and a command that fails leaves them as they were.
-/

namespace MuxLaunch

inductive FailureMode where
  | raise
  /-- Keep a failure as a cause, with the place that the command comes from. -/
  | defer (origin : Option String)
  deriving Repr, DecidableEq

structure CommandCall where
  command : List String
  mode : FailureMode
  deriving Repr, DecidableEq

/-- What the caller of a runner gets. -/
structure CallOutcome where
  result : Except CommandFault Bool
  /-- The causes that the call adds. -/
  causes : List Cause

namespace CommandCall

def perform (call : CommandCall) (r : CommandRunner) : CallOutcome × CommandRunner :=
  match call.mode with
  | .raise =>
      match r.run call.command with
      | .ok next => (⟨.ok true, []⟩, next)
      | .error f => (⟨.error f, []⟩, r)
  | .defer origin =>
      let (succeeded, next) := r.runDeferred call.command origin
      (⟨.ok succeeded, next.causes.drop r.causes.length⟩, next)

/-- What a failure comes to. A place that is not empty goes in front of the message. -/
def failure (call : CommandCall) (f : CommandFault) : CallOutcome :=
  match call.mode with
  | .raise => ⟨.error f, []⟩
  | .defer origin =>
      let place := match origin with
        | none | some "" => ""
        | some origin => origin ++ ": "
      ⟨.ok false, [⟨place ++ f.message, call.command⟩]⟩

theorem failure_defer (command : List String) (origin : Option String) (f : CommandFault) :
    failure ⟨command, .defer origin⟩ f = ⟨.ok false, [.ofFault origin command f]⟩ := by
  cases origin with
  | none => simp [failure, Cause.ofFault]
  | some place =>
      by_cases isEmpty : place = ""
      · simp [failure, Cause.ofFault, isEmpty]
      · simp [failure, Cause.ofFault, isEmpty]

/-- What an edit comes to for the caller. -/
def outcome (call : CommandCall) : Except CommandFault Edit → CallOutcome
  | .ok _ => ⟨.ok true, []⟩
  | .error f => call.failure f

/-- The edit that a call makes of the trees of a runner. -/
def edit (call : CommandCall) (ts : OptionTrees) : Except CommandFault Edit :=
  Edit.ofCommand ts.held? call.command

/-- The value that a call puts for an option, if it puts any. -/
def change (call : CommandCall) (ts : OptionTrees) : Option (OptionEntry × OptionValue) :=
  match call.edit ts with
  | .ok edit => edit.change
  | .error _ => none

variable {r : CommandRunner} {call : CommandCall}

theorem perform_of_ok {ts : OptionTrees} {notes : List Note}
    (done : CommandRunner.execute r.trees call.command = .ok (ts, notes)) :
    call.perform r = (⟨.ok true, []⟩, { r with trees := ts, notes := r.notes ++ notes }) := by
  obtain ⟨command, mode⟩ := call
  cases mode with
  | raise => simp only [perform, CommandRunner.run, done]
  | defer origin =>
      simp only [perform, CommandRunner.runDeferred_of_ok done]
      rw [List.drop_length]

theorem perform_of_error {f : CommandFault}
    (failed : CommandRunner.execute r.trees call.command = .error f) :
    (call.perform r).1 = call.failure f ∧ (call.perform r).2.trees = r.trees := by
  obtain ⟨command, mode⟩ := call
  cases mode with
  | raise =>
      simp only [perform, CommandRunner.run, failed]
      exact ⟨rfl, trivial⟩
  | defer origin =>
      simp only [perform, CommandRunner.runDeferred_of_error failed, failure_defer,
        CommandRunner.addCause, CommandRunner.note, List.drop_left]
      exact ⟨rfl, trivial⟩

/-- Whichever way failures are dealt with, the trees are written as the edit says. -/
theorem perform_eq (filled : r.trees.IsFilled) (call : CommandCall) :
    (call.perform r).1 = call.outcome (call.edit r.trees) ∧
    (call.perform r).2.trees = r.trees.write (call.change r.trees) := by
  have executed := CommandRunner.execute_eq filled call.command
  unfold change edit
  cases isEdit : Edit.ofCommand r.trees.held? call.command with
  | ok edit =>
      rw [isEdit] at executed
      rw [perform_of_ok executed]
      exact ⟨rfl, rfl⟩
  | error f =>
      rw [isEdit] at executed
      exact perform_of_error executed

theorem perform_leads (call : CommandCall) (r : CommandRunner) :
    r.trees.Leads (call.perform r).2.trees := by
  cases executed : CommandRunner.execute r.trees call.command with
  | ok done =>
      rw [perform_of_ok executed]
      exact CommandRunner.execute_leads executed
  | error f =>
      rw [(perform_of_error executed).2]
      exact .refl

end CommandCall

/-- The states of a runner that calls lead to from the start of a launch, whether or not the key
    tables are taken from the environment. -/
inductive CommandRunner.IsReached : CommandRunner → Prop
  | launched (e : Environ) (shell : String) (directory : Option String) :
      IsReached ⟨.initial e shell directory, [], []⟩
  | keyed {r : CommandRunner} (e : Environ) :
      IsReached r → IsReached { r with trees := (r.trees.withEditorKeys e).1 }
  | called {r : CommandRunner} (call : CommandCall) :
      IsReached r → IsReached (call.perform r).2

theorem CommandRunner.IsReached.isFilled {r : CommandRunner} (reached : r.IsReached) :
    r.trees.IsFilled := by
  induction reached with
  | launched e shell directory => exact OptionTrees.isFilled_initial e shell directory
  | keyed e _ ih => exact ih.withEditorKeys e
  | called call _ ih => exact (call.perform_leads _).isFilled ih

end MuxLaunch
