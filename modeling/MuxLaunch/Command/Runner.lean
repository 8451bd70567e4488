import MuxLaunch.Command.SetOption

/-! # Running commands

Commands act on the option trees. A command that fails may be reported at once, or its failure is
kept as a cause until the launch is over, so that one bad command stops no other.
-/

namespace MuxLaunch

/-- A failure that has been put off. -/
structure Cause where
  message : String
  command : List String
  deriving Repr, DecidableEq

/-- The trees that commands act on, and what they left behind. -/
structure CommandRunner where
  trees : OptionTrees
  causes : List Cause := []
  /-- The notes for the journal that have not been written yet. -/
  notes : List Note := []
  deriving Repr, DecidableEq

namespace CommandRunner

def setOptionNames : List String :=
  ["set-option", "set"]

def execute (ts : OptionTrees) (command : List String) :
    Except CommandFault (OptionTrees × List Note) :=
  match command with
  | [] => .error .empty
  | name :: words =>
      if setOptionNames.contains name then SetOption.run ts words
      else .error (.unknown name)

def note (r : CommandRunner) (n : Note) : CommandRunner :=
  { r with notes := r.notes ++ [n] }

def addCause (r : CommandRunner) (message : String) (command : List String) : CommandRunner :=
  let r := r.note ⟨.errorDeferred, "Deferred error: " ++ message⟩
  { r with causes := r.causes ++ [⟨message, command⟩] }

/-- Run a command and report its failure at once. -/
def run (r : CommandRunner) (command : List String) : Except CommandFault CommandRunner :=
  match execute r.trees command with
  | .error f => .error f
  | .ok (trees, notes) => .ok { r with trees, notes := r.notes ++ notes }

/-- Run a command and put its failure off, with the place that the command comes from. -/
def runDeferred (r : CommandRunner) (command : List String) (origin : Option String) :
    Bool × CommandRunner :=
  match r.run command with
  | .ok r => (true, r)
  | .error f =>
      let place := match origin with
        | none | some "" => ""
        | some origin => origin ++ ": "
      (false, r.addCause (place ++ f.message) command)

end CommandRunner

end MuxLaunch
