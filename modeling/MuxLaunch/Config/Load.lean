import MuxLaunch.Command.Runner
import MuxLaunch.Config.Lines
import MuxLaunch.Config.Words
import MuxLaunch.Files.Storage

/-! # Loading a configuration file

The commands of a configuration file are run one after another. Whatever is wrong with a line, or
with the file, becomes a cause and stops nothing else.
-/

namespace MuxLaunch.Config

/-- Run the commands of lines and count those that succeed. -/
def runLines (path : String) (r : CommandRunner) : List ConfigLine → Nat × CommandRunner
  | [] => (0, r)
  | line :: rest =>
      let origin := path ++ ":" ++ toString line.number
      match Words.ofLine line.text with
      | .error f => runLines path (r.addCause (origin ++ ": " ++ f.message) []) rest
      | .ok [] => runLines path r rest
      | .ok command =>
          let (succeeded, r) := r.runDeferred command (some origin)
          let (count, r) := runLines path r rest
          (if succeeded then count + 1 else count, r)

/-- Load a file and count the commands that succeed. A missing file is a cause unless it is
    optional. The only failure is a file that is no text. -/
def load (s : Storage) (path : String) (isOptional : Bool) (r : CommandRunner) :
    Except Text.Utf8.Fault (Nat × CommandRunner) :=
  match s.readText path with
  | .error (.encoding f) => .error f
  | .error (.file e) =>
      if e.error = .noEntry ∧ isOptional then .ok (0, r)
      else .ok (0, r.addCause (path ++ ": " ++ e.error.message) [])
  | .ok text =>
      .ok (runLines path (r.note ⟨.configFound, "Loading config file " ++ path⟩)
        (ConfigLine.ofText text))

def systemPath : String := "/etc/tmate.conf"

def userName : String := ".tmate.conf"

end MuxLaunch.Config
