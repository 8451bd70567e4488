import MuxLaunch.Journal.Format
import MuxLaunch.Files.Basic
import MuxLaunch.Yaml.Value

/-! # The journal

Where notes are written, and which of them.
-/

namespace MuxLaunch

/-- A journal writes to the error stream, and to a file if it has one. -/
structure Journal where
  /-- The least grave level that is written. -/
  level : Level
  format : String
  file : Option Location
  deriving Repr, DecidableEq

namespace Journal

/-- A setting names no file. -/
inductive FileFault where
  | notAPath
  deriving Repr, DecidableEq

/-- The file to write to: the one in the settings, a text or the bytes of one, or one of this
    process once the verbosity is raised. -/
def file? (program : String) (process : Int) (verbosity : Int) (setting : Yaml.Value) :
    Except FileFault (Option String) :=
  if setting.isTrue then
    match setting with
    | .scalar (.text path) => .ok (some path)
    | .scalar (.bytes path) => .ok (some (String.ofList (Text.Utf8.decodeLossy path)))
    | _ => .error .notAPath
  else if verbosity ≤ 0 then .ok none
  else
    let bare := String.ofList (program.toList.dropWhile (· = '-'))
    .ok (some (bare ++ "-client-" ++ toString process ++ ".log"))

/-- The line that the journal writes for a note, unless it passes the note over. -/
def line? (j : Journal) (process : Int) (n : Note) : Option String :=
  if n.level.number < j.level.number then none
  else (n.line? j.format process).map (· ++ "\n")

end Journal

end MuxLaunch
