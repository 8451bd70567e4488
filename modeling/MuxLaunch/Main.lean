import MuxLaunch.Launch.Program

/-! # Command line

A rehearsal of a launch on this host. The environment and the configuration are those of the host,
while all else is a picture of it, so that nothing outside is changed.
-/

namespace MuxLaunch.Rehearsal

/-- The variables that a launch reads. -/
def variableNames : List String :=
  ["HOME", "SHELL", "TMUX", "TMUX_TMPDIR", "LC_ALL", "LC_CTYPE", "LANG", "VISUAL", "EDITOR",
    Settings.pathVariable]

/-- The paths of the files that a launch reads. -/
def filePaths (h : Host) (s : Storage) (e : Environ) (arguments : List String) : List String :=
  let settings := (Settings.candidates e).filterMap (Settings.expandHome? h s e)
  let configuration := match CommandLine.ofWords arguments with
    | .ok line => line.configFile.toList
    | .error _ => []
  let own := (Shell.home? h s e).map fun home => Path.join home Config.userName
  settings ++ configuration ++ Config.systemPath :: own.toList

/-- A picture of a host on which nothing has happened yet. -/
def picture (e : Environ) (directory : String) : Machine where
  host := ⟨0, [], ⟨["C.UTF-8", ""], "C.UTF-8", "UTF-8"⟩, .standard⟩
  storage :=
    ⟨Files.empty.populate
      ([["tmp"], Path.names directory, Path.names ((e.get? "TMUX_TMPDIR").getD "/tmp")].map
        (fun l => (l, some (.directory 0o755 0)))
        ++ (e.get? "SHELL").toList.map fun shell => (Path.names shell, some (.file 0o755 0 []))),
      some directory, 0, [], .linux⟩
  environ := e
  random := []
  journal := none
  output := ""
  errors := ""
  starts := []

/-- The machine with a file in it. -/
def withFile (m : Machine) (path : String) (content : List UInt8) : Machine :=
  match m.storage.absolutePath path with
  | .error _ => m
  | .ok path =>
      let files := m.storage.files.place (Path.names path) (.file 0o644 0 content)
      { m with storage := { m.storage with files } }

end MuxLaunch.Rehearsal

open MuxLaunch MuxLaunch.Rehearsal

/-- The environment of the process, as far as a launch reads it. -/
def readEnviron : IO Environ := do
  let mut e := Environ.empty
  for name in variableNames do
    if let some value ← IO.getEnv name then e := e.set name value
  return e

def readContent (path : String) : IO (Option (List UInt8)) := do
  try
    return some (← IO.FS.readBinFile path).toList
  catch _ => return none

/-- Rehearse a launch with the words of the command line and print what it prints. -/
def main (arguments : List String) : IO UInt32 := do
  let e ← readEnviron
  let mut m := picture e (← IO.currentDir).toString
  for path in filePaths m.host m.storage e arguments do
    if let some content ← readContent path then m := withFile m path content
  match Launch.runInteractive ("" :: arguments) [] m with
  | .ok status after =>
      IO.print after.output
      IO.eprint after.errors
      return (status % 256).toNat.toUInt32
  | .error f after =>
      IO.print after.output
      IO.eprint after.errors
      if f = .quit then return 0
      IO.eprintln f.message
      return 1
