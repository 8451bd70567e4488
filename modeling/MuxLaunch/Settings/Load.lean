import MuxLaunch.Settings.Basic
import MuxLaunch.Yaml.Value.OfGraph
import MuxLaunch.Host.Shell
import MuxLaunch.Text.Feed

/-! # Finding and loading settings

The settings file is the first that exists of the one named in the environment, the user's own and
the one of the whole system. Without a file every setting has its default.
-/

namespace MuxLaunch.Settings

def pathVariable : String := "TMATEBOOT_CONFIG"

/-- Where settings are looked for, a path in the environment first. -/
def candidates (e : Environ) : List String :=
  (e.nonempty? pathVariable).toList
    ++ ["~/.config/tmateboot/config.yml", "/etc/tmateboot/config.yml"]

/-- The home directory that the first name of a path stands for: the user's own for a bare tilde,
    and otherwise the one of the user named after it. -/
def homeOf? (h : Host) (s : Storage) (e : Environ) (name : String) : Option String :=
  let home := match name.toList with
    | ['~'] =>
        match e.get? "HOME" with
        | some home => some home
        | none => (Shell.owner? h s).map User.home
    | rest => (h.userNamed? (String.ofList rest.tail)).map User.home
  home.map fun home =>
    let trimmed := String.ofList ((home.toList.reverse.dropWhile (· = '/')).reverse)
    if trimmed = "" then "/" else trimmed

/-- A tidy path with the home directory in place of a tilde. There is none when the home directory
    is not known. -/
def expandHome? (h : Host) (s : Storage) (e : Environ) (path : String) : Option String :=
  let path := Path.tidy path
  match Path.isAbsolute path, Path.names path with
  | false, name :: rest =>
      if name.toList.head? = some '~' then
        match homeOf? h s e name with
        | none => none
        | some home =>
            if home.toList.head? = some '~' then none
            else some (Path.tidy (Path.join home (Path.joinNames rest)))
      else some path
  | _, _ => some path

/-- Errors that only say that there is nothing at a path. -/
def isAbsence (e : Errno) : Bool :=
  [Errno.noEntry, .notADirectory, .badDescriptor, .tooManyLinks].contains e

def isFileAt (s : Storage) (path : String) : Except SettingsFault Bool :=
  if Path.holdsNull path then .ok false
  else
    match s.stat path with
    | .ok n => .ok n.isFile
    | .error e => if isAbsence e then .ok false else .error (.file ⟨e, some path⟩)

def firstFile (h : Host) (s : Storage) (e : Environ) :
    List String → Except SettingsFault (Option String)
  | [] => .ok none
  | candidate :: rest =>
      match expandHome? h s e candidate with
      | none => .error .homeless
      | some path =>
          match isFileAt s path with
          | .error f => .error f
          | .ok true => .ok (some path)
          | .ok false => firstFile h s e rest

/-- The settings file, if there is one. -/
def findFile (h : Host) (s : Storage) (e : Environ) : Except SettingsFault (Option String) :=
  firstFile h s e (candidates e)

/-- The mapping in a file. An empty document is an empty mapping. -/
def readFile (limits : Yaml.Limits) (s : Storage) (path : String) :
    Except SettingsFault Entries :=
  match s.bytes path with
  | .error e => .error (.file ⟨e, some path⟩)
  | .ok bytes =>
      let (pieces, fault) := Text.piecesOf bytes
      match Yaml.Value.ofPieces limits pieces fault with
      | .error f => .error (.document f)
      | .ok (.scalar .null) => .ok []
      | .ok (.mapping entries) => .ok entries
      | .ok _ => .error (.notAMapping path)

def loadFile (limits : Yaml.Limits) (s : Storage) (path : String) :
    Except SettingsFault Settings := do
  ofEntries limits.writing (← readFile limits s (Path.tidy path))

/-- The settings in the file that is found. -/
def load (h : Host) (s : Storage) (e : Environ) : Except SettingsFault Settings := do
  match ← findFile h s e with
  | none => return {}
  | some path => loadFile h.limits s path

end MuxLaunch.Settings
