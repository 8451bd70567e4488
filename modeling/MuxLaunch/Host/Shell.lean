import MuxLaunch.Host.Basic
import MuxLaunch.Environ
import MuxLaunch.Journal.Note

/-! # Login shell and home directory

The shell that new panes run, and the user's home. The program does not choose itself from the
environment or the user database, since every pane would then launch another client.
-/

namespace MuxLaunch

namespace Shell

/-- Is the shell this program? A dash before the program's name only marks a login. -/
def isSelf (shell program : String) : Bool :=
  let name := match program.toList with
    | '-' :: rest => rest
    | name => name
  Text.afterLast '/' shell.toList = name

/-- May the shell be used? It has to be an absolute path of something executable. A shell comes from
    the environment or the user database, and neither holds a null character. -/
def isUsable (s : Storage) (shell : Option String) (program : String) : Bool :=
  match shell with
  | none => false
  | some shell => Path.isAbsolute shell && !isSelf shell program && s.isExecutable shell

def owner? (h : Host) (s : Storage) : Option User :=
  h.user? s.user

/-- The shell in the environment, else the one in the user database, else the fallback. -/
def resolve (h : Host) (s : Storage) (e : Environ) (program fallback : String) :
    String × List Note :=
  match (e.get? "SHELL").filter fun shell => isUsable s (some shell) program with
  | some shell => (shell, [])
  | none =>
      match ((owner? h s).map User.shell).filter fun shell => isUsable s (some shell) program with
      | some shell => (shell, [⟨.loginShellUsed, "SHELL unusable, using login shell " ++ shell⟩])
      | none =>
          (fallback, [⟨.fallbackShellUsed, "No usable login shell, falling back to " ++ fallback⟩])

/-- The home directory in the environment, else the one in the user database. -/
def home? (h : Host) (s : Storage) (e : Environ) : Option String :=
  match e.nonempty? "HOME" with
  | some home => some home
  | none => (owner? h s).map User.home

end Shell

end MuxLaunch
