import MuxLaunch.Files.Canonical
import MuxLaunch.Environ
import MuxLaunch.Journal.Note

/-! # The runtime directory

Every user has a directory for sockets. It stands where anyone may write, so one that exists
already is used only when it is a real directory, belongs to the user and is closed to all others.
-/

namespace MuxLaunch

structure DirectoryFault where
  error : Errno
  path : String
  deriving Repr, DecidableEq

def DirectoryFault.message (f : DirectoryFault) : String :=
  f.error.message

/-- The outcome of work on files: what came of it, the files afterwards and the notes for the
    journal. -/
structure FileWork (ε α : Type) where
  result : Except ε α
  storage : Storage
  notes : List Note

namespace RuntimeDirectory

/-- Why there is no runtime directory. -/
inductive Fault where
  | refused (f : DirectoryFault)
  /-- The path holds a null character. -/
  | nullInPath
  deriving Repr, DecidableEq

def path (e : Environ) (start : String) (user : Int) : String :=
  (e.nonempty? "TMUX_TMPDIR").getD "/tmp" ++ "/" ++ start ++ "-" ++ toString user

def modeText (n : Node) : String :=
  String.ofList (Nat.toDigits 8 (n.mode % 0o10000))

/-- Check the directory at a path and find its canonical path. If that cannot be found, the path
    is used as it is. -/
def check (s : Storage) (path : String) (user : Int) :
    Except DirectoryFault String × List Note :=
  match s.lstat path with
  | .error e => (.error ⟨e, path⟩, [])
  | .ok n =>
      if !n.isDirectory then (.error ⟨.notADirectory, path⟩, [])
      else if n.owner ≠ user ∨ n.isShared then
        (.error ⟨.permissionDenied, path⟩,
          [⟨.directoryRefused, "Refusing runtime directory " ++ path ++ ": uid="
            ++ toString n.owner ++ " mode=" ++ modeText n⟩])
      else
        match s.canonicalPath path with
        | .ok canonical => (.ok canonical, [])
        | .error _ =>
            (.ok path,
              [⟨.directoryUnresolved, "Could not canonicalize " ++ path ++ ", using it as is"⟩])

/-- Make the directory unless there is something at its path already, then check it. -/
def ensure (s : Storage) (path : String) (user : Int) : FileWork Fault String :=
  if Path.holdsNull path then ⟨.error .nullInPath, s, []⟩
  else
    match s.mkdir path 0o700 with
    | .ok s =>
        let (result, notes) := check s path user
        ⟨result.mapError .refused, s,
          ⟨.directoryCreated, "Created runtime directory " ++ path⟩ :: notes⟩
    | .error e =>
        if e = .fileExists then
          let (result, notes) := check s path user
          ⟨result.mapError .refused, s, notes⟩
        else ⟨.error (.refused ⟨e, path⟩), s, []⟩

end RuntimeDirectory

end MuxLaunch
