import MuxLaunch.Files.Lookup
import MuxLaunch.Text.Quoted
import MuxLaunch.Text.Utf8
import MuxLaunch.Text.Lines

/-! # File system calls

The files as one process sees them: from its working directory, under its user id, and with calls
that are known to fail.
-/

namespace MuxLaunch

/-- The calls that may be made to fail. -/
inductive Call where
  | mkdir
  | lstat
  | stat
  | readlink
  | openFile
  | access
  deriving Repr, DecidableEq

/-- A call that fails when it is given exactly this path. -/
structure FailingCall where
  call : Call
  path : String
  error : Errno
  deriving Repr, DecidableEq

/-- A failed call, with the path it was given if it was given one. -/
structure FileError where
  error : Errno
  path : Option String
  deriving Repr, DecidableEq

/-- The wording of a failed call. -/
def FileError.message (e : FileError) : String :=
  let text := "[Errno " ++ toString e.error.number ++ "] " ++ e.error.message
  match e.path with
  | some path => text ++ ": " ++ Text.quoted path
  | none => text

/-- Why a text file cannot be read. -/
inductive ReadError where
  | file (e : FileError)
  | encoding (f : Text.Utf8.Fault)
  deriving Repr, DecidableEq

/-- What the system does to a node when it is made. -/
structure MakingRules where
  /-- The permissions that are taken from it. -/
  umask : Nat
  /-- A directory can be made at a path with a final slash. -/
  finalSlash : Bool
  /-- A directory has the set-group-ID bit of the one that it is made in. -/
  groupBit : Bool
  deriving Repr, DecidableEq

namespace MakingRules

/-- A kernel of today with the usual mask. -/
def linux : MakingRules := ⟨0o022, true, true⟩

/-- The permissions that are left of those asked for. -/
def permit (r : MakingRules) (mode : Nat) : Nat :=
  mode &&& (0o777 ^^^ (r.umask &&& 0o777))

end MakingRules

/-- The files as a process sees them. A call that is denied to the process is one of the failing
    ones. No path holds a null character: where one may be given, it is looked for first. -/
structure Storage where
  files : Files
  /-- The working directory, unless it has gone away. -/
  workingDirectory : Option String
  /-- The user id of the process, which owns what it creates. -/
  user : Int
  failing : List FailingCall
  rules : MakingRules
  deriving Repr

namespace Storage

/-- The error that a call is known to fail with. -/
def failure? (s : Storage) (call : Call) (path : String) : Option Errno :=
  (s.failing.find? fun f => f.call = call ∧ f.path = path).map FailingCall.error

/-- The location that a path given to a call names. -/
def locate (s : Storage) (call : Call) (follow : Bool) (path : String) : Except Errno Location :=
  match s.failure? call path with
  | some e => .error e
  | none => s.files.locate s.workingDirectory follow path

/-- The node that a path given to a call names. -/
def node (s : Storage) (call : Call) (follow : Bool) (path : String) : Except Errno Node :=
  match s.locate call follow path with
  | .error e => .error e
  | .ok spot =>
      match s.files.find? spot with
      | some n => .ok n
      | none => .error .noEntry

/-- The node at a path; a link at its end is not followed. -/
def lstat (s : Storage) (path : String) : Except Errno Node :=
  s.node .lstat false path

def stat (s : Storage) (path : String) : Except Errno Node :=
  s.node .stat true path

def readlink (s : Storage) (path : String) : Except Errno String :=
  match s.node .readlink false path with
  | .error e => .error e
  | .ok (.link _ target) => .ok target
  | .ok _ => .error .invalidArgument

/-- May the file at a path be executed? Any execute bit counts, whoever asks: where the bit is not
    the one for the process, the call is one of the failing ones. -/
def isExecutable (s : Storage) (path : String) : Bool :=
  match s.node .access true path with
  | .ok n => n.isExecutable
  | .error _ => false

/-- What the kernel steps through to make a directory. -/
def newComponents (s : Storage) (path : String) : List String :=
  if s.rules.finalSlash ∧ Path.names path ≠ [] then Path.names path else Path.components path

/-- The location at which a directory is to be made. -/
def locateNew (s : Storage) (path : String) : Except Errno Location :=
  match s.failure? .mkdir path with
  | some e => .error e
  | none => s.files.locateAlong s.workingDirectory false path (s.newComponents path)

/-- The permissions of a new directory for which a mode is asked. -/
def newMode (s : Storage) (spot : Location) (mode : Nat) : Nat :=
  if s.rules.groupBit ∧ (s.files.find? spot.dropLast).any Node.handsGroupOn then
    s.rules.permit mode ||| 0o2000
  else s.rules.permit mode

def mkdir (s : Storage) (path : String) (mode : Nat) : Except Errno Storage :=
  match s.locateNew path with
  | .error e => .error e
  | .ok spot =>
      if (s.files.find? spot).isSome then .error .fileExists
      else .ok { s with files := s.files.set spot (.directory (s.newMode spot mode) s.user) }

def bytes (s : Storage) (path : String) : Except Errno (List UInt8) :=
  match s.node .openFile true path with
  | .error e => .error e
  | .ok (.file _ _ content) => .ok content
  | .ok _ => .error .isADirectory

/-- The text of a file, with every line end read as a line feed. -/
def readText (s : Storage) (path : String) : Except ReadError (List Char) :=
  match s.bytes path with
  | .error e => .error (.file ⟨e, some path⟩)
  | .ok bytes =>
      match Text.Utf8.decode bytes with
      | .error f => .error (.encoding f)
      | .ok text => .ok (Text.unifyLineEnds text)

/-- Open a file for appending, making it if it is missing, and say where it is. -/
def openAppend (s : Storage) (path : String) : Except Errno (Location × Storage) :=
  match s.locate .openFile true path with
  | .error e => .error e
  | .ok spot =>
      match s.files.find? spot with
      | none =>
          .ok (spot, { s with files := s.files.set spot (.file (s.rules.permit 0o666) s.user []) })
      | some (.directory _ _) => .error .isADirectory
      | some _ => .ok (spot, s)

/-- Append a text to the file at a location. -/
def append (s : Storage) (spot : Location) (text : String) : Storage :=
  match s.files.find? spot with
  | some (.file mode owner content) =>
      { s with files := s.files.set spot (.file mode owner (content ++ Text.Utf8.encode text)) }
  | _ => s

/-- An absolute path for a path, without looking at any file. -/
def absolutePath (s : Storage) (path : String) : Except FileError String :=
  if Path.isAbsolute path then .ok (Path.normalize path)
  else
    match s.workingDirectory with
    | none => .error ⟨.noEntry, none⟩
    | some directory => .ok (Path.normalize (Path.join directory path))

end Storage

end MuxLaunch
