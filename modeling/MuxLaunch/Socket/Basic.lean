import MuxLaunch.Socket.RuntimeDirectory
import MuxLaunch.Host.Locale

/-! # The control socket

Where the socket of a session stands: at the path that was asked for, at the path of the session
that the program runs in, or under a label in the runtime directory.
-/

namespace MuxLaunch

/-- Why there is no path for a socket. -/
inductive SocketFault where
  | directory (f : RuntimeDirectory.Fault)
  /-- The source of random characters has run dry. -/
  | exhausted
  deriving Repr, DecidableEq

/-- What was asked for about the socket. -/
structure SocketRequest where
  path : Option String
  label : Option String
  /-- How the name of the runtime directory begins. -/
  directoryStart : String
  /-- Draw a label by lot when none is given. -/
  randomLabel : Bool
  deriving Repr, DecidableEq

namespace Socket

/-- The socket of the session that the program runs in. -/
def inherited? (e : Environ) : Option String :=
  match (e.nonempty? sessionMarker).map fun value => Text.splitAt ',' value.toList with
  | some (path :: _) => if path = [] then none else some (String.ofList path)
  | _ => none

/-- Draw labels of six characters until nothing stands in the directory under one of them. The
    characters that are left come with it. -/
def drawLabel (s : Storage) (directory : String) : List Char → Option String × List Char
  | a :: b :: c :: d :: e :: f :: rest =>
      let label := String.ofList [a, b, c, d, e, f]
      match s.lstat (Path.join directory label) with
      | .ok _ => drawLabel s directory rest
      | .error _ => (some label, rest)
  | _ => (none, [])

def defaultLabel : String := "default"

/-- The socket that is known without a look at any file. -/
def known? (e : Environ) (r : SocketRequest) : Option (String × List Note) :=
  match r.path, r.label with
  | some path, _ => some (path, [])
  | none, some _ => none
  | none, none =>
      (inherited? e).map fun path =>
        (path, [⟨.socketInherited,
          "Using socket inherited from $" ++ sessionMarker ++ ": " ++ path⟩])

/-- The label to use in a directory, and the random characters that are left. -/
def label (s : Storage) (directory : String) (r : SocketRequest) (random : List Char) :
    Option String × List Char :=
  match r.label with
  | some label => (some label, random)
  | none => if r.randomLabel then drawLabel s directory random else (some defaultLabel, random)

/-- Find the path of the socket, making the runtime directory if need be. -/
def locate (s : Storage) (e : Environ) (user : Int) (r : SocketRequest) (random : List Char) :
    FileWork SocketFault String × List Char :=
  match known? e r with
  | some (path, notes) => (⟨.ok path, s, notes⟩, random)
  | none =>
      let ensured := RuntimeDirectory.ensure s (RuntimeDirectory.path e r.directoryStart user) user
      match ensured.result with
      | .error f => (⟨.error (.directory f), ensured.storage, ensured.notes⟩, random)
      | .ok directory =>
          match label ensured.storage directory r random with
          | (none, random) => (⟨.error .exhausted, ensured.storage, ensured.notes⟩, random)
          | (some label, random) =>
              (⟨.ok (directory ++ "/" ++ label), ensured.storage, ensured.notes⟩, random)

end Socket

end MuxLaunch
