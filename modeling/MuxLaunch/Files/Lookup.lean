import MuxLaunch.Files.Basic
import MuxLaunch.Files.Errno

/-! # Looking up paths

The walk of the kernel from a directory through the components of a path. Links are followed where
the walk goes on behind them, and at the end if the caller asks for it, up to forty times.
-/

namespace MuxLaunch.Files

def linkLimit : Nat := 40

/-- The longest name, in bytes. -/
def nameLimit : Nat := 255

/-- The longest path, in bytes. -/
def pathLimit : Nat := 4095

/-- Where a walk without following links leads. -/
inductive Arrival where
  | done (spot : Location)
  /-- To a link in a directory that has to be followed, with components left to walk. -/
  | detour (directory : Location) (target : String) (rest : List String)
  deriving Repr, DecidableEq

/-- Walk up to the first link that has to be followed. -/
def advance (files : Files) (follow : Bool) : Location → List String → Except Errno Arrival
  | spot, [] => .ok (.done spot)
  | spot, name :: rest =>
      match files.find? spot with
      | none => .error .noEntry
      | some (.directory _ _) =>
          if nameLimit < name.utf8ByteSize then .error .nameTooLong
          else if name = "." then files.advance follow spot rest
          else if name = ".." then files.advance follow spot.dropLast rest
          else
            match files.find? (spot ++ [name]) with
            | some (.link _ target) =>
                if rest = [] ∧ !follow then .ok (.done (spot ++ [name]))
                else .ok (.detour spot target rest)
            | _ => files.advance follow (spot ++ [name]) rest
      | some _ => .error .notADirectory

/-- Walk to the end of the components, following at most `budget` links. The node at the end may
    be missing. -/
def walk (files : Files) (follow : Bool) : Nat → Location → List String → Except Errno Location
  | budget, start, components =>
      match files.advance follow start components with
      | .error e => .error e
      | .ok (.done spot) => .ok spot
      | .ok (.detour directory target rest) =>
          match budget with
          | 0 => .error .tooManyLinks
          | budget + 1 =>
              files.walk follow budget (if Path.isAbsolute target then [] else directory)
                (Path.components target ++ rest)

/-- The location that components of a path lead to from where the path starts, which is the root
    or a working directory that may have gone away. -/
def locateAlong (files : Files) (workingDirectory : Option String) (follow : Bool) (path : String)
    (components : List String) : Except Errno Location :=
  if path = "" then .error .noEntry
  else if pathLimit < path.utf8ByteSize then .error .nameTooLong
  else if Path.isAbsolute path then files.walk follow linkLimit [] components
  else
    match workingDirectory with
    | none => .error .noEntry
    | some directory => files.walk follow linkLimit (Path.names directory) components

/-- The location that a path names. -/
def locate (files : Files) (workingDirectory : Option String) (follow : Bool) (path : String) :
    Except Errno Location :=
  files.locateAlong workingDirectory follow path (Path.components path)

end MuxLaunch.Files
