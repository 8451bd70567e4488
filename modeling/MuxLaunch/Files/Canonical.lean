import MuxLaunch.Files.Storage

/-! # Canonical paths

The path of a node without links. Every prefix of the path is looked at, and the target of each
link among them is resolved in turn, once.
-/

namespace MuxLaunch

/-- A path that has been resolved so far. A relative one may begin with steps upwards. -/
structure Stem where
  absolute : Bool
  /-- How many double dots a relative path begins with. -/
  up : Nat
  names : List String
  deriving Repr, DecidableEq

namespace Stem

def root : Stem := ⟨true, 0, []⟩

def here : Stem := ⟨false, 0, []⟩

def push (s : Stem) (name : String) : Stem :=
  { s with names := s.names ++ [name] }

/-- One step upwards. The root is its own parent. -/
def parent (s : Stem) : Stem :=
  if s.names ≠ [] then { s with names := s.names.dropLast }
  else if s.absolute then s
  else { s with up := s.up + 1 }

def path (s : Stem) : String :=
  if s.absolute then "/" ++ Path.joinNames s.names
  else Path.joinNames (List.replicate s.up ".." ++ s.names)

end Stem

/-- The links met so far and what they lead to; nothing yet for a link being resolved. -/
abbrev Resolved := List (Stem × Option Stem)

namespace Storage

/-- Resolve names one after another below a stem. `enter` resolves the target of a link. -/
def resolveNames (s : Storage)
    (enter : String → Stem → Resolved → Except Errno (Stem × Resolved)) :
    List String → Stem → Resolved → Except Errno (Stem × Resolved)
  | [], stem, seen => .ok (stem, seen)
  | name :: rest, stem, seen =>
      if name = "" ∨ name = "." then s.resolveNames enter rest stem seen
      else if name = ".." then s.resolveNames enter rest stem.parent seen
      else do
        let next := stem.push name
        match ← s.lstat next.path with
        | .link _ _ =>
            match seen.lookup next with
            | some (some target) => s.resolveNames enter rest target seen
            | some none => throw .tooManyLinks
            | none =>
                let text ← s.readlink next.path
                let (target, seen) ← enter text stem ((next, none) :: seen)
                s.resolveNames enter rest target ((next, some target) :: seen)
        | _ => s.resolveNames enter rest next seen

/-- Resolve a path below a stem. The first argument bounds how many links are being resolved at
    once; there cannot be more than there are nodes. -/
def resolve (s : Storage) : Nat → String → Stem → Resolved → Except Errno (Stem × Resolved)
  | 0, _, _, _ => .error .tooManyLinks
  | bound + 1, path, stem, seen =>
      s.resolveNames (s.resolve bound) (Path.pieces path)
        (if Path.isAbsolute path then .root else stem) seen

/-- The canonical path of the node at a path. -/
def canonicalPath (s : Storage) (path : String) : Except Errno String := do
  let (stem, _) ← s.resolve (s.files.nodes.length + 2) (Path.tidy path) .here []
  (s.absolutePath stem.path).mapError FileError.error

end Storage

end MuxLaunch
