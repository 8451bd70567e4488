import MuxLaunch.Entries
import MuxLaunch.Files.Path

/-! # Files

A tree of files as a map from locations to nodes. A location is the list of names that lead to a
node from the root, so the root is the empty list.
-/

namespace MuxLaunch

/-- Names from the root down. -/
abbrev Location := List String

inductive Node where
  | directory (mode : Nat) (owner : Int)
  | file (mode : Nat) (owner : Int) (content : List UInt8)
  | link (owner : Int) (target : String)
  deriving Repr, DecidableEq

namespace Node

/-- The permission bits. A link has them all. -/
def mode : Node → Nat
  | directory mode _ => mode
  | file mode _ _ => mode
  | link _ _ => 0o777

def owner : Node → Int
  | directory _ owner => owner
  | file _ owner _ => owner
  | link owner _ => owner

def isDirectory : Node → Bool
  | directory _ _ => true
  | _ => false

def isFile : Node → Bool
  | file _ _ _ => true
  | _ => false

def isExecutable (n : Node) : Bool :=
  n.mode &&& 0o111 ≠ 0

/-- Has the node the set-group-ID bit? -/
def handsGroupOn (n : Node) : Bool :=
  n.mode &&& 0o2000 ≠ 0

/-- Has anyone but the owner any permission? -/
def isShared (n : Node) : Bool :=
  n.mode &&& 0o077 ≠ 0

/-- The node with other permissions; those of a link cannot be changed. -/
def withMode (mode : Nat) : Node → Node
  | directory _ owner => directory mode owner
  | file _ owner content => file mode owner content
  | link owner target => link owner target

end Node

/-- The nodes of a file tree by location. -/
structure Files where
  nodes : List (Location × Node)
  deriving Repr

namespace Files

def empty : Files := ⟨[]⟩

def find? (files : Files) (spot : Location) : Option Node :=
  files.nodes.lookup spot

def set (files : Files) (spot : Location) (n : Node) : Files :=
  ⟨(spot, n) :: files.nodes.filter (·.1 ≠ spot)⟩

/-- Remove a node and all that lies below it. -/
def remove (files : Files) (spot : Location) : Files :=
  ⟨files.nodes.filter fun (l, _) => !spot.isPrefixOf l⟩

theorem find?_set (files : Files) (spot l : Location) (n : Node) :
    (files.set spot n).find? l = if l = spot then some n else files.find? l := by
  have := Entries.lookup_filter_ne spot l files.nodes
  by_cases h : l = spot
  · simp [find?, set, h]
  · simpa [find?, set, h, Entries.lookup_cons] using this

/-- The directories that a location lies in, the root first. -/
def ancestors : Location → List Location
  | [] => []
  | name :: rest => [] :: (ancestors rest).map (name :: ·)

/-- Put a node at a location and directories of the superuser where its parents are missing. What
    lies below the location stays. -/
def place (files : Files) (spot : Location) (n : Node) : Files :=
  let withParents := (ancestors spot).foldl (fun files l =>
    if (files.find? l).isSome then files else files.set l (.directory 0o755 0)) files
  withParents.set spot n

/-- Put nodes in place, or remove them, in the order given. -/
def populate (files : Files) (entries : List (Location × Option Node)) : Files :=
  entries.foldl (fun files (l, n) =>
    match n with
    | some n => files.place l n
    | none => files.remove l) files

/-- What differs between two file trees: each location with its later node, if there is one. -/
def changes (before after : Files) : List (Location × Option Node) :=
  let kept := after.nodes.filter fun (l, n) => before.find? l ≠ some n
  let lost := before.nodes.filter fun (l, _) => (after.find? l).isNone
  kept.map (fun (l, n) => (l, some n)) ++ lost.map fun (l, _) => (l, none)

end Files

end MuxLaunch
