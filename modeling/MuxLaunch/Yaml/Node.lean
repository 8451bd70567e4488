import MuxLaunch.Yaml.Tag
import MuxLaunch.Yaml.Token.Stream

/-! # YAML nodes

The graph that a document describes. Nodes are numbered, because an alias may lead back to a node
that contains it.
-/

namespace MuxLaunch.Yaml

inductive Content where
  | scalar (text : String)
  | sequence (items : List Nat)
  | mapping (pairs : List (Nat × Nat))
  deriving Repr, DecidableEq

structure Node where
  tag : Tag
  content : Content
  deriving Repr, DecidableEq

/-- Nodes by number, and the one that the document is. -/
structure Graph where
  nodes : List Node
  root : Nat
  deriving Repr, DecidableEq

/-! ## Reading a document from tokens -/

/-- The state of reading: what is left of the tokens, the nodes so far, the anchored nodes, the
    tag handles in force, and how many more collections can be opened inside of the open ones. -/
structure Reader where
  tokens : List Token
  /-- Why there are no more tokens, if a fault cut them off. -/
  cutOff : Fault
  nodes : List Node
  anchors : List (String × Nat)
  handles : List (String × String)
  room : Nat
  deriving Repr, DecidableEq

namespace Reader

abbrev Step (α : Type) := StateT Reader (Except Fault) α

def peek : Step Token := do
  match (← get).tokens with
  | t :: _ => return t
  | [] => throw (← get).cutOff

def advance : Step Unit :=
  modify fun r => { r with tokens := r.tokens.tail }

/-- Step over the next token if it is `t`. -/
def accept (t : Token) : Step Bool := do
  if (← peek) = t then
    advance
    return true
  else return false

/-- Step over the next token, which has to be `t`. -/
def expect (t : Token) : Step Unit := do
  if !(← accept t) then throw .malformed

def addNode (n : Node) : Step Nat := do
  let id := (← get).nodes.length
  modify fun r => { r with nodes := r.nodes ++ [n] }
  return id

def fill (id : Nat) (content : Content) : Step Unit :=
  modify fun r => { r with nodes := r.nodes.modify id fun n => { n with content } }

/-- The empty plain scalar that stands for a missing node. -/
def missing : Step Nat :=
  addNode ⟨.null, .scalar ""⟩

def tagName (handle : Option String) (suffix : String) : Step String := do
  match handle with
  | none => return suffix
  | some handle =>
      match (← get).handles.lookup handle with
      | some expansion => return expansion ++ suffix
      | none => throw .malformed

/-- An anchor and a tag before a node, in either order. -/
def properties : Step (Option String × Option String) := do
  match ← peek with
  | .anchor name =>
      advance
      match ← peek with
      | .tag handle suffix =>
          advance
          return (some name, some (← tagName handle suffix))
      | _ => return (some name, none)
  | .tag handle suffix =>
      advance
      match ← peek with
      | .anchor name =>
          advance
          return (some name, some (← tagName handle suffix))
      | _ => return (none, some (← tagName handle suffix))
  | _ => return (none, none)

/-- The tag of a collection: the one given, unless that is the lone exclamation mark. -/
def collectionTag (name : Option String) (default : Tag) : Tag :=
  match name with
  | none => default
  | some name => if name = "!" then default else Tag.ofName name

/-- The tag of a scalar. The lone exclamation mark lets the form decide even for a quoted one. -/
def scalarTag (name : Option String) (text : String) (plain : Bool) : Tag :=
  match name with
  | none => if plain then Tag.ofPlain text else .str
  | some name => if name = "!" then Tag.ofPlain text else Tag.ofName name

/-- Bind an anchor, which must be new, to a node. -/
def bindAnchor (anchor : Option String) (id : Nat) : Step Unit := do
  match anchor with
  | none => return ()
  | some name =>
      if ((← get).anchors.lookup name).isSome then throw .malformed
      modify fun r => { r with anchors := (name, id) :: r.anchors }

def addScalar (anchor : Option String) (tag : Tag) (text : String) : Step Nat := do
  let id ← addNode ⟨tag, .scalar text⟩
  bindAnchor anchor id
  return id

/-- Where a node stands: inside a flow collection, inside a block collection, or as a key or value
    of a block mapping, where the dashes of a sequence need no indentation. -/
inductive Place where
  | flow
  | block
  | blockPair
  deriving Repr, DecidableEq

/-- Read the content of a collection inside of the ones that are open. -/
def nested {α : Type} (content : Step α) : Step α := do
  if (← get).room = 0 then throw .tooDeep
  modify fun r => { r with room := r.room - 1 }
  let a ← content
  modify fun r => { r with room := r.room + 1 }
  return a

/-- Add a collection whose content is still to be read, and bind its anchor. -/
def openCollection (anchor tag : Option String) (default : Tag) : Step Nat := do
  let content := if default = .map then Content.mapping [] else Content.sequence []
  let id ← addNode ⟨collectionTag tag default, content⟩
  bindAnchor anchor id
  return id

mutual

/-- A node. The first argument bounds the depth of reading, as it does in what follows. -/
def node : Nat → Place → Step Nat
  | 0, _ => throw .malformed
  | bound + 1, place => do
      match ← peek with
      | .alias name =>
          advance
          match (← get).anchors.lookup name with
          | some id => return id
          | none => throw .malformed
      | _ =>
          let (anchor, tag) ← properties
          match ← peek, place with
          | .blockEntry, .blockPair => do
              let id ← openCollection anchor tag .seq
              fill id (.sequence (← nested (indentlessEntries bound)))
              return id
          | .scalar text plain, _ => do
              advance
              addScalar anchor (scalarTag tag text plain) text
          | .flowSequenceStart, _ => do
              advance
              let id ← openCollection anchor tag .seq
              fill id (.sequence (← nested (flowEntries bound true)))
              return id
          | .flowMappingStart, _ => do
              advance
              let id ← openCollection anchor tag .map
              fill id (.mapping (← nested (flowPairs bound true)))
              return id
          | .blockSequenceStart, .block | .blockSequenceStart, .blockPair => do
              advance
              let id ← openCollection anchor tag .seq
              fill id (.sequence (← nested (blockEntries bound)))
              return id
          | .blockMappingStart, .block | .blockMappingStart, .blockPair => do
              advance
              let id ← openCollection anchor tag .map
              fill id (.mapping (← nested (blockPairs bound)))
              return id
          | _, _ =>
              if anchor = none ∧ tag = none then throw .malformed
              addScalar anchor (scalarTag tag "" (tag = none)) ""

def blockEntries : Nat → Step (List Nat)
  | 0 => throw .malformed
  | bound + 1 => do
      if ← accept .blockEntry then
        let item ← match ← peek with
          | .blockEntry | .blockEnd => missing
          | _ => node bound .block
        return item :: (← blockEntries bound)
      else
        expect .blockEnd
        return []

/-- The entries of a sequence that is not indented further than the mapping around it. -/
def indentlessEntries : Nat → Step (List Nat)
  | 0 => throw .malformed
  | bound + 1 => do
      if ← accept .blockEntry then
        let item ← match ← peek with
          | .blockEntry | .key | .value | .blockEnd => missing
          | _ => node bound .block
        return item :: (← indentlessEntries bound)
      else return []

def blockPairs : Nat → Step (List (Nat × Nat))
  | 0 => throw .malformed
  | bound + 1 => do
      if ← accept .key then
        let key ← match ← peek with
          | .key | .value | .blockEnd => missing
          | _ => node bound .blockPair
        let value ←
          if ← accept .value then
            match ← peek with
            | .key | .value | .blockEnd => missing
            | _ => node bound .blockPair
          else missing
        return (key, value) :: (← blockPairs bound)
      else
        expect .blockEnd
        return []

/-- The entries of a flow sequence. `first` tells that no comma is due. An entry with a colon is
    a mapping of one pair. -/
def flowEntries : Nat → Bool → Step (List Nat)
  | 0, _ => throw .malformed
  | bound + 1, first => do
      if ← accept .flowSequenceEnd then return []
      if !first then expect .flowEntry
      match ← peek with
      | .key => do
          advance
          let id ← openCollection none none .map
          let pair ← nested do
            let key ← match ← peek with
              | .value | .flowEntry | .flowSequenceEnd => missing
              | _ => node bound .flow
            let value ←
              if ← accept .value then
                match ← peek with
                | .flowEntry | .flowSequenceEnd => missing
                | _ => node bound .flow
              else missing
            return (key, value)
          fill id (.mapping [pair])
          return id :: (← flowEntries bound false)
      | .flowSequenceEnd => do
          advance
          return []
      | _ => do
          let item ← node bound .flow
          return item :: (← flowEntries bound false)

/-- The entries of a flow mapping. `first` tells that no comma is due. A lone node is a key
    without a value. -/
def flowPairs : Nat → Bool → Step (List (Nat × Nat))
  | 0, _ => throw .malformed
  | bound + 1, first => do
      if ← accept .flowMappingEnd then return []
      if !first then expect .flowEntry
      match ← peek with
      | .key => do
          advance
          let key ← match ← peek with
            | .value | .flowEntry | .flowMappingEnd => missing
            | _ => node bound .flow
          let value ←
            if ← accept .value then
              match ← peek with
              | .flowEntry | .flowMappingEnd => missing
              | _ => node bound .flow
            else missing
          return (key, value) :: (← flowPairs bound false)
      | .flowMappingEnd => do
          advance
          return []
      | _ => do
          let key ← node bound .flow
          return (key, ← missing) :: (← flowPairs bound false)

end

/-- The handles that every document knows. -/
def defaultHandles : List (String × String) :=
  [("!", "!"), ("!!", "tag:yaml.org,2002:")]

/-- The directives before a document: at most one version, which is 1, and a meaning for each
    handle at most once. The first argument bounds their number. -/
def directives : Nat → Bool → List (String × String) → Step (List (String × String))
  | 0, _, _ => throw .malformed
  | bound + 1, versioned, handles => do
      match ← peek with
      | .directive (.version major _) =>
          if versioned ∨ major ≠ 1 then throw .malformed
          advance
          directives bound true handles
      | .directive (.handle handle expansion) =>
          if (handles.lookup handle).isSome then throw .malformed
          advance
          directives bound versioned ((handle, expansion) :: handles)
      | .directive (.other _) =>
          advance
          directives bound versioned handles
      | _ => return handles ++ defaultHandles

/-- Step over document end markers. The first argument bounds their number. -/
def skipDocumentEnds : Nat → Step Unit
  | 0 => throw .malformed
  | bound + 1 => do
      if ← accept .documentEnd then skipDocumentEnds bound

/-- See to it that the stream ends here. A further document is refused once its start has been
    read. -/
def lastDocument (bound : Nat) : Step Unit := do
  if (← peek) ≠ .streamEnd then
    let _ ← directives bound false []
    expect .documentStart
    throw .malformed

/-- The only document of a stream, or nothing when the stream holds none. -/
def document (bound : Nat) : Step (Option Nat) := do
  let root ← match ← peek with
    | .streamEnd => return none
    | .directive _ | .documentStart => do
        let handles ← directives bound false []
        expect .documentStart
        modify fun r => { r with handles }
        match ← peek with
        | .directive _ | .documentStart | .documentEnd | .streamEnd => missing
        | _ => node bound .block
    | _ => do
        modify fun r => { r with handles := defaultHandles }
        node bound .block
  skipDocumentEnds bound
  lastDocument bound
  return some root

end Reader

/-- The graph of the only document of a stream, or nothing for a stream without one. The stream
    is given by the part of it that can be read and the fault beyond; `room` is for collections in
    each other. -/
def Graph.ofStream (room : Nat) (cs : List Char) (beyond : Option Fault) :
    Except Fault (Option Graph) := do
  let (tokens, fault) := Token.ofStream cs beyond
  let start : Reader := ⟨tokens, fault.getD .malformed, [], [], [], room⟩
  let (root, r) ← (Reader.document (2 * tokens.length + 8)).run start
  return root.map fun root => ⟨r.nodes, root⟩

end MuxLaunch.Yaml
