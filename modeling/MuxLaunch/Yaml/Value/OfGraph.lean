import MuxLaunch.Yaml.Value.OfScalar
import MuxLaunch.Yaml.Value.SetOrder
import MuxLaunch.Yaml.Node

/-! # Values of YAML documents

Building what a graph of nodes describes. Collections are made empty and filled later, in the
order in which they were met, so that a collection may contain itself. That order decides which of
several faults is reported.
-/

namespace MuxLaunch.Yaml

/-- What a node stands for; the members of a collection, keys among them, are given by their
    nodes. -/
inductive Object where
  | scalar (s : Scalar)
  | sequence (items : List Nat)
  | mapping (entries : List (Nat × Nat))
  | set (members : List Nat)
  | pairs (entries : List (Nat × Nat))
  deriving Repr

/-- The state of building: the nodes, what has been made of them, and the collections still to be
    filled. The entries of mappings change while mappings take over from each other, and a row of
    entries goes on changing for those who have it in hand when its mapping is given a new one. So
    rows are numbered, and each node has the number of its row. -/
structure Builder where
  nodes : List Node
  rows : List (List (Nat × Nat))
  rowOf : List Nat
  objects : List (Option Object)
  waiting : List Nat
  limits : Limits

namespace Builder

abbrev Step (α : Type) := StateT Builder (Except LoadFault) α

def node (id : Nat) : Step Node := do
  match (← get).nodes[id]? with
  | some n => return n
  | none => throw .malformed

def object? (id : Nat) : Step (Option Object) := do
  return ((← get).objects[id]?).getD none

def setObject (id : Nat) (o : Object) : Step Unit :=
  modify fun b => { b with objects := b.objects.set id (some o) }

def setNode (id : Nat) (n : Node) : Step Unit :=
  modify fun b => { b with nodes := b.nodes.set id n }

/-! ## Entries of mappings -/

def row (number : Nat) : Step (List (Nat × Nat)) := do
  return ((← get).rows[number]?).getD []

/-- The number of the row of a node. -/
def rowNumber (id : Nat) : Step Nat := do
  return ((← get).rowOf[id]?).getD id

def entriesOf (id : Nat) : Step (List (Nat × Nat)) := do
  match (← node id).content with
  | .mapping _ => row (← rowNumber id)
  | _ => throw .malformed

/-- Remove an entry from the row of a node. -/
def eraseEntry (id index : Nat) : Step Unit := do
  let number ← rowNumber id
  modify fun b => { b with rows := b.rows.modify number fun entries => entries.eraseIdx index }

/-- Give a node a new row. -/
def renewRow (id : Nat) (entries : List (Nat × Nat)) : Step Unit :=
  modify fun b =>
    { b with rows := b.rows ++ [entries], rowOf := b.rowOf.set id b.rows.length }

/-- The text of a scalar, or of the default value of a mapping. The first argument is the room for
    defaults of defaults; the result tells whether the node itself is the scalar. -/
def scalarText : Nat → Nat → Step (List Char × Bool)
  | 0, _ => throw .tooDeep
  | room + 1, id => do
      match (← node id).content with
      | .scalar text => return (text.toList, true)
      | .sequence _ => throw .malformed
      | .mapping _ =>
          let nodes := (← get).nodes
          let default? := (← entriesOf id).find? fun (key, _) =>
            (nodes[key]?).any fun n => n.tag = .value
          match default? with
          | some (_, value) => return ((← scalarText room value).1, false)
          | none => throw .malformed

/-- Make the object of a node, unless that has been done. Collections are left empty. -/
def make (id : Nat) : Step Unit := do
  if (← object? id).isSome then return ()
  let n ← node id
  let start (o : Object) : Step Unit := do
    setObject id o
    modify fun b => { b with waiting := b.waiting ++ [id] }
  match n.tag with
  | .seq => start (.sequence [])
  | .map => start (.mapping [])
  | .set => start (.set [])
  | .omap | .pairs => start (.pairs [])
  | .merge | .value | .other => throw .malformed
  | tag =>
      let (text, own) ← scalarText (← get).limits.defaults id
      if tag = .timestamp ∧ !own then throw .dateOfCollection
      setObject id (.scalar (← Scalar.ofText tag text))

def isMapping (id : Nat) : Step Bool := do
  match (← node id).content with
  | .mapping _ => return true
  | _ => return false

mutual

/-- Put the entries that a mapping takes over from others in front of its own. The first argument
    bounds the number of steps, as it does in what follows, and the second is the room for mappings
    that take over from each other. -/
def flatten : Nat → Nat → Nat → Step Unit
  | 0, _, _ | _, 0, _ => throw .tooDeep
  | bound + 1, room + 1, id => do
      let taken ← takeFrom bound room id 0 []
      if taken ≠ [] then renewRow id (taken ++ (← entriesOf id))

/-- The entries taken over, going through the mapping's own from `index` on. A merge key leaves
    its row at once, before anything is taken over. -/
def takeFrom : Nat → Nat → Nat → Nat → List (Nat × Nat) → Step (List (Nat × Nat))
  | 0, _, _, _, _ => throw .tooDeep
  | bound + 1, room, id, index, taken => do
      match (← entriesOf id)[index]? with
      | none => return taken
      | some (key, value) =>
          let n ← node key
          match n.tag with
          | .merge =>
              eraseEntry id index
              let more ← takeOver bound room value
              takeFrom bound room id index (taken ++ more)
          | .value =>
              setNode key { n with tag := .str }
              takeFrom bound room id (index + 1) taken
          | _ => takeFrom bound room id (index + 1) taken

/-- The entries of a mapping, or of a row of mappings of which the first counts most. -/
def takeOver : Nat → Nat → Nat → Step (List (Nat × Nat))
  | 0, _, _ => throw .tooDeep
  | bound + 1, room, id => do
      match (← node id).content with
      | .mapping _ =>
          flatten bound room id
          entriesOf id
      | .sequence items =>
          let rows ← (← flattenAll bound room items).mapM row
          return rows.reverse.flatten
      | .scalar _ => throw .malformed

/-- Flatten mappings one after another, and take the numbers of their rows. -/
def flattenAll : Nat → Nat → List Nat → Step (List Nat)
  | 0, _, _ => throw .tooDeep
  | _ + 1, _, [] => return []
  | bound + 1, room, id :: more => do
      if !(← isMapping id) then throw .malformed
      flatten bound room id
      let number ← rowNumber id
      return number :: (← flattenAll bound room more)

end

/-- A key: its node, and the scalar that it stands for. -/
structure Key where
  node : Nat
  scalar : Scalar

/-- Are two keys the same? Those of one node always are. -/
def Key.isSame (a b : Key) : Bool :=
  a.node = b.node || a.scalar.sameKey b.scalar

/-- Make a key, which has to be a scalar. -/
def makeKey (id : Nat) : Step Key := do
  make id
  match ← object? id with
  | some (.scalar s) => return ⟨id, s⟩
  | _ => throw .malformed

/-- Set a key of a mapping; a key that is there keeps its place. -/
def insertEntry (key : Key) (value : Nat) : List (Key × Nat) → List (Key × Nat)
  | [] => [(key, value)]
  | (k, v) :: more =>
      if k.isSame key then (k, value) :: more else (k, v) :: insertEntry key value more

/-- Make the keys and values of entries. -/
def makeEntries : List (Nat × Nat) → List (Key × Nat) → Step (List (Key × Nat))
  | [], made => return made
  | (key, value) :: more, made => do
      let k ← makeKey key
      make value
      makeEntries more (insertEntry k value made)

/-- How many steps the taking over of entries may need. Entries that are taken over more than once
    multiply, so that the size of a document is no bound for them. -/
def mergeBound : Nat := 1000000000

/-- The entries of a mapping node with all that it takes over. -/
def mappingEntries (id : Nat) : Step (List (Key × Nat)) := do
  let _ ← entriesOf id
  flatten mergeBound (← get).limits.merging id
  makeEntries (← entriesOf id) []

/-- Make the single pairs of a row of mappings. -/
def makePairs : List Nat → Step (List (Nat × Nat))
  | [] => return []
  | id :: more => do
      match ← entriesOf id with
      | [(key, value)] =>
          make key
          make value
          return (key, value) :: (← makePairs more)
      | _ => throw .malformed

def fill (id : Nat) : Step Unit := do
  match ← object? id, (← node id).content with
  | some (.sequence _), .sequence items =>
      items.forM make
      setObject id (.sequence items)
  | some (.mapping _), .mapping _ => do
      setObject id (.mapping ((← mappingEntries id).map fun (k, v) => (k.node, v)))
  | some (.set _), .mapping _ => do
      let members := SetOrder.arrange Key.scalar ((← mappingEntries id).map Prod.fst)
      setObject id (.set (members.map Key.node))
  | some (.pairs _), .sequence items => do setObject id (.pairs (← makePairs items))
  | _, _ => throw .malformed

/-- Fill all collections in the order in which they were made. The first argument bounds their
    number. -/
def fillAll : Nat → Step Unit
  | 0 => return ()
  | bound + 1 => do
      match (← get).waiting with
      | [] => return ()
      | id :: more =>
          modify fun b => { b with waiting := more }
          fill id
          fillAll bound

end Builder

/-! ## Reading objects back -/

namespace Object

/-- What stands for a collection inside itself. -/
def knot? : Object → Option Knot
  | .scalar _ => none
  | .sequence _ => some .sequence
  | .pairs _ => some .sequence
  | .mapping _ => some .mapping
  | .set _ => some .set

/-- The scalar that a node stands for. -/
def scalarAt (objects : List (Option Object)) (id : Nat) : Scalar :=
  match objects[id]? with
  | some (some (.scalar s)) => s
  | _ => .null

/-- The value of the object of a node. The first argument bounds the depth; `around` are the
    collections that the node stands in. -/
def toValue (objects : List (Option Object)) : Nat → List Nat → Nat → Value
  | 0, _, _ => .null
  | bound + 1, around, id =>
      match objects[id]? with
      | some (some o) =>
          match o.knot?, around.contains id with
          | some k, true => .knot k
          | _, _ =>
              let inner := toValue objects bound (id :: around)
              match o with
              | .scalar s => .scalar s
              | .sequence items => .sequence (items.map inner)
              | .mapping entries =>
                  .mapping (entries.map fun (k, v) => (scalarAt objects k, inner v))
              | .set members => .set (members.map (scalarAt objects))
              | .pairs entries => .pairs (entries.map fun (k, v) => (inner k, inner v))
      | _ => .null

/-- The value of a node whose entries are looked up. They are values of their own, whatever they are
    part of, and so are the entries of mappings among them, down to the given level. -/
def toOpenValue (objects : List (Option Object)) (bound : Nat) : Nat → Nat → Value
  | 0, id => toValue objects bound [] id
  | level + 1, id =>
      match objects[id]? with
      | some (some (.mapping entries)) =>
          .mapping (entries.map fun (k, v) =>
            (scalarAt objects k, toOpenValue objects bound level v))
      | _ => toValue objects bound [] id

end Object

/-- The entries that a node starts from. -/
def Content.entries : Content → List (Nat × Nat)
  | .mapping pairs => pairs
  | _ => []

/-- The value that a graph describes, open for a look at the mappings in a mapping. -/
def Graph.value (limits : Limits) (g : Graph) : Except LoadFault Value := do
  let size := g.nodes.length
  let start : Builder := {
    nodes := g.nodes
    rows := g.nodes.map fun n => n.content.entries
    rowOf := List.range size
    objects := List.replicate size none
    waiting := []
    limits }
  let build : Builder.Step Unit := do
    Builder.make g.root
    Builder.fillAll (size + 1)
  let ((), b) ← build.run start
  return Object.toOpenValue b.objects (size + 1) 2 g.root

/-- The part of a stream that can be read, from the pieces in which it arrives and the fault that
    cuts them off, and the fault beyond that part. A piece is looked through for characters that no
    stream may hold as soon as it has arrived. -/
def readable : List (List Char) → Option Fault → List Char × Option Fault
  | [], fault => ([], fault)
  | piece :: more, fault =>
      if piece.any (! isAllowed ·) then ([], some .malformed)
      else
        let (text, beyond) := readable more fault
        (piece ++ text, beyond)

/-- The value of the only document of a text; a text without one stands for nothing. The first two
    pieces of the text are fetched together, and the others when they are needed. -/
def Value.ofPieces (limits : Limits) (pieces : List (List Char)) (cut : Option Text.Utf8.Fault) :
    Except LoadFault Value :=
  let fault := cut.map Fault.encoding
  let (text, beyond) := match pieces, fault with
    | first :: second :: more, fault => readable ((first ++ second) :: more) fault
    | _, some fault => ([], some fault)
    | pieces, none => readable pieces none
  match Graph.ofStream limits.nesting text beyond with
  | .error f => .error f.toLoadFault
  | .ok none => .ok .null
  | .ok (some g) => g.value limits

end MuxLaunch.Yaml
