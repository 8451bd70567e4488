import MuxLaunch.Yaml.Token.Name
import MuxLaunch.Yaml.Token.Block
import MuxLaunch.Yaml.Token.Plain

/-! # The tokens of a YAML stream

Cutting a stream into tokens. A simple key is recognised only at its colon, so the place where its
key token would stand is remembered until then: at most one for each level of flow nesting, on one
line, and no more than 1024 characters back. Until the matter is settled no token from that place
on is handed over, which shows when a fault is met in the meantime.
-/

namespace MuxLaunch.Yaml

/-- A place where a simple key may have begun. -/
structure SimpleKey where
  /-- How many tokens stand before it. -/
  position : Nat
  /-- Nothing but a key can stand there. -/
  required : Bool
  index : Nat
  line : Nat
  column : Nat
  deriving Repr, DecidableEq

/-- The state between two tokens. -/
structure Lexer where
  cursor : Cursor
  /-- The tokens found so far, the latest first. -/
  found : List Token
  flowLevel : Nat
  /-- The column of the innermost block collection; -1 outside of all. -/
  indent : Int
  /-- The columns of the collections around it, the innermost first. -/
  outer : List Int
  /-- May a simple key begin here? -/
  keyAllowed : Bool
  /-- The possible simple keys by flow level. -/
  keys : List (Nat × SimpleKey)
  deriving Repr, DecidableEq

namespace Lexer

def start (cs : List Char) (beyond : Option Fault) : Lexer :=
  ⟨Cursor.start cs beyond, [], 0, -1, [], true, []⟩

def inFlow (s : Lexer) : Bool :=
  s.flowLevel ≠ 0

def push (s : Lexer) (t : Token) : Lexer :=
  { s with found := t :: s.found }

/-- Add a token before the ones found since `position`. -/
def insert (s : Lexer) (position : Nat) (t : Token) : Lexer :=
  { s with found := s.found.insertIdx (s.found.length - position) t }

/-- Is the key on an earlier line or too far back? -/
def isStale (s : Lexer) (k : SimpleKey) : Bool :=
  k.line ≠ s.cursor.line || k.index + 1024 < s.cursor.index

/-- Forget the keys whose colon can no longer follow. -/
def dropStaleKeys (s : Lexer) : Except Fault Lexer :=
  if s.keys.any fun (_, k) => s.isStale k && k.required then .error .malformed
  else .ok { s with keys := s.keys.filter fun (_, k) => !s.isStale k }

/-- The possible simple key of the current flow level. -/
def key? (s : Lexer) : Option SimpleKey :=
  s.keys.lookup s.flowLevel

def eraseKey (s : Lexer) : Lexer :=
  { s with keys := s.keys.filter fun (level, _) => level ≠ s.flowLevel }

/-- Give up the possible simple key of the current flow level. -/
def dropKey (s : Lexer) : Except Fault Lexer :=
  match s.key? with
  | some k => if k.required then .error .malformed else .ok s.eraseKey
  | none => .ok s

/-- Remember that a simple key may begin here. -/
def saveKey (s : Lexer) : Except Fault Lexer := do
  if !s.keyAllowed then return s
  let required := !s.inFlow && s.indent == s.cursor.column
  let s ← s.dropKey
  let k : SimpleKey :=
    ⟨s.found.length, required, s.cursor.index, s.cursor.line, s.cursor.column⟩
  return { s with keys := (s.flowLevel, k) :: s.keys }

/-- Close the block collections that are indented further than `column`. The second argument
    lists the columns around the innermost one. -/
def closeBlocks (column : Int) : Int → List Int → List Token → Int × List Int × List Token
  | indent, [], found =>
      if column < indent then (-1, [], .blockEnd :: found) else (indent, [], found)
  | indent, around :: outer, found =>
      if column < indent then closeBlocks column around outer (.blockEnd :: found)
      else (indent, around :: outer, found)

/-- Return to an indentation; inside flow collections it means nothing. -/
def unwind (s : Lexer) (column : Int) : Lexer :=
  if s.inFlow then s
  else
    let (indent, outer, found) := closeBlocks column s.indent s.outer s.found
    { s with indent, outer, found }

/-- Open a block collection at a column, unless one is open there. `position` says where its start
    token belongs. -/
def openBlock (s : Lexer) (column : Nat) (position : Nat) (start : Token) : Lexer :=
  if s.indent < column then
    { s with indent := column, outer := s.indent :: s.outer }.insert position start
  else s

/-- Step over blanks, comments and line breaks. A line break outside flow collections lets a
    simple key begin. The first argument bounds the number of lines. -/
def skipToToken : Nat → Lexer → Except Fault Lexer
  | 0, s => .ok s
  | bound + 1, s => do
      let cursor ← (← s.cursor.skipSpaces).skipComment
      if isBreak cursor.peek then
        let (_, cursor) ← cursor.takeBreak
        skipToToken bound { s with cursor, keyAllowed := s.keyAllowed || !s.inFlow }
      else return { s with cursor }

def finish (s : Lexer) : Except Fault Lexer := do
  let s ← (s.unwind (-1)).dropKey
  return { s with keyAllowed := false, keys := [] }.push .streamEnd

def readDirective (s : Lexer) : Except Fault Lexer := do
  let s ← (s.unwind (-1)).dropKey
  let (t, cursor) ← s.cursor.directive
  return { s with cursor, keyAllowed := false }.push t

def readDocumentMark (s : Lexer) (t : Token) : Except Fault Lexer := do
  let s ← (s.unwind (-1)).dropKey
  return { s with cursor := ← s.cursor.skip 3, keyAllowed := false }.push t

def openFlow (s : Lexer) (t : Token) : Except Fault Lexer := do
  let s ← s.saveKey
  return { s with
    cursor := ← s.cursor.next, flowLevel := s.flowLevel + 1, keyAllowed := true }.push t

def closeFlow (s : Lexer) (t : Token) : Except Fault Lexer := do
  let s ← s.dropKey
  return { s with
    cursor := ← s.cursor.next, flowLevel := s.flowLevel - 1, keyAllowed := false }.push t

def readFlowEntry (s : Lexer) : Except Fault Lexer := do
  let s ← { s with keyAllowed := true }.dropKey
  return { s with cursor := ← s.cursor.next }.push .flowEntry

def readBlockEntry (s : Lexer) : Except Fault Lexer := do
  if !s.inFlow ∧ !s.keyAllowed then throw .malformed
  let s :=
    if s.inFlow then s
    else s.openBlock s.cursor.column s.found.length .blockSequenceStart
  let s ← { s with keyAllowed := true }.dropKey
  return { s with cursor := ← s.cursor.next }.push .blockEntry

def readKey (s : Lexer) : Except Fault Lexer := do
  if !s.inFlow ∧ !s.keyAllowed then throw .malformed
  let s :=
    if s.inFlow then s
    else s.openBlock s.cursor.column s.found.length .blockMappingStart
  let s ← { s with keyAllowed := !s.inFlow }.dropKey
  return { s with cursor := ← s.cursor.next }.push .key

/-- A colon before a value. It makes a key of the possible simple key, if there is one. -/
def readValue (s : Lexer) : Except Fault Lexer := do
  match s.key? with
  | some k =>
      let s := s.eraseKey.insert k.position .key
      let s := if s.inFlow then s else s.openBlock k.column k.position .blockMappingStart
      return { s with cursor := ← s.cursor.next, keyAllowed := false }.push .value
  | none =>
      if !s.inFlow ∧ !s.keyAllowed then throw .malformed
      let s :=
        if s.inFlow then s
        else s.openBlock s.cursor.column s.found.length .blockMappingStart
      let s ← { s with keyAllowed := !s.inFlow }.dropKey
      return { s with cursor := ← s.cursor.next }.push .value

/-- A token that may be a simple key, read by `read`. -/
def readKeyLike (s : Lexer) (read : Cursor → Except Fault (Token × Cursor)) :
    Except Fault Lexer := do
  let s ← s.saveKey
  let (t, cursor) ← read s.cursor
  return { s with cursor, keyAllowed := false }.push t

def readBlockScalar (s : Lexer) (folded : Bool) : Except Fault Lexer := do
  let s ← { s with keyAllowed := true }.dropKey
  let (t, cursor) ← s.cursor.blockScalar folded s.indent
  return { s with cursor }.push t

def readPlain (s : Lexer) : Except Fault Lexer := do
  let s ← s.saveKey
  let ((t, keyAllowed), cursor) ← s.cursor.plainScalar s.inFlow s.indent
  return { s with cursor, keyAllowed }.push t

def startsPlain (s : Lexer) : Except Fault Bool := do
  let ch := s.cursor.peek
  if !(isWideGap ch || "-?:,[]\x7b\x7d#&*!|>'\x22%@`".toList.contains ch) then return true
  return !isWideGap (← s.cursor.peekAt 1)
    && (ch = '-' || (!s.inFlow && (ch = '?' || ch = ':')))

/-- Does an indicator stand at the cursor, with a gap after it? -/
def standsAlone (s : Lexer) (indicator : Char) : Except Fault Bool :=
  if s.cursor.peek = indicator then isWideGap <$> s.cursor.peekAt 1 else .ok false

/-- Does an indicator stand at the cursor that needs a gap after it only outside of flow
    collections? -/
def standsApart (s : Lexer) (indicator : Char) : Except Fault Bool :=
  if s.inFlow then .ok (s.cursor.peek = indicator) else s.standsAlone indicator

/-- Does a document marker made of three times `mark` start at the cursor? -/
def isDocumentMark (s : Lexer) (mark : Char) : Except Fault Bool :=
  if s.cursor.peek = mark ∧ s.cursor.column = 0 then s.cursor.isDocumentMark mark
  else .ok false

def readToken (s : Lexer) : Except Fault Lexer := do
  let ch := s.cursor.peek
  if s.cursor.isAtEnd then s.finish
  else if ch = '%' ∧ s.cursor.column = 0 then s.readDirective
  else if ← s.isDocumentMark '-' then s.readDocumentMark .documentStart
  else if ← s.isDocumentMark '.' then s.readDocumentMark .documentEnd
  else if ch = '[' then s.openFlow .flowSequenceStart
  else if ch = '\x7b' then s.openFlow .flowMappingStart
  else if ch = ']' then s.closeFlow .flowSequenceEnd
  else if ch = '\x7d' then s.closeFlow .flowMappingEnd
  else if ch = ',' then s.readFlowEntry
  else if ← s.standsAlone '-' then s.readBlockEntry
  else if ← s.standsApart '?' then s.readKey
  else if ← s.standsApart ':' then s.readValue
  else if ch = '*' then
    s.readKeyLike fun c => do let (name, c) ← c.anchorName; return (.alias name, c)
  else if ch = '&' then
    s.readKeyLike fun c => do let (name, c) ← c.anchorName; return (.anchor name, c)
  else if ch = '!' then s.readKeyLike Cursor.tag
  else if ch = '|' ∧ !s.inFlow then s.readBlockScalar false
  else if ch = '>' ∧ !s.inFlow then s.readBlockScalar true
  else if ch = '\x27' ∨ ch = '\x22' then s.readKeyLike Cursor.quotedScalar
  else if ← s.startsPlain then s.readPlain
  else throw .malformed

def step (s : Lexer) : Except Fault Lexer := do
  let s ← skipToToken (s.cursor.rest.length + 1) s
  let s ← s.dropStaleKeys
  (s.unwind s.cursor.column).readToken

/-- How many tokens can be handed over: those that no simple key can come before. -/
def settled (s : Lexer) : Nat :=
  s.keys.foldl (fun least (_, k) => min least k.position) s.found.length

/-- Read until the stream ends or a fault is met. The first argument bounds the number of tokens;
    `count` is how many of them have been handed over. -/
def run : Nat → Nat → Lexer → List Token × Option Fault
  | 0, count, s => (s.found.reverse.take count, some .malformed)
  | bound + 1, count, s =>
      match s.dropStaleKeys with
      | .error f => (s.found.reverse.take count, some f)
      | .ok s =>
          match s.step with
          | .error f => (s.found.reverse.take s.settled, some f)
          | .ok next =>
              if next.found.head? = some .streamEnd then (next.found.reverse, none)
              else run bound s.settled next

end Lexer

/-- The tokens of a stream up to its end or up to the first fault, given the part of it that can
    be read and the fault beyond. A byte order mark at the start is no part of the text. -/
def Token.ofStream (cs : List Char) (beyond : Option Fault) : List Token × Option Fault :=
  let s := Lexer.start cs beyond
  match if cs.head? = some byteOrderMark then s.cursor.next else s.cursor.skip 0 with
  | .error f => ([], some f)
  | .ok cursor => Lexer.run (cs.length + 2) 0 { s with cursor }

end MuxLaunch.Yaml
