import MuxLaunch.Yaml.Fault
import MuxLaunch.Text.Digit

/-! # A position in a YAML stream

The characters still to be read, with the position of the first of them. Reading at the end of the
stream yields the null character, which no stream holds. Where only a part of the stream can be
read, whatever asks for a character beyond that part meets a fault; the character at the position
itself has always been read.
-/

namespace MuxLaunch.Yaml

/-- The byte order mark. It takes up no column. -/
def byteOrderMark : Char := '\ufeff'

def endMark : Char := '\x00'

/-- Characters a stream may hold. -/
def isAllowed (c : Char) : Bool :=
  let n := c.toNat
  n == 9 || n == 10 || n == 13 || (0x20 ≤ n && n ≤ 0x7e) || n == 0x85 || (0xa0 ≤ n && n ≤ 0xd7ff)
    || (0xe000 ≤ n && n ≤ 0xfffd) || 0x10000 ≤ n

def isBreak (c : Char) : Bool :=
  c = '\n' || c = '\r' || c = '\x85' || c = '\u2028' || c = '\u2029'

/-- The end of a line or of the stream. -/
def isLineEnd (c : Char) : Bool :=
  c = endMark || isBreak c

/-- A space, or the end of a line or of the stream. -/
def isGap (c : Char) : Bool :=
  c = ' ' || isLineEnd c

/-- A space, a tab, or the end of a line or of the stream. -/
def isWideGap (c : Char) : Bool :=
  c = '\t' || isGap c

/-- A character of the name of an anchor, a directive or a tag handle. -/
def isNameChar (c : Char) : Bool :=
  ('0' ≤ c && c ≤ '9') || ('A' ≤ c && c ≤ 'Z') || ('a' ≤ c && c ≤ 'z') || c = '-' || c = '_'

structure Cursor where
  rest : List Char
  /-- The fault met beyond `rest`; without one the stream ends there. -/
  beyond : Option Fault
  index : Nat
  line : Nat
  column : Nat
  deriving Repr, DecidableEq

namespace Cursor

def start (cs : List Char) (beyond : Option Fault) : Cursor :=
  ⟨cs, beyond, 0, 0, 0⟩

def peek (c : Cursor) : Char :=
  c.rest.head?.getD endMark

def isAtEnd (c : Cursor) : Bool :=
  c.rest.isEmpty

/-- See to it that the character `n` places ahead has been read, if the stream is that long. -/
def reach (c : Cursor) (n : Nat) : Except Fault Unit :=
  match c.beyond with
  | some f => if (c.rest.drop n).isEmpty then .error f else .ok ()
  | none => .ok ()

def peekAt (c : Cursor) (n : Nat) : Except Fault Char := do
  c.reach n
  return (c.rest.drop n).head?.getD endMark

/-- The position after one character. A carriage return before a line feed leaves the line to the
    line feed. -/
def advance (c : Cursor) : Cursor :=
  match c.rest with
  | [] => c
  | ch :: rest =>
      if isBreak ch ∧ ¬ (ch = '\r' ∧ rest.head? = some '\n') then
        ⟨rest, c.beyond, c.index + 1, c.line + 1, 0⟩
      else
        ⟨rest, c.beyond, c.index + 1, c.line,
          if ch = byteOrderMark then c.column else c.column + 1⟩

def advanceBy (c : Cursor) : Nat → Cursor
  | 0 => c
  | n + 1 => c.advance.advanceBy n

def skip (c : Cursor) (n : Nat) : Except Fault Cursor := do
  c.reach n
  return c.advanceBy n

def next (c : Cursor) : Except Fault Cursor :=
  c.skip 1

/-- The longest run of characters with a property, and the position after it. -/
def span (c : Cursor) (p : Char → Bool) : Except Fault (List Char × Cursor) := do
  let run := c.rest.takeWhile p
  return (run, ← c.skip run.length)

def skipWhile (c : Cursor) (p : Char → Bool) : Except Fault Cursor :=
  c.skip (c.rest.takeWhile p).length

def skipSpaces (c : Cursor) : Except Fault Cursor :=
  c.skipWhile (· = ' ')

def skipComment (c : Cursor) : Except Fault Cursor :=
  if c.peek = '#' then c.skipWhile (! isLineEnd ·) else .ok c

/-- Step over one line break, if there is one, and say how it is read: the line and paragraph
    separators as themselves, every other break as a line feed. -/
def takeBreak (c : Cursor) : Except Fault (List Char × Cursor) := do
  match c.rest with
  | '\r' :: '\n' :: _ => return (['\n'], ← c.skip 2)
  | ch :: _ =>
      if ch = '\u2028' ∨ ch = '\u2029' then return ([ch], ← c.next)
      else if isBreak ch then return (['\n'], ← c.next)
      else return ([], c)
  | [] => return ([], c)

/-- The number that the next `width` characters spell, which have to be hexadecimal digits. -/
def hexAhead (c : Cursor) (width : Nat) : Except Fault Nat :=
  (List.range width).foldlM (fun n k => do
    let digit ← c.peekAt k
    if !Text.isAsciiHexDigit digit then throw .malformed
    return n * 16 + (Text.digitIn? 16 digit).getD 0) 0

/-- Does a document marker made of three times `mark` start here? -/
def isDocumentMark (c : Cursor) (mark : Char) : Except Fault Bool := do
  c.reach 2
  if [mark, mark, mark].isPrefixOf c.rest then return isWideGap (← c.peekAt 3) else return false

def isDocumentBoundary (c : Cursor) : Except Fault Bool := do
  if ← c.isDocumentMark '-' then return true else c.isDocumentMark '.'

end Cursor

end MuxLaunch.Yaml
