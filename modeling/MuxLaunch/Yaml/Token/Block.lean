import MuxLaunch.Yaml.Token

/-! # Block YAML scalars

A literal scalar keeps its line breaks and a folded one joins lines. A header may name the
indentation and say what becomes of the breaks at the end.
-/

namespace MuxLaunch.Yaml.Cursor

/-- What becomes of the line breaks at the end of a block scalar. -/
inductive Chomping where
  | clip
  | strip
  | keep
  deriving Repr, DecidableEq

def chomping? (c : Char) : Option Chomping :=
  if c = '+' then some .keep else if c = '-' then some .strip else none

/-- The number of an indentation indicator; zero is none. -/
def increment (c : Char) : Except Fault Nat :=
  if c = '0' then .error .malformed else .ok (c.toNat - 48)

/-- The indicators after the mark of a block scalar, in either order. -/
def blockHeader (c : Cursor) : Except Fault ((Chomping × Option Nat) × Cursor) := do
  let (header, c) ← match chomping? c.peek with
    | some chomping =>
        let c ← c.next
        if Text.isAsciiDigit c.peek then
          pure ((chomping, some (← increment c.peek)), ← c.next)
        else pure ((chomping, none), c)
    | none =>
        if Text.isAsciiDigit c.peek then do
          let width ← increment c.peek
          let c ← c.next
          match chomping? c.peek with
          | some chomping => pure ((chomping, some width), ← c.next)
          | none => pure ((.clip, some width), c)
        else pure ((.clip, none), c)
  if !isGap c.peek then throw .malformed
  return (header, c)

/-- Empty lines before the text of a block scalar, and the widest indentation among them. The
    first argument bounds the number of characters read. -/
def leadingLines : Nat → Cursor → Nat → Except Fault ((List Char × Nat) × Cursor)
  | 0, c, widest => .ok (([], widest), c)
  | bound + 1, c, widest => do
      if c.peek = ' ' then
        let c ← c.next
        leadingLines bound c (max widest c.column)
      else if isBreak c.peek then
        let (ch, c) ← c.takeBreak
        let ((more, widest), c) ← leadingLines bound c widest
        return ((ch ++ more, widest), c)
      else return (([], widest), c)

/-- Step over at most as many spaces as lead to a column. -/
def skipIndent (c : Cursor) (indent : Nat) : Except Fault Cursor :=
  c.skip ((c.rest.take (indent - c.column)).takeWhile (· = ' ')).length

/-- Line breaks and the indentation after each. The first argument bounds their number. -/
def indentedBreaks (indent : Nat) : Nat → Cursor → Except Fault (List Char × Cursor)
  | 0, c => .ok ([], c)
  | bound + 1, c => do
      let c ← c.skipIndent indent
      if isBreak c.peek then
        let (ch, c) ← c.takeBreak
        let (more, c) ← indentedBreaks indent bound c
        return (ch ++ more, c)
      else return ([], c)

/-- How the break between two lines of text is read. A folded line feed between lines that both
    start with text becomes a space, or nothing before further breaks. -/
def joinLines (folded : Bool) (lineBreak further : List Char) (indented : Bool) : List Char :=
  if folded ∧ lineBreak = ['\n'] ∧ !indented then
    if further = [] then [' '] else []
  else lineBreak

/-- The lines of a block scalar. The first argument bounds their number; `breaks` are the breaks
    before the first of them. -/
def blockLines (folded : Bool) (chomping : Chomping) (indent : Nat) :
    Nat → List Char → Cursor → Except Fault (List Char × Cursor)
  | 0, _, c => .ok ([], c)
  | bound + 1, breaks, c => do
      let startsBlank := c.peek = ' ' || c.peek = '\t'
      let (text, c) ← c.span (! isLineEnd ·)
      let (lineBreak, c) ← c.takeBreak
      let (further, c) ← indentedBreaks indent (c.rest.length + 1) c
      if c.column = indent ∧ !c.isAtEnd then
        let join := joinLines folded lineBreak further
          (startsBlank || c.peek = ' ' || c.peek = '\t')
        let (more, c) ← blockLines folded chomping indent bound further c
        return (breaks ++ text ++ join ++ more, c)
      else
        let tail := match chomping with
          | .clip => lineBreak
          | .strip => []
          | .keep => lineBreak ++ further
        return (breaks ++ text ++ tail, c)

/-- A block scalar inside a collection that is indented by `parent` columns. -/
def blockScalar (folded : Bool) (parent : Int) (c : Cursor) : Except Fault (Token × Cursor) := do
  let ((chomping, width), c) ← (← c.next).blockHeader
  let c ← (← c.skipSpaces).skipComment
  if !isLineEnd c.peek then throw .malformed
  let (_, c) ← c.takeBreak
  let least := (max (parent + 1) 1).toNat
  let (breaks, indent, c) ← match width with
    | none => do
        let ((breaks, widest), c) ← leadingLines (c.rest.length + 1) c 0
        pure (breaks, max least widest, c)
    | some width => do
        let indent := least + width - 1
        let (breaks, c) ← indentedBreaks indent (c.rest.length + 1) c
        pure (breaks, indent, c)
  let (text, c) ←
    if c.column = indent ∧ !c.isAtEnd then
      blockLines folded chomping indent (c.rest.length + 1) breaks c
    else pure (if chomping = .keep then breaks else [], c)
  return (.scalar (String.ofList text) false, c)

end MuxLaunch.Yaml.Cursor
