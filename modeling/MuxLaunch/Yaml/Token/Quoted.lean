import MuxLaunch.Yaml.Token

/-! # Quoted YAML scalars

Between single quotes a doubled quote stands for one; between double quotes a backslash starts an
escape. A line break inside either folds into a space, and further breaks are kept.
-/

namespace MuxLaunch.Yaml.Cursor

/-- Line breaks inside a quoted scalar together with the blanks that begin each line. A document
    marker at the start of a line is refused. The first argument bounds the number of breaks. -/
def quotedBreaks : Nat → Cursor → Except Fault (List Char × Cursor)
  | 0, c => .ok ([], c)
  | bound + 1, c => do
      if ← c.isDocumentBoundary then throw .malformed
      let c ← c.skipWhile fun ch => ch = ' ' || ch = '\t'
      if isBreak c.peek then
        let (ch, c) ← c.takeBreak
        let (more, c) ← quotedBreaks bound c
        return (ch ++ more, c)
      else return ([], c)

/-- How a first line break and the ones after it are read: a line feed alone becomes a space, and
    before further breaks it is dropped. -/
def foldBreak (first further : List Char) : List Char :=
  if first ≠ ['\n'] then first ++ further
  else if further = [] then [' ']
  else further

/-- Blanks inside a quoted scalar, with a folded line break if one follows them. -/
def quotedBlanks (c : Cursor) : Except Fault (List Char × Cursor) := do
  let (blanks, c) ← c.span fun ch => ch = ' ' || ch = '\t'
  if c.isAtEnd then throw .malformed
  if isBreak c.peek then
    let (first, c) ← c.takeBreak
    let (further, c) ← quotedBreaks (c.rest.length + 1) c
    return (foldBreak first further, c)
  else return (blanks, c)

def simpleEscape? (c : Char) : Option Char :=
  match c with
  | '0' => some '\x00'
  | 'a' => some '\x07'
  | 'b' => some '\x08'
  | 't' => some '\t'
  | '\t' => some '\t'
  | 'n' => some '\n'
  | 'v' => some '\x0b'
  | 'f' => some '\x0c'
  | 'r' => some '\r'
  | 'e' => some '\x1b'
  | ' ' => some ' '
  | '\x22' => some '\x22'
  | '\\' => some '\\'
  | '/' => some '/'
  | 'N' => some '\x85'
  | '_' => some '\xa0'
  | 'L' => some '\u2028'
  | 'P' => some '\u2029'
  | _ => none

def numericEscape? (c : Char) : Option Nat :=
  match c with
  | 'x' => some 2
  | 'u' => some 4
  | 'U' => some 8
  | _ => none

/-- The character with a number. A surrogate is none. Those that stand for bytes in paths are read
    as replacement characters, and all others as null characters, which no path holds either. -/
def charOfNumber (n : Nat) : Except Fault Char :=
  if 0x80000000 ≤ n then .error .codePointOverflow
  else if 0x110000 ≤ n then .error .codePointRange
  else if 0xdc80 ≤ n ∧ n < 0xdd00 then .ok '\ufffd'
  else if 0xd800 ≤ n ∧ n < 0xe000 then .ok '\x00'
  else .ok (Char.ofNat n)

/-- What follows a backslash between double quotes. -/
def escape (c : Cursor) : Except Fault (List Char × Cursor) := do
  match simpleEscape? c.peek, numericEscape? c.peek with
  | some ch, _ => return ([ch], ← c.next)
  | none, some width =>
      let c ← c.next
      let ch ← charOfNumber (← c.hexAhead width)
      return ([ch], ← c.skip width)
  | none, none =>
      if isBreak c.peek then
        let (_, c) ← c.takeBreak
        quotedBreaks (c.rest.length + 1) c
      else throw .malformed

/-- Characters of a quoted scalar that are neither blank nor break nor plain text. -/
def isQuotedStop (c : Char) : Bool :=
  c = '\x27' || c = '\x22' || c = '\\' || isWideGap c

/-- The text of a quoted scalar up to the closing mark. The first argument bounds the number of
    its parts. -/
def quotedParts (double : Bool) : Nat → Cursor → Except Fault (List Char × Cursor)
  | 0, _ => .error .malformed
  | bound + 1, c => do
      let (run, c) ← c.span fun ch => !isQuotedStop ch
      let ch := c.peek
      if ch = '\x27' ∧ !double then
        if (← c.peekAt 1) ≠ '\x27' then return (run, ← c.next)
        let (more, c) ← quotedParts double bound (← c.skip 2)
        return (run ++ '\x27' :: more, c)
      else if ch = '\x22' ∧ double then return (run, ← c.next)
      else if ch = '\\' ∧ double then
        let (part, c) ← (← c.next).escape
        let (more, c) ← quotedParts double bound c
        return (run ++ part ++ more, c)
      else if ch = '\x27' ∨ ch = '\x22' ∨ ch = '\\' then
        let (more, c) ← quotedParts double bound (← c.next)
        return (run ++ ch :: more, c)
      else
        let (part, c) ← c.quotedBlanks
        let (more, c) ← quotedParts double bound c
        return (run ++ part ++ more, c)

def quotedScalar (c : Cursor) : Except Fault (Token × Cursor) := do
  let (text, after) ← quotedParts (c.peek = '\x22') (c.rest.length + 1) (← c.next)
  return (.scalar (String.ofList text) false, after)

end MuxLaunch.Yaml.Cursor
