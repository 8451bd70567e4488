import MuxLaunch.Yaml.Token
import MuxLaunch.Text.Integer

/-! # Names in a YAML stream

Reading anchors, aliases, tags and directives. A reader yields what it read and the position after
it.
-/

namespace MuxLaunch.Yaml.Cursor

/-- The characters of a tag besides letters and digits. -/
def isUriChar (c : Char) : Bool :=
  isNameChar c || "-;/?:@&=+$,_.!~*'()[]%".toList.contains c

/-- A run of percent escapes, as bytes. The first argument bounds the length of the run. -/
def percentEscapes : Nat → Cursor → Except Fault (List UInt8 × Cursor)
  | 0, c => .ok ([], c)
  | bound + 1, c => do
      if c.peek ≠ '%' then return ([], c)
      let c ← c.next
      let code ← c.hexAhead 2
      let (more, c) ← percentEscapes bound (← c.skip 2)
      return (UInt8.ofNat code :: more, c)

/-- The parts of a tag up to the first character that belongs to none. The first argument bounds
    their number. -/
def uriParts : Nat → Cursor → Except Fault (List Char × Cursor)
  | 0, c => .ok ([], c)
  | bound + 1, c => do
      let (run, c) ← c.span fun ch => isUriChar ch && ch ≠ '%'
      if c.peek = '%' then
        let (bytes, c) ← percentEscapes (c.rest.length + 1) c
        match Text.Utf8.decode bytes with
        | .error _ => throw .malformed
        | .ok chars =>
            let (more, c) ← uriParts bound c
            return (run ++ chars ++ more, c)
      else return (run, c)

/-- A nonempty tag suffix or expansion. -/
def uri (c : Cursor) : Except Fault (List Char × Cursor) := do
  let (text, after) ← uriParts (c.rest.length + 1) c
  if after.index = c.index then throw .malformed
  return (text, after)

/-- A tag handle: an exclamation mark alone before a space, or a name between two of them. -/
def tagHandle (c : Cursor) : Except Fault (List Char × Cursor) := do
  if c.peek ≠ '!' then throw .malformed
  let c ← c.next
  if c.peek = ' ' then return (['!'], c)
  let (name, c) ← c.span isNameChar
  if c.peek ≠ '!' then throw .malformed
  return ('!' :: name ++ ['!'], ← c.next)

def anchorName (c : Cursor) : Except Fault (String × Cursor) := do
  let (name, after) ← (← c.next).span isNameChar
  if name = [] then throw .malformed
  if !(isWideGap after.peek || "?:,]\x7d%@`".toList.contains after.peek) then throw .malformed
  return (String.ofList name, after)

/-- Does the word that starts here hold an exclamation mark after its first character? -/
def hasSecondMark (c : Cursor) : Except Fault Bool := do
  let (_, stop) ← (← c.next).span fun ch => !isGap ch && ch ≠ '!'
  return stop.peek = '!'

def tag (c : Cursor) : Except Fault (Token × Cursor) := do
  let (token, after) ←
    if (← c.peekAt 1) = '<' then do
      let (suffix, after) ← (← c.skip 2).uri
      if after.peek ≠ '>' then throw .malformed
      pure (Token.tag none (String.ofList suffix), ← after.next)
    else if isWideGap (← c.peekAt 1) then
      pure (Token.tag none "!", ← c.next)
    else do
      let (handle, after) ←
        if ← c.hasSecondMark then c.tagHandle else pure (['!'], ← c.next)
      let (suffix, after) ← after.uri
      pure (Token.tag (some (String.ofList handle)) (String.ofList suffix), after)
  if !isGap after.peek then throw .malformed
  return (token, after)

/-- A number of a version. Like every number in text it has a limit to its digits. -/
def versionNumber (c : Cursor) : Except Fault (Nat × Cursor) := do
  let (digits, after) ← c.span Text.isAsciiDigit
  if digits = [] then throw .malformed
  if Text.Integer.digitLimit < digits.length then throw (.longVersion digits.length)
  return (digits.foldl (fun n d => n * 10 + (d.toNat - 48)) 0, after)

/-- The rest of a line that may hold a comment only, and its break. -/
def restOfLine (c : Cursor) : Except Fault (Unit × Cursor) := do
  let c ← (← c.skipSpaces).skipComment
  if !isLineEnd c.peek then throw .malformed
  return ((), (← c.takeBreak).2)

def directive (c : Cursor) : Except Fault (Token × Cursor) := do
  let (name, c) ← (← c.next).span isNameChar
  if name = [] then throw .malformed
  if !isGap c.peek then throw .malformed
  let (d, c) ←
    if name = "YAML".toList then do
      let (major, c) ← (← c.skipSpaces).versionNumber
      if c.peek ≠ '.' then throw .malformed
      let (minor, c) ← (← c.next).versionNumber
      if !isGap c.peek then throw .malformed
      pure (Directive.version major minor, c)
    else if name = "TAG".toList then do
      let (handle, c) ← (← c.skipSpaces).tagHandle
      if c.peek ≠ ' ' then throw .malformed
      let (expansion, c) ← (← c.skipSpaces).uri
      if !isGap c.peek then throw .malformed
      pure (Directive.handle (String.ofList handle) (String.ofList expansion), c)
    else pure (Directive.other (String.ofList name), ← c.skipWhile (! isLineEnd ·))
  let ((), c) ← c.restOfLine
  return (.directive d, c)

end MuxLaunch.Yaml.Cursor
