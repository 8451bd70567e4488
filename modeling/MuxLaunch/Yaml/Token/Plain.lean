import MuxLaunch.Yaml.Token.Quoted

/-! # Plain YAML scalars

A scalar without quotation marks ends before a comment, a colon that introduces a value, an
indicator of a flow collection it stands in, or a line that is indented too little.
-/

namespace MuxLaunch.Yaml.Cursor

/-- Does a plain scalar stop at the head of these characters? -/
def stopsPlain (inFlow : Bool) (cs : List Char) : Bool :=
  let ch := cs.head?.getD endMark
  let after := cs.tail.head?.getD endMark
  isWideGap ch
    || (ch = ':' && (isWideGap after || (inFlow && ",[]\x7b\x7d".toList.contains after)))
    || (inFlow && ",?[]\x7b\x7d".toList.contains ch)

/-- How many characters a plain scalar takes up before it stops, and how many have to be looked
    at to find out. A colon alone takes a look at the character after it. -/
def plainLength (inFlow : Bool) : List Char → Nat × Nat
  | [] => (0, 0)
  | ch :: rest =>
      if stopsPlain inFlow (ch :: rest) then (0, if ch = ':' then 1 else 0)
      else
        let (length, looked) := plainLength inFlow rest
        (length + 1, max (looked + 1) (if ch = ':' then 1 else 0))

/-- The blanks and breaks after a part of a plain scalar. `none` says that a document marker
    follows. -/
structure PlainGap where
  text : Option (List Char)
  brokeLine : Bool
  cursor : Cursor

/-- Further breaks and spaces inside a plain scalar. The first argument bounds the number of
    characters read. -/
def plainBreaks : Nat → Cursor → Except Fault (Option (List Char) × Cursor)
  | 0, c => .ok (some [], c)
  | bound + 1, c => do
      if c.peek = ' ' then plainBreaks bound (← c.next)
      else if isBreak c.peek then
        let (ch, c) ← c.takeBreak
        if ← c.isDocumentBoundary then return (none, c)
        let (more, c) ← plainBreaks bound c
        return (more.map (ch ++ ·), c)
      else return (some [], c)

/-- The gap after a part of a plain scalar. -/
def plainGap (c : Cursor) : Except Fault PlainGap := do
  let (blanks, c) ← c.span (· = ' ')
  if isBreak c.peek then
    let (first, c) ← c.takeBreak
    if ← c.isDocumentBoundary then return ⟨none, true, c⟩
    let (further, c) ← plainBreaks (c.rest.length + 1) c
    return ⟨further.map (foldBreak first), true, c⟩
  else return ⟨some blanks, false, c⟩

/-- The parts of a plain scalar and whether the last of them was followed by a line break. The
    first argument bounds the number of parts; `gap` stands before the next one. -/
def plainParts (inFlow : Bool) (indent : Int) :
    Nat → List Char → Bool → Cursor → Except Fault ((List Char × Bool) × Cursor)
  | 0, _, broke, c => .ok (([], broke), c)
  | bound + 1, gap, broke, c => do
      if c.peek = '#' then return (([], broke), c)
      let (length, looked) := plainLength inFlow c.rest
      c.reach looked
      if length = 0 then return (([], broke), c)
      let text := c.rest.take length
      let after ← (← c.skip length).plainGap
      match after.text with
      | none => return ((gap ++ text, after.brokeLine), after.cursor)
      | some next =>
          if next = [] ∨ after.cursor.peek = '#'
              ∨ (!inFlow ∧ (after.cursor.column : Int) < indent) then
            return ((gap ++ text, after.brokeLine), after.cursor)
          let ((more, broke), c) ←
            plainParts inFlow indent bound next after.brokeLine after.cursor
          return ((gap ++ text ++ more, broke), c)

/-- A plain scalar inside a collection that is indented by `parent` columns, and whether a simple
    key may follow it at once, which is so at the start of a line. -/
def plainScalar (inFlow : Bool) (parent : Int) (c : Cursor) :
    Except Fault ((Token × Bool) × Cursor) := do
  let ((text, broke), c) ← plainParts inFlow (parent + 1) (c.rest.length + 1) [] false c
  return ((.scalar (String.ofList text) true, broke), c)

end MuxLaunch.Yaml.Cursor
