/-! # Words of a command

A line is split into words at blanks. Single quotes take everything literally; between double
quotes a backslash escapes a backslash and a double quote; elsewhere it escapes any character. A
hash sign outside of quotes ends the line.
-/

namespace MuxLaunch

/-- Why a line cannot be split. -/
inductive WordFault where
  | openQuote
  /-- A backslash is the last character. -/
  | nothingEscaped
  deriving Repr, DecidableEq

def WordFault.message : WordFault → String
  | openQuote => "No closing quotation"
  | nothingEscaped => "No escaped character"

/-- Where in a line the reader stands. -/
inductive WordPlace where
  | between
  | inside
  | quoted (mark : Char)
  /-- After a backslash, which may stand between quotation marks. -/
  | escaped (mark : Option Char)
  deriving Repr, DecidableEq

namespace Words

def isSeparator (c : Char) : Bool :=
  c = ' ' || c = '\t' || c = '\r' || c = '\n'

def isMark (c : Char) : Bool :=
  c = '\x27' || c = '\x22'

/-- Read on from a place. `word` is the word so far; it is empty between words. -/
def read : WordPlace → List Char → List Char → Except WordFault (List (List Char))
  | .between, _, [] => .ok []
  | .inside, word, [] => .ok [word]
  | .quoted _, _, [] => .error .openQuote
  | .escaped _, _, [] => .error .nothingEscaped
  | .between, _, c :: rest =>
      if isSeparator c then read .between [] rest
      else if c = '#' then .ok []
      else if c = '\\' then read (.escaped none) [] rest
      else if isMark c then read (.quoted c) [] rest
      else read .inside [c] rest
  | .inside, word, c :: rest =>
      if isSeparator c then (read .between [] rest).map (word :: ·)
      else if c = '#' then .ok [word]
      else if c = '\\' then read (.escaped none) word rest
      else if isMark c then read (.quoted c) word rest
      else read .inside (word ++ [c]) rest
  | .quoted mark, word, c :: rest =>
      if c = mark then read .inside word rest
      else if c = '\\' ∧ mark = '\x22' then read (.escaped (some mark)) word rest
      else read (.quoted mark) (word ++ [c]) rest
  | .escaped none, word, c :: rest => read .inside (word ++ [c]) rest
  | .escaped (some mark), word, c :: rest =>
      read (.quoted mark) (word ++ (if c = '\\' ∨ c = mark then [c] else ['\\', c])) rest

def ofLine (line : List Char) : Except WordFault (List String) :=
  (read .between [] line).map (List.map String.ofList)

end Words

end MuxLaunch
