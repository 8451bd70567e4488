import MuxLaunch.Text.Blank

/-! # Physical lines

Splitting a text at its line boundaries, and the reading of line ends in text files.
-/

namespace MuxLaunch.Text

/-- The lines of a text without their boundaries. A boundary at the end of the text opens no
    further line, so the empty text has none. -/
def lines : List Char → List (List Char)
  | [] => []
  | '\r' :: '\n' :: rest => [] :: lines rest
  | c :: rest =>
      if isLineBoundary c then [] :: lines rest
      else match lines rest with
        | [] => [[c]]
        | line :: more => (c :: line) :: more

/-- Line ends as a text file is read: each of the three customary ends becomes a line feed. -/
def unifyLineEnds : List Char → List Char
  | [] => []
  | '\r' :: '\n' :: rest => '\n' :: unifyLineEnds rest
  | c :: rest => (if c = '\r' then '\n' else c) :: unifyLineEnds rest

end MuxLaunch.Text
