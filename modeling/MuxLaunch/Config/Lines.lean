import MuxLaunch.Text.Lines

/-! # Lines of a configuration

A configuration is made of logical lines. A physical line that ends in a backslash goes on in the
next one; blank lines and comments are dropped.
-/

namespace MuxLaunch

/-- A logical line and the number of the physical line that it begins in. -/
structure ConfigLine where
  number : Nat
  text : List Char
  deriving Repr, DecidableEq

namespace ConfigLine

/-- Does the physical line go on in the next one? Two backslashes at its end do not continue it: the
    first escapes the second. -/
def continues (raw : List Char) : Bool :=
  match raw.reverse with
  | '\\' :: '\\' :: _ => false
  | '\\' :: _ => true
  | _ => false

/-- Is the logical line empty or a comment? -/
def isIdle (text : List Char) : Bool :=
  text = [] || text.head? = some '#'

/-- Join physical lines. `pending` is what the lines before have left to be continued, and `start`
    is where it begins. -/
def join (pending : List Char) (start number : Nat) : List (List Char) → List ConfigLine
  | [] => if Text.trim pending = [] then [] else [⟨start, Text.trim pending⟩]
  | raw :: rest =>
      let start := if pending = [] then number else start
      if continues raw then join (pending ++ raw.dropLast) start (number + 1) rest
      else
        let text := Text.trim (pending ++ raw)
        if isIdle text then join [] start (number + 1) rest
        else ⟨start, text⟩ :: join [] start (number + 1) rest

def ofText (text : List Char) : List ConfigLine :=
  join [] 0 1 (Text.lines text)

end ConfigLine

end MuxLaunch
