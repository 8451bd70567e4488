import MuxLaunch.Text.Quoted

/-! # Bundled flags

A word of flags is a dash and letters. The letters are read from left to right; a letter that
takes a value takes the rest of the word, and only an empty rest leaves it wanting the next word.
-/

namespace MuxLaunch

/-- Does a flag take a value? -/
inductive Arity where
  | switch
  | value
  deriving Repr, DecidableEq

/-- Why words of flags are refused. -/
inductive FlagFault where
  /-- A switch is followed by a text that it has no use for. -/
  | unusedText (letter : Char) (text : List Char)
  /-- No value is left for a letter that takes one. -/
  | noValue (letter : Char)
  /-- Words that begin with no known letter. -/
  | unknown (words : List String)
  deriving Repr, DecidableEq

def FlagFault.message : FlagFault → String
  | unusedText letter text =>
      "argument -" ++ String.singleton letter ++ ": ignored explicit argument "
        ++ String.ofList (Text.Quoted.encode text)
  | noValue letter => "argument -" ++ String.singleton letter ++ ": expected one argument"
  | unknown words => "unrecognized arguments: " ++ " ".intercalate words

/-- The letters of a word up to the first that takes a value. -/
structure Bundle where
  letters : List Char
  /-- The last letter, when its value has to be the next word. -/
  wanting : Option Char
  deriving Repr, DecidableEq

namespace Bundle

variable (arity : Char → Option Arity)

/-- The bundle that goes on after a known letter. -/
def follow (letter : Char) : List Char → Except FlagFault Bundle
  | [] => .ok ⟨[letter], if arity letter = some .value then some letter else none⟩
  | next :: rest =>
      if arity letter = some .value then .ok ⟨[letter], none⟩
      else if arity next = none then .error (.unusedText letter (next :: rest))
      else (follow next rest).map fun b => { b with letters := letter :: b.letters }

/-- The bundle of a word, given what follows the dash; there is none when the first letter is
    unknown. An equals sign right after a first letter that is a switch is skipped. This is how the
    standard argument parser reads words up to release 3.11.8; from 3.11.9 on it refuses such a
    word, for instance `-v=u`. -/
def read? (text : List Char) : Option (Except FlagFault Bundle) :=
  match text with
  | [] => none
  | letter :: rest =>
      match arity letter, rest with
      | none, _ => none
      | some .switch, ['='] => some (.error (.unusedText letter []))
      | some .switch, '=' :: rest => some (follow arity letter rest)
      | some _, rest => some (follow arity letter rest)

end Bundle

end MuxLaunch
