/-! # Searching and cutting text

Cutting a text at a separator and looking for a passage in it.
-/

namespace MuxLaunch.Text

def occurs (passage : List Char) : List Char → Bool
  | [] => passage.isEmpty
  | c :: rest => passage.isPrefixOf (c :: rest) || occurs passage rest

/-- Replace every occurrence of `passage`, from left to right and without overlap. The first
    argument counts the characters of an occurrence that are still to be skipped. -/
def replaceFrom (passage substitute : List Char) : Nat → List Char → List Char
  | _, [] => []
  | skip + 1, _ :: rest => replaceFrom passage substitute skip rest
  | 0, c :: rest =>
      if passage.isPrefixOf (c :: rest) then
        substitute ++ replaceFrom passage substitute (passage.length - 1) rest
      else c :: replaceFrom passage substitute 0 rest

/-- Replace every occurrence of the nonempty `passage` by `substitute`. -/
def replace (passage substitute text : List Char) : List Char :=
  replaceFrom passage substitute 0 text

/-- The pieces between the separators; there is always at least one. -/
def splitAt (separator : Char) : List Char → List (List Char)
  | [] => [[]]
  | c :: rest =>
      if c = separator then [] :: splitAt separator rest
      else match splitAt separator rest with
        | [] => [[c]]
        | piece :: more => (c :: piece) :: more

/-- The text before the first separator and the text after it, if there is one. -/
def cut (separator : Char) : List Char → Option (List Char × List Char)
  | [] => none
  | c :: rest =>
      if c = separator then some ([], rest)
      else (cut separator rest).map fun (before, after) => (c :: before, after)

/-- The text after the last separator, or all of it when there is none. -/
def afterLast (separator : Char) (text : List Char) : List Char :=
  (text.reverse.takeWhile (· ≠ separator)).reverse

end MuxLaunch.Text
