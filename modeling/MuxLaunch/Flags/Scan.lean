/-! # Values of flags

The first pass over the words of a command line. It finds the value of every flag that takes one,
whatever the value looks like, and glues a value that begins with a dash to its flag, so that it
is not mistaken for another flag later.
-/

namespace MuxLaunch

inductive ValueFlag where
  | command
  | configFile
  | label
  | socket
  | apiKey
  | sessionName
  | readOnlyName
  | authorizedKeys
  deriving Repr, DecidableEq

namespace ValueFlag

def ofLetter? : Char → Option ValueFlag
  | 'c' => some command
  | 'f' => some configFile
  | 'L' => some label
  | 'S' => some socket
  | 'k' => some apiKey
  | 'n' => some sessionName
  | 'r' => some readOnlyName
  | 'a' => some authorizedKeys
  | _ => none

/-- The first flag with a value in a bundle of letters, and the text after it. -/
def first? : List Char → Option (ValueFlag × List Char)
  | [] => none
  | letter :: rest =>
      match ofLetter? letter with
      | some flag => some (flag, rest)
      | none => first? rest

end ValueFlag

def startsWithDash (word : String) : Bool :=
  word.toList.head? = some '-'

/-- A word that ends the flags: a double dash, a single one, or one that begins with none. -/
def endsFlags (word : String) : Bool :=
  word = "--" || word = "-" || !startsWithDash word

/-- The words of a command line with values glued on, and the values in the order in which they
    were met. -/
structure FlagScan where
  words : List String
  values : List (ValueFlag × String)
  deriving Repr, DecidableEq

namespace FlagScan

def prepend (s : FlagScan) (words : List String) (values : List (ValueFlag × String)) : FlagScan :=
  ⟨words ++ s.words, values ++ s.values⟩

/-- Scan the words up to the first that ends the flags. -/
def ofWords : List String → FlagScan
  | [] => ⟨[], []⟩
  | word :: rest =>
      if endsFlags word then ⟨word :: rest, []⟩
      else
        match ValueFlag.first? word.toList.tail, rest with
        | none, rest => (ofWords rest).prepend [word] []
        | some (_, []), [] => ⟨[word], []⟩
        | some (flag, []), value :: rest =>
            (ofWords rest).prepend
              (if startsWithDash value then [word ++ value] else [word, value]) [(flag, value)]
        | some (flag, text), rest =>
            (ofWords rest).prepend [word] [(flag, String.ofList text)]

def value? (s : FlagScan) (flag : ValueFlag) : Option String :=
  s.values.reverse.lookup flag

end FlagScan

end MuxLaunch
