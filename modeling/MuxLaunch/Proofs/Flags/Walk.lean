import MuxLaunch.Flags.Basic

/-! # The walk over the flags

The customary walk from left to right over the letters of a command line, guided by an option
string. It knows nothing of gluing and bundling: a letter that takes a value takes the rest of its
word, or else the next word, and every other letter stands for itself.
-/

namespace MuxLaunch

/-- The flags of the program. A letter that takes a value is followed by a colon. -/
def optionString : String := "2c:Cf:lL:qS:uvFk:n:r:a:hV"

/-- The arity that an option string gives to a letter. A colon is no letter. -/
def Arity.inOptionString (letter : Char) : List Char → Option Arity
  | [] => none
  | known :: rest =>
      if letter = known ∧ letter ≠ ':' then
        some (if rest.head? = some ':' then .value else .switch)
      else inOptionString letter rest

/-- The arity of a flag of the program. -/
def Arity.ofLetter (letter : Char) : Option Arity :=
  inOptionString letter optionString.toList

/-- A letter met on the walk, with the value that it takes. -/
structure MetFlag where
  letter : Char
  value : Option String
  deriving Repr, DecidableEq

/-- Is the letter known, and has it a value if it takes one? -/
def MetFlag.isProper (f : MetFlag) : Bool :=
  match Arity.ofLetter f.letter with
  | none => false
  | some .switch => true
  | some .value => f.value.isSome

/-- A walk that has come to its end. -/
structure Walk where
  met : List MetFlag
  /-- The words that have not been read, from the first one that ends the flags. -/
  rest : List String
  deriving Repr, DecidableEq

namespace Walk

/-- Walk over the letters of a word, up to one that still wants the next word. -/
def overLetters : List Char → List MetFlag × Option Char
  | [] => ([], none)
  | letter :: rest =>
      if Arity.ofLetter letter = some .value then
        if rest = [] then ([], some letter) else ([⟨letter, some (String.ofList rest)⟩], none)
      else (⟨letter, none⟩ :: (overLetters rest).1, (overLetters rest).2)

def prepend (w : Walk) (met : List MetFlag) : Walk :=
  { w with met := met ++ w.met }

/-- Walk over words up to the first that ends the flags. -/
def ofWords : List String → Walk
  | [] => ⟨[], []⟩
  | word :: rest =>
      if endsFlags word then ⟨[], word :: rest⟩
      else
        match overLetters word.toList.tail, rest with
        | (met, none), rest => (ofWords rest).prepend met
        | (met, some letter), [] => ⟨met ++ [⟨letter, none⟩], []⟩
        | (met, some letter), value :: rest =>
            (ofWords rest).prepend (met ++ [⟨letter, some value⟩])

/-- Only known letters are met, and every one that takes a value finds it. -/
def IsWellFormed (w : Walk) : Prop :=
  ∀ f ∈ w.met, f.isProper

instance (w : Walk) : Decidable w.IsWellFormed :=
  inferInstanceAs (Decidable (∀ f ∈ w.met, f.isProper))

def letters (w : Walk) : List Char :=
  w.met.map MetFlag.letter

/-- The first letter that asks for the version or for help. -/
def early? (w : Walk) : Option Char :=
  w.letters.find? fun letter => letter = 'V' ∨ letter = 'h'

def last? (w : Walk) (letter : Char) : Option String :=
  w.met.reverse.findSome? fun f => if f.letter = letter then f.value else none

/-- The words that have not been read, without a double dash in front of them. -/
def command (w : Walk) : List String :=
  if w.rest.head? = some "--" then w.rest.tail else w.rest

/-- What the walk asks for: each value is the last one given for its letter, each count is the
    number of its letters, and each switch tells whether its letter is met. -/
def commandLine (w : Walk) : CommandLine where
  colours256 := w.letters.contains '2'
  control := w.letters.count 'C'
  login := w.letters.contains 'l'
  quiet := w.letters.contains 'q'
  utf8 := w.letters.contains 'u'
  verbosity := w.letters.count 'v'
  foreground := w.letters.contains 'F'
  shellCommand := w.last? 'c'
  configFile := w.last? 'f'
  label := w.last? 'L'
  socket := w.last? 'S'
  apiKey := w.last? 'k'
  sessionName := w.last? 'n'
  readOnlyName := w.last? 'r'
  authorizedKeys := w.last? 'a'
  command := w.command

end Walk

end MuxLaunch
