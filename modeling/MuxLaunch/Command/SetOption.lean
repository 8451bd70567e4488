import MuxLaunch.Flags.Bundle
import MuxLaunch.Flags.Scan
import MuxLaunch.Options.Trees

/-! # The command that sets an option

The words of `set-option [-gqsuw] option [value]` and what they do to the option trees.
-/

namespace MuxLaunch

/-- Why a command fails. -/
inductive CommandFault where
  | empty
  | unknown (name : String)
  | flag (f : FlagFault)
  | noOption
  | tooManyWords
  /-- A value is given for an option that is to be reset. -/
  | valueToReset
  | option (f : OptionFault)
  deriving Repr, DecidableEq

def CommandFault.message : CommandFault → String
  | empty => "empty command"
  | unknown name => "unknown command: " ++ name
  | flag f => f.message
  | noOption => "missing option name"
  | tooManyWords => "too many arguments"
  | valueToReset => "value given with -u"
  | option f => f.message

/-- The flags of the command. -/
structure SetOptionFlags where
  /-- Pass over an option that does not exist. -/
  quiet : Bool := false
  server : Bool := false
  reset : Bool := false
  window : Bool := false
  deriving Repr, DecidableEq

namespace SetOptionFlags

/-- The flag letters. None of them takes a value. -/
def arity (letter : Char) : Option Arity :=
  if ['g', 'q', 's', 'u', 'w'].contains letter then some .switch else none

/-- Act on a flag. Every option is global, so `g` changes nothing. -/
def act (fs : SetOptionFlags) (letter : Char) : SetOptionFlags :=
  match letter with
  | 'q' => { fs with quiet := true }
  | 's' => { fs with server := true }
  | 'u' => { fs with reset := true }
  | 'w' => { fs with window := true }
  | _ => fs

/-- Read words of flags; unknown ones are refused at the end. -/
def readWords (unknown : List String) (fs : SetOptionFlags) :
    List String → Except FlagFault SetOptionFlags
  | [] => if unknown ≠ [] then .error (.unknown unknown) else .ok fs
  | word :: rest =>
      match Bundle.read? arity word.toList.tail with
      | none => readWords (unknown ++ [word]) fs rest
      | some (.error f) => .error f
      | some (.ok b) => readWords unknown (b.letters.foldl act fs) rest

end SetOptionFlags

namespace SetOption

/-- Split words into flags and the rest. The flags end at the first word that is none, and a
    double dash ends them and counts for neither part. -/
def splitFlags : List String → List String × List String
  | [] => ([], [])
  | word :: rest =>
      if word = "-" ∨ !startsWithDash word then ([], word :: rest)
      else if word = "--" then ([], rest)
      else (word :: (splitFlags rest).1, (splitFlags rest).2)

/-- The tree to set an option in: the one that a flag forces, else the one of its scope. -/
def scopeOf (fs : SetOptionFlags) (name : String) : Except OptionFault Scope :=
  if fs.server then .ok .server
  else if fs.window then .ok .window
  else match OptionEntry.find? name with
    | some e => .ok e.scope
    | none => .error (.invalid name)

/-- The scope to set an option in, if the tree there has the option. -/
def select (ts : OptionTrees) (fs : SetOptionFlags) (name : String) : Except OptionFault Scope := do
  let scope ← scopeOf fs name
  if (ts.tree scope).contains name then return scope
  else throw (.invalid name)

def valueText : OptionValue → String
  | .text s => Text.quoted s
  | .number n => toString n
  | .flag b => if b then "True" else "False"

/-- What the journal says when an option has been set from a text. -/
def setNote (t : OptionTree) (name : String) : List Note :=
  match t.value? name with
  | some v =>
      [⟨.optionSet, t.scope.name ++ " option " ++ name ++ " = " ++ valueText v⟩]
  | none => []

/-- Set or reset an option, given the words after the flags. -/
def assign (ts : OptionTrees) (fs : SetOptionFlags) (name : String) (value : Option String) :
    Except CommandFault (OptionTrees × List Note) :=
  match select ts fs name with
  | .error f =>
      if fs.quiet then .ok (ts, [⟨.optionIgnored, "Ignoring unknown option " ++ name⟩])
      else .error (.option f)
  | .ok scope =>
      if fs.reset then
        if value.isSome then .error .valueToReset
        else match (ts.tree scope).reset name with
          | .error f => .error (.option f)
          | .ok t => .ok (ts.setTree scope t, [])
      else
        match (ts.tree scope).parse name value with
        | .error f => .error (.option f)
        | .ok t => .ok (ts.setTree scope t, setNote t name)

def run (ts : OptionTrees) (words : List String) : Except CommandFault (OptionTrees × List Note) :=
  match SetOptionFlags.readWords [] {} (splitFlags words).1, (splitFlags words).2 with
  | .error f, _ => .error (.flag f)
  | .ok _, [] => .error .noOption
  | .ok fs, [name] => assign ts fs name none
  | .ok fs, [name, value] => assign ts fs name (some value)
  | .ok _, _ => .error .tooManyWords

end SetOption

end MuxLaunch
