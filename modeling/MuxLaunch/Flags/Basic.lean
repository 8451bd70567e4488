import MuxLaunch.Flags.Bundle
import MuxLaunch.Flags.Scan

/-! # The command line

The flags of the program and the command after them. Flags come in bundles of single letters and
end at the first word that is none; whatever follows is the command.
-/

namespace MuxLaunch

inductive SwitchFlag where
  | colours256
  | control
  | version
  | login
  | quiet
  | utf8
  | verbose
  | foreground
  | help
  deriving Repr, DecidableEq

def SwitchFlag.ofLetter? : Char → Option SwitchFlag
  | '2' => some colours256
  | 'C' => some control
  | 'V' => some version
  | 'l' => some login
  | 'q' => some quiet
  | 'u' => some utf8
  | 'v' => some verbose
  | 'F' => some foreground
  | 'h' => some help
  | _ => none

/-- What was asked for on the command line. -/
structure CommandLine where
  colours256 : Bool := false
  /-- How often control mode was asked for. -/
  control : Nat := 0
  login : Bool := false
  quiet : Bool := false
  utf8 : Bool := false
  verbosity : Nat := 0
  foreground : Bool := false
  shellCommand : Option String := none
  configFile : Option String := none
  label : Option String := none
  socket : Option String := none
  apiKey : Option String := none
  sessionName : Option String := none
  readOnlyName : Option String := none
  authorizedKeys : Option String := none
  command : List String := []
  deriving Repr, DecidableEq

/-- Why a command line leads to no launch. -/
inductive UsageFault where
  | help
  | flag (f : FlagFault)
  /-- A command is given both with a flag and after the flags. -/
  | twoCommands
  deriving Repr, DecidableEq

def UsageFault.message : UsageFault → String
  | help => ""
  | flag f => f.message
  | twoCommands => "-c cannot be combined with a command"

/-- What the reading of a command line ends with when it ends early. -/
inductive EarlyEnd where
  | version
  | usage (f : UsageFault)
  deriving Repr, DecidableEq

namespace CommandLine

/-- The flag letters. -/
def arity (letter : Char) : Option Arity :=
  if (SwitchFlag.ofLetter? letter).isSome then some .switch
  else if (ValueFlag.ofLetter? letter).isSome then some .value
  else none

/-- Does the word begin the command? So does one that begins with no flag letter and has a space
    in it. -/
def startsCommand (word : String) : Bool :=
  endsFlags word || (word.toList.contains ' ' && (Bundle.read? arity word.toList.tail).isNone)

/-- Act on a flag. Flags with values are settled by the scan. -/
def act (line : CommandLine) (letter : Char) : Except EarlyEnd CommandLine :=
  match SwitchFlag.ofLetter? letter with
  | some .colours256 => .ok { line with colours256 := true }
  | some .control => .ok { line with control := line.control + 1 }
  | some .version => .error .version
  | some .login => .ok { line with login := true }
  | some .quiet => .ok { line with quiet := true }
  | some .utf8 => .ok { line with utf8 := true }
  | some .verbose => .ok { line with verbosity := line.verbosity + 1 }
  | some .foreground => .ok { line with foreground := true }
  | some .help => .error (.usage .help)
  | none => .ok line

/-- Act on flags from left to right. -/
def actAll (line : CommandLine) (letters : List Char) : Except EarlyEnd CommandLine :=
  letters.foldlM act line

/-- Read words of flags up to the command. A word is read as a whole before it is acted upon, and
    unknown words are refused only at the end. -/
def readWords (unknown : List String) (line : CommandLine) :
    List String → Except EarlyEnd CommandLine
  | [] => finish line []
  | word :: rest =>
      if startsCommand word then finish line (word :: rest)
      else
        match Bundle.read? arity word.toList.tail with
        | none => readWords (unknown ++ [word]) line rest
        | some (.error f) => .error (.usage (.flag f))
        | some (.ok ⟨letters, none⟩) => do readWords unknown (← line.actAll letters) rest
        | some (.ok ⟨letters, some letter⟩) =>
            match rest with
            | [] => .error (.usage (.flag (.noValue letter)))
            | value :: rest =>
                if value = "--" ∨ !startsCommand value then
                  .error (.usage (.flag (.noValue letter)))
                else do readWords unknown (← line.actAll letters) rest
where
  /-- The command begins here. -/
  finish (line : CommandLine) (command : List String) : Except EarlyEnd CommandLine :=
    if unknown ≠ [] then .error (.usage (.flag (.unknown unknown)))
    else .ok { line with command }

def dropDash (command : List String) : List String :=
  match command with
  | "--" :: rest => rest
  | _ => command

def withValues (line : CommandLine) (s : FlagScan) : CommandLine :=
  { line with
    shellCommand := s.value? .command
    configFile := s.value? .configFile
    label := s.value? .label
    socket := s.value? .socket
    apiKey := s.value? .apiKey
    sessionName := s.value? .sessionName
    readOnlyName := s.value? .readOnlyName
    authorizedKeys := s.value? .authorizedKeys
    command := dropDash line.command }

def ofWords (words : List String) : Except EarlyEnd CommandLine := do
  let s := FlagScan.ofWords words
  let line := (← readWords [] {} s.words).withValues s
  if line.shellCommand.isSome ∧ line.command ≠ [] then throw (.usage .twoCommands)
  return line

end CommandLine

end MuxLaunch
