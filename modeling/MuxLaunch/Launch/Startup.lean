import MuxLaunch.Launch.Machine
import MuxLaunch.Flags.Usage

/-! # Startup

The steps from the command line to the context of a client, in their order: the locale, the
command line, the journal, the capabilities, the shell, the option trees and the socket.
-/

namespace MuxLaunch.Launch

def establishLocale : Launch Unit := do
  let work := (← get).host.locales.establish
  match work.result with
  | .error f => throw (.locale f)
  | .ok _ => noteAll work.notes

/-- Read the command line. Whoever asks for the version gets it at once. -/
def readCommandLine (program : String) (words : List String) : Launch CommandLine := do
  match CommandLine.ofWords words with
  | .ok line => return line
  | .error (.usage f) => throw (.usage f)
  | .error .version =>
      modify fun m => m.print (versionText program)
      throw .quit

/-- Leave the session that the program runs in: in the foreground there is none. -/
def leaveSession (line : CommandLine) : Launch Unit :=
  modify fun m =>
    if line.foreground then { m with environ := m.environ.unset sessionMarker } else m

/-- Every switch to the foreground counts as one more call for verbosity. -/
def verbosityOf (line : CommandLine) : Nat :=
  if line.foreground then line.verbosity + 1 else line.verbosity

/-- The capabilities of the client in an environment. -/
def capabilitiesIn (e : Environ) (program : String) (line : CommandLine) (p : Profile) :
    Capabilities :=
  let c := Capabilities.compose program line p
  { c with utf8 := c.utf8 || e.showsUtf8 }

def findShell (program : String) (p : Profile) : Launch String := do
  let m ← get
  let (shell, notes) := Shell.resolve m.host m.storage m.environ program p.fallbackShell
  noteAll notes
  return shell

def buildTrees (shell : String) (directory : Option String) : Launch OptionTrees := do
  let m ← get
  let trees := OptionTrees.initial m.environ shell (directory <|> m.storage.workingDirectory)
  let (withKeys, notes) := trees.withEditorKeys m.environ
  noteAll (trees.initialNote :: notes)
  return withKeys

def locateSocket (request : SocketRequest) (user : Option Int) : Launch String := do
  let m ← get
  let (work, random) :=
    Socket.locate m.storage m.environ (user.getD m.storage.user) request m.random
  set { m with storage := work.storage, random }
  noteAll work.notes
  match work.result with
  | .ok path => return path
  | .error f => throw f.failure

/-- Go through all steps. `setUp` opens the journal at a verbosity; the user and the working
    directory are those of the process unless others are given. -/
def startup (arguments : List String) (p : Profile) (setUp : Nat → Launch Unit)
    (user : Option Int) (directory : Option String) : Launch Context := do
  establishLocale
  let program := programName arguments
  let line ← readCommandLine program arguments.tail
  let verbosity := verbosityOf line
  leaveSession line
  setUp verbosity
  let capabilities := capabilitiesIn (← get).environ program line p
  let shell ← findShell program p
  let trees ← buildTrees shell directory
  let socket ← locateSocket (line.socketRequest p) user
  noteAll
    [⟨.socketFound, "Socket path: " ++ socket⟩,
     ⟨.capabilitiesFound, "Client flags: " ++ capabilities.describe ++ " shell: " ++ shell⟩]
  return {
    program, socket, capabilities, trees, verbosity
    shellCommand := line.shellCommand
    arguments := line.command
    deferred := line.deferred
    profile := p
    configFile := line.configFile
    foreground := line.foreground
    causes := [] }

end MuxLaunch.Launch
