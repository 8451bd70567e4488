import MuxLaunch.Launch.Capabilities
import MuxLaunch.Command.Runner
import MuxLaunch.Deferred
import MuxLaunch.Socket.Basic

/-! # The context of a client

Everything that a launch settles before the client starts.
-/

namespace MuxLaunch

structure Context where
  program : String
  socket : String
  capabilities : Capabilities
  /-- The command for the shell, if one is given with a flag. -/
  shellCommand : Option String
  arguments : List String
  trees : OptionTrees
  deferred : DeferredQueue
  profile : Profile
  configFile : Option String
  verbosity : Nat
  foreground : Bool
  /-- The failures that have been put off. -/
  causes : List String
  deriving Repr, DecidableEq

/-- How a client ends. -/
inductive Reply where
  | exit (status : Int)
  | interrupt
  deriving Repr, DecidableEq

/-- An installed client. One that is handed to the program directly has no name. -/
structure Client where
  name : Option String
  reply : Reply
  deriving Repr, DecidableEq

/-- A client that has been started, and the context it was given. -/
structure ClientStart where
  client : Client
  context : Context
  deriving Repr, DecidableEq

/-- The name under which the program was called: the last part of its path, or the customary name
    when there is none. -/
def programName (arguments : List String) : String :=
  match Path.baseName (arguments.headD "") with
  | "" => "tmate"
  | name => name

/-- The options on the command line that wait for the configuration files. -/
def CommandLine.deferred (line : CommandLine) : DeferredQueue :=
  [(Deferrable.apiKey, line.apiKey), (.sessionName, line.sessionName),
    (.readOnlyName, line.readOnlyName), (.authorizedKeys, line.authorizedKeys)].foldl
      (fun q (d, value) => match value with
        | some value => q.put d value
        | none => q) .empty

/-- What the command line and the profile ask for about the socket. -/
def CommandLine.socketRequest (line : CommandLine) (p : Profile) : SocketRequest where
  path := line.socket
  label := line.label
  directoryStart := p.directoryStart
  randomLabel := p.randomizeLabel

end MuxLaunch
