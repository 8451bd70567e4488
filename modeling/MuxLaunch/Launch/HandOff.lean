import MuxLaunch.Launch.Machine
import MuxLaunch.Config.Load

/-! # The hand-off to the client

After startup the configuration files are loaded, the deferred options are delivered, and the
client starts. Without an installed client a dry run reports what has been settled.
-/

namespace MuxLaunch

/-- The runner of commands takes orders. One whose failure is to be put off never fails. -/
def CommandRunner.obey (o : Order) : EStateM CommandFault CommandRunner Bool := fun r =>
  if o.putsOff then
    let (succeeded, r) := r.runDeferred o.words none
    .ok succeeded r
  else
    match r.run o.words with
    | .ok r => .ok true r
    | .error f => .error f r

namespace Launch

def flushNotes (r : CommandRunner) : Launch CommandRunner := do
  noteAll r.notes
  return { r with notes := [] }

/-- Load one configuration file and count the commands that succeed. -/
def loadFile (path : String) (isOptional : Bool) (r : CommandRunner) :
    Launch (Nat × CommandRunner) := do
  match Config.load (← get).storage path isOptional r with
  | .error f => throw (.configuration f)
  | .ok (count, r) => return (count, ← flushNotes r)

/-- Load the file that was asked for, or else the one of the system and the user's own. -/
def loadFiles (file : Option String) (r : CommandRunner) : Launch (Nat × CommandRunner) := do
  match file with
  | some path => loadFile path false r
  | none =>
      let (count, r) ← loadFile Config.systemPath true r
      let m ← get
      match Shell.home? m.host m.storage m.environ with
      | none => return (count, r)
      | some home =>
          let (more, r) ← loadFile (Path.join home Config.userName) true r
          return (count + more, r)

/-- Give an order to the runner of commands, and note that an option was not applied. -/
def deliverTo : DeferredQueue.Delivery CommandFault CommandRunner := fun d _ o => do
  let (q, r) ← get
  match CommandRunner.obey o r with
  | .error f r => set (q, r); throw (.runner f)
  | .ok succeeded r =>
      let r := if succeeded then r
        else r.note ⟨.deferredOptionFailed, "Deferred option " ++ d.name ++ " was not applied"⟩
      set (q, r)
      return succeeded

/-- Deliver all deferred options and count them. -/
def deliverDeferred (q : DeferredQueue) (r : CommandRunner) :
    Launch (Nat × DeferredQueue × CommandRunner) := do
  match DeferredQueue.drain deliverTo (q, r) with
  | .ok count (q, r) => return (count, q, ← flushNotes r)
  | .error fault (_, r) =>
      noteAll r.notes
      match fault with
      | .gone d => throw (.gone d)
      | .runner f => throw (.command f)

def report (c : Context) : List String :=
  let command := match c.shellCommand, c.arguments with
    | some command, _ => "-c " ++ command
    | none, [] => "(default)"
    | none, words => " ".intercalate words
  let shell := match c.trees.session.value? "default-shell" with
    | some (.text shell) => shell
    | _ => ""
  ["socket: " ++ c.socket, "flags: " ++ c.capabilities.describe, "shell: " ++ shell,
    "command: " ++ command]

/-- Report what has been settled instead of starting a client. -/
def dryRun (c : Context) : Launch Int := do
  (report c).forM printLine
  noteAll [⟨.clientMissing, "No client entry point installed, dry run only"⟩]
  return 0

def start (client : Client) (c : Context) : Launch Int := do
  modify fun m => { m with starts := m.starts ++ [⟨client, c⟩] }
  match client.reply with
  | .exit status => return status
  | .interrupt => throw .interrupted

/-- Start the first of the installed clients. -/
def startInstalled (installed : List Client) (c : Context) : Launch Int := do
  match installed with
  | [] => dryRun c
  | [client] => start client c
  | client :: _ =>
      noteAll [⟨.clientAmbiguous, "Multiple client entry points registered, using "
        ++ client.name.getD ""⟩]
      start client c

/-- Settle the options for good and print the failures that have been put off. -/
def settle (c : Context) : Launch Context := do
  let (loaded, r) ← loadFiles c.configFile { trees := c.trees }
  let (delivered, deferred, r) ← deliverDeferred c.deferred r
  noteAll [⟨.configApplied, "Config commands applied: " ++ toString loaded
    ++ ", deferred options delivered: " ++ toString delivered⟩]
  let causes := c.causes ++ r.causes.map Cause.message
  modify fun m => m.printError (String.join (causes.map (· ++ "\n")))
  return { c with trees := r.trees, deferred, causes }

/-- Settle the options and start the client that is given, or else an installed one. -/
def handOff (c : Context) (client : Option Client) (installed : List Client) : Launch Int := do
  let c ← settle c
  match client with
  | some client => start client c
  | none => startInstalled installed c

end Launch

end MuxLaunch
