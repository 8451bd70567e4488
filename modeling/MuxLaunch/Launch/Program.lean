import MuxLaunch.Launch.Startup
import MuxLaunch.Launch.HandOff

/-! # The program

From the settings to the exit status. Failures that the user can mend are reported on the error
stream; all others end the program as they are.
-/

namespace MuxLaunch.Launch

/-- The report of a failure that the user can mend. -/
def complaint? (program : String) : Failure → Option String
  | .settings f => some ("Error loading config: " ++ f.message ++ "\n")
  | .usage f =>
      let complaint := if f.message = "" then "" else program ++ ": " ++ f.message ++ "\n"
      some (complaint ++ usageText program)
  | .locale f => some (program ++ ": " ++ f.message ++ "\n")
  | .directory f => some ("can't create socket: " ++ f.message ++ "\n")
  | _ => none

/-- The settings, and what is wrong with them. Faulty settings count as the default ones until the
    journal is opened. -/
def loadSettings : Launch (Settings × Option SettingsFault) := do
  let m ← get
  match Settings.load m.host m.storage m.environ with
  | .ok settings => return (settings, none)
  | .error f => if f.isReported then return ({}, some f) else throw (.unreadableSettings f)

/-- Open the journal unless something is wrong with the settings. -/
def setUpJournal (settings : Settings) (fault : Option SettingsFault) (program : String)
    (verbosity : Nat) : Launch Unit :=
  match fault with
  | some f => throw (.settings f)
  | none => openJournal settings.journal program verbosity

/-- Run the program and find its exit status. -/
def run (arguments : List String) (client : Option Client) (installed : List Client) :
    Launch Int := do
  let program := programName arguments
  let (settings, fault) ← loadSettings
  match ← observe (startup arguments settings.profile (setUpJournal settings fault program)
      none none) with
  | .ok c => handOff c client installed
  | .error f =>
      match complaint? program f with
      | some text =>
          modify fun m => m.printError text
          return 1
      | none => throw f

/-- Run the program from a terminal, where an interrupt ends it in good order. -/
def runInteractive (arguments : List String) (installed : List Client) : Launch Int := do
  match ← observe (run arguments none installed) with
  | .ok status => return status
  | .error .interrupted =>
      printLine "\nShutting down..."
      return 0
  | .error f => throw f

end MuxLaunch.Launch
