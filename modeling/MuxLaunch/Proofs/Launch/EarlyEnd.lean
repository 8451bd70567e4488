import MuxLaunch.Proofs.Flags.Reading
import MuxLaunch.Proofs.Launch.Course
import MuxLaunch.Proofs.Settings.Obstruction
import MuxLaunch.Proofs.Text.Feed

/-! # The version and help with settings gone wrong

Whoever asks for the version or for help gets an answer before anything is made of the settings.
Only settings that obstruct the launch come first.
-/

namespace MuxLaunch.Launch

/-- The answer for whoever asks for the version, which is printed, or for help. -/
def answer (arguments : List String) (letter : Char) (m : Machine) :
    EStateM.Result Failure Machine Int :=
  if letter = 'V' then .error .quit (m.print (versionText (programName arguments)))
  else .ok 1 (m.printError (usageText (programName arguments)))

variable {arguments : List String} {m : Machine} {name : String} {letter : Char}

end MuxLaunch.Launch
