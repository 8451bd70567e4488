import MuxLaunch.Settings.Load
import MuxLaunch.Proofs.Files.Path
import MuxLaunch.Proofs.Settings.Sections

/-! # What stands in the way of a launch

Most that is wrong with settings is kept for later. Only three things end a launch at once: a home
directory that is needed and not known, a document that brings its reading to grief by accident, and
a value for a text that is nested too deep to be written.
-/

namespace MuxLaunch

namespace Settings

variable {h : Host} {s : Storage} {e : Environ}

end Settings

end MuxLaunch
