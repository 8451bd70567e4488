import MuxLaunch.Journal.Format

/-! # Usage and version

The texts that tell how the program is called and which version it is.
-/

namespace MuxLaunch

def settingsReaderVersion : String := "PyYAML 6.0.3"

def usageText (program : String) : String :=
  "Usage: " ++ program ++ " [options] [tmux-command [flags]]\n" ++
  "\n" ++
  "Basic options:\n" ++
  " -n <name>    specify the session token instead of getting a random one\n" ++
  " -r <name>    same, but for the read-only token\n" ++
  " -k <key>     specify an api-key, necessary for using named sessions on tmate.io\n" ++
  " -F           set the foreground mode, useful for setting remote access\n" ++
  " -f <path>    set the config file path\n" ++
  " -S <path>    set the socket path, useful to issue commands to a running tmate instance\n" ++
  " -a <path>    limit access to ssh public keys listed in provided file\n" ++
  " -v           set verbosity (can be repeated)\n" ++
  " -V           print version\n"

def versionText (program : String) : String :=
  program ++ " " ++ Format.version ++ "\n" ++ settingsReaderVersion ++ "\n"

end MuxLaunch
