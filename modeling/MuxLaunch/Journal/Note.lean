import MuxLaunch.Text.Letter

/-! # Notes for the journal

A note says what happened. Its occasion tells how grave it is, which part of the program says so,
and where in that part it is listed.
-/

namespace MuxLaunch

/-- How grave a note is. -/
inductive Level where
  | debug
  | info
  | warning
  | error
  | critical
  deriving Repr, DecidableEq

namespace Level

def name : Level → String
  | debug => "DEBUG"
  | info => "INFO"
  | warning => "WARNING"
  | error => "ERROR"
  | critical => "CRITICAL"

def number : Level → Nat
  | debug => 10
  | info => 20
  | warning => 30
  | error => 40
  | critical => 50

def descending : List Level :=
  [critical, error, warning, info, debug]

def ofName? (name : String) : Option Level :=
  descending.find? fun l => l.name.toList = Text.upper name.toList

/-- The level some steps further down, but never below the last. -/
def lowerBy (l : Level) (steps : Nat) : Level :=
  (descending.drop (descending.idxOf l + steps)).headD debug

/-- The level that a setting and the verbosity on the command line come to. A level that does not
    exist counts as a warning; a negative verbosity counts as none. -/
def effective (setting : String) (verbosity : Int) : Level :=
  ((ofName? setting).getD warning).lowerBy verbosity.toNat

end Level

/-- The part of the program that a note comes from. -/
inductive Topic where
  | locale
  | shell
  | trees
  | socket
  | startup
  | deferred
  | options
  | commands
  | config
  | client
  deriving Repr, DecidableEq

/-- The name under which the notes of a part are filed. -/
def Topic.name : Topic → String
  | locale => "tmateboot.bootstrap.locale_state"
  | shell => "tmateboot.bootstrap.shell"
  | trees => "tmateboot.bootstrap.trees"
  | socket => "tmateboot.bootstrap.socket_path"
  | startup => "tmateboot.bootstrap.orchestrator"
  | deferred => "tmateboot.bootstrap.deferred"
  | options => "tmateboot.options.tree"
  | commands => "tmateboot.client.commands"
  | config => "tmateboot.client.cfg"
  | client => "tmateboot.client.main"

/-- What gives occasion to a note. -/
inductive Occasion where
  | timeFormatUnavailable
  | localeSet
  | loginShellUsed
  | fallbackShellUsed
  | treesFilled
  | keyTablesSet
  | directoryCreated
  | directoryRefused
  | directoryUnresolved
  | socketInherited
  | socketFound
  | capabilitiesFound
  | deferredOptionFailed
  | optionSet
  | optionIgnored
  | errorDeferred
  | configFound
  | configApplied
  | clientMissing
  | clientAmbiguous
  deriving Repr, DecidableEq

namespace Occasion

def level : Occasion → Level
  | directoryRefused | errorDeferred | clientAmbiguous => .warning
  | socketFound | deferredOptionFailed | configFound | clientMissing => .info
  | _ => .debug

def topic : Occasion → Topic
  | timeFormatUnavailable | localeSet => .locale
  | loginShellUsed | fallbackShellUsed => .shell
  | treesFilled | keyTablesSet => .trees
  | directoryCreated | directoryRefused | directoryUnresolved | socketInherited => .socket
  | socketFound | capabilitiesFound => .startup
  | deferredOptionFailed => .deferred
  | optionSet => .options
  | optionIgnored | errorDeferred => .commands
  | configFound => .config
  | configApplied | clientMissing | clientAmbiguous => .client

/-- The procedure and the line under which notes of an occasion are listed in the journal. -/
def listing : Occasion → String × Nat
  | timeFormatUnavailable => ("locale_establish", 62)
  | localeSet => ("locale_establish", 65)
  | loginShellUsed => ("shell_resolve", 94)
  | fallbackShellUsed => ("shell_resolve", 97)
  | treesFilled => ("trees_bootstrap", 69)
  | keyTablesSet => ("modeKeys_apply", 103)
  | directoryCreated => ("runtimeDir_ensure", 95)
  | directoryRefused => ("runtimeDir_ensure", 109)
  | directoryUnresolved => ("runtimeDir_ensure", 118)
  | socketInherited => ("socketPath_locate", 164)
  | socketFound => ("startup_run", 170)
  | capabilitiesFound => ("startup_run", 171)
  | deferredOptionFailed => ("options_drain", 88)
  | optionSet => ("value_parse_set", 112)
  | optionIgnored => ("setOption_run", 139)
  | errorDeferred => ("cause_add", 81)
  | configFound => ("cfgFile_load", 71)
  | configApplied => ("clientMain_run", 88)
  | clientMissing => ("dryRun_client", 42)
  | clientAmbiguous => ("clientEntry_resolve", 57)

end Occasion

structure Note where
  occasion : Occasion
  text : String
  deriving Repr, DecidableEq

namespace Note

def level (n : Note) : Level :=
  n.occasion.level

def topic (n : Note) : Topic :=
  n.occasion.topic

end Note

end MuxLaunch
