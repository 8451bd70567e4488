import MuxLaunch.Launch.Context
import MuxLaunch.Journal.Basic
import MuxLaunch.Settings.Load

/-! # The machine that a launch runs on

What a launch may read and change: the files, the environment, the random characters, the journal
and the two streams that are printed to. A launch is a computation on it that may fail.
-/

namespace MuxLaunch

/-- Why a launch does not come to an end of its own. -/
inductive Failure where
  /-- The version has been printed and there is nothing else to do. -/
  | quit
  | usage (f : UsageFault)
  | locale (f : LocaleFault)
  /-- The settings are found wanting once the journal is to be opened. -/
  | settings (f : SettingsFault)
  | directory (f : DirectoryFault)
  /-- A path that a setting has gone into holds a null character. -/
  | nullInPath
  /-- The random characters are used up. -/
  | exhausted
  /-- The settings cannot even be looked for. -/
  | unreadableSettings (f : SettingsFault)
  /-- The setting for the journal's file is no path. -/
  | notAPath
  | journalFile (e : FileError)
  /-- The format of the journal has no fields. -/
  | formatWithoutFields (format : String)
  /-- A configuration file is no text. -/
  | configuration (f : Text.Utf8.Fault)
  /-- A deferred option was gone before it could be delivered. -/
  | gone (d : Deferrable)
  /-- The command for a deferred option has failed, and its failure is not put off. -/
  | command (f : CommandFault)
  | interrupted
  deriving Repr, DecidableEq

/-- The wording of a failure; some have none. -/
def Failure.message : Failure → String
  | usage f => f.message
  | locale f => f.message
  | settings f | unreadableSettings f => f.message
  | directory f => f.message
  | nullInPath => "embedded null byte"
  | journalFile e => e.message
  | formatWithoutFields format => "Invalid format '" ++ format ++ "' for '%' style"
  | configuration f => f.message
  | command f => f.message
  | _ => ""

/-- The failure of a launch that finds no path for the socket. -/
def SocketFault.failure : SocketFault → Failure
  | directory (.refused f) => .directory f
  | directory .nullInPath => .nullInPath
  | exhausted => .exhausted

structure Machine where
  host : Host
  storage : Storage
  environ : Environ
  random : List Char
  /-- The journal, once it is open. -/
  journal : Option Journal
  output : String
  errors : String
  starts : List ClientStart

/-- A computation of a launch. A failure keeps what has been done. -/
abbrev Launch := EStateM Failure Machine

namespace Machine

def print (m : Machine) (text : String) : Machine :=
  { m with output := m.output ++ text }

def printError (m : Machine) (text : String) : Machine :=
  { m with errors := m.errors ++ text }

/-- Write a note, if there is a journal and it takes the note. -/
def note (m : Machine) (n : Note) : Machine :=
  match m.journal.bind fun j => (j.line? m.host.process n).map fun line => (line, j.file) with
  | none => m
  | some (line, none) => m.printError line
  | some (line, some file) =>
      { m.printError line with storage := m.storage.append file line }

def noteAll (m : Machine) (ns : List Note) : Machine :=
  ns.foldl note m

end Machine

namespace Launch

/-- Carry on with what a computation comes to, even if it fails. -/
def observe {α : Type} (x : Launch α) : Launch (Except Failure α) := fun m =>
  match x m with
  | .ok a m => .ok (.ok a) m
  | .error f m => .ok (.error f) m

def noteAll (ns : List Note) : Launch Unit :=
  modify fun m => m.noteAll ns

def printLine (text : String) : Launch Unit :=
  modify fun m => m.print (text ++ "\n")

/-- Open the journal's file and say where it is. -/
def openFile (path : String) : Launch Location := do
  let m ← get
  match m.storage.absolutePath path with
  | .error e => throw (.journalFile e)
  | .ok path =>
      if Path.holdsNull path then throw .nullInPath
      match m.storage.openAppend path with
      | .error e => throw (.journalFile ⟨e, some path⟩)
      | .ok (file, storage) =>
          set { m with storage }
          return file

/-- The format of the journal's lines. An empty one shows the message only. -/
def lineFormat (setting : String) : String :=
  match Format.withVersion setting with
  | "" => "%(message)s"
  | format => format

/-- Open the journal. Its file is opened before its format is looked at. -/
def openJournal (setting : JournalSettings) (program : String) (verbosity : Int) : Launch Unit := do
  match Journal.file? program (← get).host.process verbosity setting.file with
  | .error .notAPath => throw .notAPath
  | .ok path =>
      let file ← path.mapM openFile
      let format := lineFormat setting.format
      if !Format.isValid format.toList then throw (.formatWithoutFields format)
      let level := Level.effective setting.level verbosity
      modify fun m => { m with journal := some { level, format, file } }

end Launch

end MuxLaunch
