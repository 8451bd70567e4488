import MuxLaunch.Yaml.Value.OfScalar
import MuxLaunch.Files.Storage

/-! # Settings

The settings of the program: how it keeps its journal, and how it behaves at launch. They are read
from a mapping with a section for each; every key that is missing keeps its default.
-/

namespace MuxLaunch

structure JournalSettings where
  level : String := "WARNING"
  /-- The journal's file as the settings hold it, whatever its type. -/
  file : Yaml.Value := .null
  format : String := "%(asctime)s %(name)s %(levelname)s %(message)s"

structure Profile where
  /-- Draw the label of the socket by lot. -/
  randomizeLabel : Bool := false
  /-- Take it that the terminal shows UTF-8 and 256 colours. -/
  forceCapabilities : Bool := false
  /-- How the name of the runtime directory begins. -/
  directoryStart : String := "tmate"
  /-- The shell to use when no login shell can be used. -/
  fallbackShell : String := "/bin/sh"
  deriving Repr, DecidableEq

structure Settings where
  journal : JournalSettings := {}
  profile : Profile := {}

/-- Why settings cannot be loaded. -/
inductive SettingsFault where
  /-- The home directory in a path is not known. -/
  | homeless
  | file (e : FileError)
  | document (f : Yaml.LoadFault)
  /-- The document in the file is no mapping. -/
  | notAMapping (path : String)
  | badSection (name : String)
  /-- A setting has no text. -/
  | unwritable (f : Yaml.Flaw)
  deriving Repr, DecidableEq

namespace SettingsFault

def message : SettingsFault → String
  | homeless => "Could not determine home directory."
  | file e => e.message
  | document f => f.message
  | notAMapping path => "Config file " ++ path ++ " must contain a YAML dictionary"
  | badSection name => "Config section '" ++ name ++ "' must be a dictionary"
  | unwritable .tooLong =>
      "Exceeds the limit (4300 digits) for integer string conversion; "
        ++ "use sys.set_int_max_str_digits() to increase the limit"
  | unwritable .tooDeep => ""

/-- Is the fault one of the file or its contents, which the program reports itself? -/
def isReported : SettingsFault → Bool
  | homeless => false
  | document f => f.isOrdinary
  | unwritable f => f = .tooLong
  | _ => true

end SettingsFault

namespace Settings

abbrev Entries := List (Yaml.Scalar × Yaml.Value)

def find? (entries : Entries) (key : String) : Option Yaml.Value :=
  entries.findSome? fun (k, v) =>
    match k with
    | .text name => if name = key then some v else none
    | _ => none

/-- The entries of a section. A section that counts as false has none. -/
def sectionOf (entries : Entries) (name : String) : Except SettingsFault Entries :=
  match find? entries name with
  | none => .ok []
  | some v =>
      if !v.isTrue then .ok []
      else match v with
        | .mapping inner => .ok inner
        | _ => .error (.badSection name)

/-- A setting that is a text, whatever it was written as. -/
def textOf (room : Nat) (entries : Entries) (key : String) (default : String) :
    Except SettingsFault String :=
  match find? entries key with
  | none => .ok default
  | some v =>
      match v.text? room with
      | .error f => .error (.unwritable f)
      | .ok text => .ok (String.ofList text)

def flagOf (entries : Entries) (key : String) (default : Bool) : Bool :=
  ((find? entries key).map Yaml.Value.isTrue).getD default

/-- The settings in a mapping, where so much room is left for the texts of values. -/
def ofEntries (room : Nat) (entries : Entries) : Except SettingsFault Settings := do
  let standard : Settings := {}
  let journal ← sectionOf entries "logging"
  let level ← textOf room journal "level" standard.journal.level
  let file := (find? journal "file").getD standard.journal.file
  let format ← textOf room journal "format" standard.journal.format
  let runtime ← sectionOf entries "runtime"
  let randomizeLabel := flagOf runtime "randomize_label" standard.profile.randomizeLabel
  let forceCapabilities := flagOf runtime "force_capabilities" standard.profile.forceCapabilities
  let directoryStart ← textOf room runtime "socket_prefix" standard.profile.directoryStart
  let fallbackShell ← textOf room runtime "fallback_shell" standard.profile.fallbackShell
  return {
    journal := { level, file, format }
    profile := { randomizeLabel, forceCapabilities, directoryStart, fallbackShell } }

end Settings

end MuxLaunch
