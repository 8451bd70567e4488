import MuxLaunch.Host.Basic
import MuxLaunch.Environ
import MuxLaunch.Journal.Note

/-! # Locale and character set

A launch needs a locale in UTF-8. Two well-known locales are tried before the one that the
environment asks for.
-/

namespace MuxLaunch

/-- Why there is no locale in UTF-8. -/
inductive LocaleFault where
  | invalid
  | notUtf8 (codeSet : String)
  deriving Repr, DecidableEq

def LocaleFault.message : LocaleFault → String
  | invalid => "invalid LC_ALL, LC_CTYPE or LANG"
  | notUtf8 codeSet => "need UTF-8 locale (LC_CTYPE) but have " ++ codeSet

/-- The calls that change the locale of the process. -/
inductive LocaleCall where
  | characters (name : String)
  | time (name : String)
  | zone
  deriving Repr, DecidableEq

/-- The outcome of setting the locale: its name, the calls made and the notes for the journal. -/
structure LocaleWork where
  result : Except LocaleFault String
  calls : List LocaleCall
  notes : List Note

namespace Locales

/-- Set a locale and learn its name. -/
def set? (ls : Locales) (name : String) : Option String :=
  if ls.known.contains name then some (if name = "" then ls.ofEnvironment else name) else none

def preferred : List String :=
  ["en_US.UTF-8", "C.UTF-8"]

/-- Is this a name of the code set wanted? -/
def isUtf8 (codeSet : String) : Bool :=
  let name := Text.lower codeSet.toList
  name = "utf-8".toList || name = "utf8".toList

/-- Try names in turn and list the calls made. -/
def setFirst (ls : Locales) : List String → Option String × List LocaleCall
  | [] => (none, [])
  | name :: rest =>
      match ls.set? name with
      | some selected => (some selected, [.characters name])
      | none =>
          let (selected, calls) := ls.setFirst rest
          (selected, .characters name :: calls)

/-- The locale of the environment, if it is one in UTF-8. -/
def ofEnvironmentUtf8 (ls : Locales) : Except LocaleFault String :=
  match ls.set? "" with
  | none => .error .invalid
  | some selected => if isUtf8 ls.codeSet then .ok selected else .error (.notUtf8 ls.codeSet)

/-- The locale to use and the calls that set it. -/
def choose (ls : Locales) : Except LocaleFault String × List LocaleCall :=
  match ls.setFirst preferred with
  | (some selected, calls) => (.ok selected, calls)
  | (none, calls) => (ls.ofEnvironmentUtf8, calls ++ [.characters ""])

def notes (ls : Locales) (selected : String) : List Note :=
  let established : Note := ⟨.localeSet, "LC_CTYPE set to " ++ selected⟩
  match ls.set? "" with
  | some _ => [established]
  | none =>
      [⟨.timeFormatUnavailable, "LC_TIME from environment unavailable, keeping default"⟩,
        established]

/-- Set the locale, then the form of dates and the time zone. -/
def establish (ls : Locales) : LocaleWork :=
  match ls.choose with
  | (.error f, calls) => ⟨.error f, calls, []⟩
  | (.ok selected, calls) => ⟨.ok selected, calls ++ [.time "", .zone], ls.notes selected⟩

end Locales

/-- The variable that marks a running session. Its value begins with the session's socket. -/
def sessionMarker : String := "TMUX"

/-- Does the terminal show UTF-8? Inside of a session it does; elsewhere the first variable that
    is set must say so. -/
def Environ.showsUtf8 (e : Environ) : Bool :=
  e.contains sessionMarker ||
    let value := (["LC_ALL", "LC_CTYPE", "LANG"].findSome? e.nonempty?).getD ""
    let name := Text.lower value.toList
    Text.occurs "utf-8".toList name || Text.occurs "utf8".toList name

end MuxLaunch
