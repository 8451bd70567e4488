import MuxLaunch.Files.Storage
import MuxLaunch.Yaml.Fault

/-! # The host

What a process finds on its host besides files: the user database, the locales, its own number and
the room for calls inside of each other.
-/

namespace MuxLaunch

/-- A row of the user database. -/
structure User where
  id : Int
  name : String
  home : String
  shell : String
  deriving Repr, DecidableEq

structure Locales where
  /-- The names that can be set. -/
  known : List String
  /-- The locale that the empty name, the environment's choice, stands for. -/
  ofEnvironment : String
  codeSet : String
  deriving Repr, DecidableEq

structure Host where
  process : Int
  users : List User
  locales : Locales
  limits : Yaml.Limits
  deriving Repr, DecidableEq

namespace Host

def user? (h : Host) (id : Int) : Option User :=
  h.users.find? (·.id = id)

def userNamed? (h : Host) (name : String) : Option User :=
  h.users.find? (·.name = name)

end Host

end MuxLaunch
