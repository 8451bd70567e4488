import MuxLaunch.Entries
import MuxLaunch.Text.Search

/-! # Environments

A map from variable names to values, kept in the order of the names.
-/

namespace MuxLaunch

structure Environ where
  entries : List (String × String)
  deriving Repr, DecidableEq

namespace Environ

def empty : Environ := ⟨[]⟩

/-- Put a variable in its place, instead of an earlier one of that name. -/
def insert (name value : String) : List (String × String) → List (String × String)
  | [] => [(name, value)]
  | (n, v) :: rest =>
      if name < n then (name, value) :: (n, v) :: rest
      else if name = n then (name, value) :: rest
      else (n, v) :: insert name value rest

def set (e : Environ) (name value : String) : Environ :=
  ⟨insert name value e.entries⟩

def unset (e : Environ) (name : String) : Environ :=
  ⟨e.entries.filter (·.1 ≠ name)⟩

def get? (e : Environ) (name : String) : Option String :=
  e.entries.lookup name

/-- The value of a variable that is set and not empty. -/
def nonempty? (e : Environ) (name : String) : Option String :=
  match e.get? name with
  | some "" => none
  | value => value

def contains (e : Environ) (name : String) : Bool :=
  (e.get? name).isSome

def names (e : Environ) : List String :=
  e.entries.map (·.1)

def size (e : Environ) : Nat :=
  e.entries.length

/-- The environment with the given variables; of two with the same name the later one counts. -/
def ofList (entries : List (String × String)) : Environ :=
  entries.foldl (fun e (name, value) => e.set name value) empty

theorem lookup_insert (name value m : String) (entries : List (String × String)) :
    (insert name value entries).lookup m = if m = name then some value else entries.lookup m := by
  induction entries with
  | nil => simp [insert, Entries.lookup_cons]
  | cons entry rest ih =>
      obtain ⟨n, v⟩ := entry
      by_cases hlt : name < n
      · simp [insert, hlt, Entries.lookup_cons]
      · by_cases heq : name = n
        · subst heq
          by_cases h : m = name
          · simp [insert, h]
          · simp [insert, h, Entries.lookup_cons]
        · by_cases hm : m = n
          · subst hm
            simp [insert, hlt, heq, Ne.symm heq]
          · simp [insert, hlt, heq, hm, Entries.lookup_cons, ih]

/-- Setting a variable changes what is found under its name and under no other. -/
theorem get?_set (e : Environ) (name value m : String) :
    (e.set name value).get? m = if m = name then some value else e.get? m :=
  lookup_insert name value m e.entries

theorem get?_unset (e : Environ) (name m : String) :
    (e.unset name).get? m = if m = name then none else e.get? m :=
  Entries.lookup_filter_ne name m e.entries

/-- Set a variable from an entry `NAME=VALUE`. The name ends at the first equals sign; an entry
    without one, or with an empty name, sets nothing. -/
def put (e : Environ) (entry : String) : Environ :=
  match Text.cut '=' entry.toList with
  | none | some ([], _) => e
  | some (name, value) => e.set (String.ofList name) (String.ofList value)

/-- The environment as handed to the client, with the working directory if it is known. -/
def withDirectory (e : Environ) (directory : Option String) : Environ :=
  match directory with
  | some d => e.set "PWD" d
  | none => e

end Environ

end MuxLaunch
