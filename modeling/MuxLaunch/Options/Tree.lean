import MuxLaunch.Entries
import MuxLaunch.Options.Schema
import MuxLaunch.Text.Integer
import MuxLaunch.Text.Letter
import MuxLaunch.Text.Quoted

/-! # Option trees

The options of one scope with their values. A tree holds the options of its scope and no others;
what is set is checked against the schema first.
-/

namespace MuxLaunch

/-- Why an option cannot be read or set. -/
inductive OptionFault where
  | invalid (name : String)
  | notText (name : String)
  | notNumber (name : String)
  | unknownValue (name : String) (value : String)
  | tooSmall (name : String) (n : Int)
  | tooLarge (name : String) (n : Int)
  | noValue (name : String)
  | malformedNumber (name : String) (value : String)
  | badFlag (name : String) (value : String)
  /-- The tree holds no value for an option of its scope. No tree of a launch is like that. -/
  | missing (name : String)
  deriving Repr, DecidableEq

namespace OptionFault

def name : OptionFault → String
  | invalid name | notText name | notNumber name | unknownValue name _ | tooSmall name _
  | tooLarge name _ | noValue name | malformedNumber name _ | badFlag name _ | missing name => name

def message : OptionFault → String
  | invalid name => "invalid option: " ++ name
  | notText name => "not a string option: " ++ name
  | notNumber name => "not a number option: " ++ name
  | unknownValue _ value => "unknown value: " ++ value
  | tooSmall _ n => "value is too small: " ++ toString n
  | tooLarge _ n => "value is too large: " ++ toString n
  | noValue name => "empty value: " ++ name
  | malformedNumber _ value => "value is invalid: " ++ value
  | badFlag _ value => "bad value: " ++ value
  | missing name => Text.quoted name

end OptionFault

structure OptionTree where
  scope : Scope
  values : List (String × OptionValue)
  deriving Repr, DecidableEq

namespace OptionTree

/-- The tree of a scope with every option at its default. -/
def ofScope (scope : Scope) : OptionTree :=
  ⟨scope, (OptionEntry.ofScope scope).map fun e => (e.name, e.default)⟩

def entry? (t : OptionTree) (name : String) : Option OptionEntry :=
  (OptionEntry.ofScope t.scope).find? (·.name = name)

def contains (t : OptionTree) (name : String) : Bool :=
  (t.entry? name).isSome

def entry (t : OptionTree) (name : String) : Except OptionFault OptionEntry :=
  match t.entry? name with
  | some e => .ok e
  | none => .error (.invalid name)

def value? (t : OptionTree) (name : String) : Option OptionValue :=
  t.values.lookup name

def get (t : OptionTree) (name : String) : Except OptionFault OptionValue := do
  let _ ← t.entry name
  match t.value? name with
  | some v => return v
  | none => throw (.missing name)

/-- The names of the options in alphabetical order. -/
def names (t : OptionTree) : List String :=
  (t.values.map (·.1)).mergeSort

def put (t : OptionTree) (name : String) (v : OptionValue) : OptionTree :=
  { t with values := t.values.map fun (n, old) => (n, if n = name then v else old) }

/-- Putting a value changes what is held under its name, if anything is, and nothing else. -/
theorem value?_put (t : OptionTree) (name m : String) (v : OptionValue) :
    (t.put name v).value? m =
      if m = name then (t.value? m).map fun _ => v else t.value? m :=
  Entries.lookup_map_value name m v t.values

/-- Putting a value changes no names. -/
theorem map_fst_put (t : OptionTree) (name : String) (v : OptionValue) :
    (t.put name v).values.map (·.1) = t.values.map (·.1) := by
  simp [put, Function.comp_def]

def setText (t : OptionTree) (name : String) (value : String) : Except OptionFault OptionTree := do
  match (← t.entry name).kind with
  | .text => return t.put name (.text value)
  | .choice choices =>
      if choices.contains value then return t.put name (.text value)
      else throw (.unknownValue name value)
  | _ => throw (.notText name)

def setNumber (t : OptionTree) (name : String) (n : Int) : Except OptionFault OptionTree := do
  match (← t.entry name).kind with
  | .number minimum maximum =>
      if n < minimum then throw (.tooSmall name n)
      else if maximum < n then throw (.tooLarge name n)
      else return t.put name (.number n)
  | _ => throw (.notNumber name)

/-- The switch that a text names, in any letter case. -/
def flagOfText? (text : String) : Option Bool :=
  let word := String.ofList (Text.lower text.toList)
  if ["on", "yes", "1"].contains word then some true
  else if ["off", "no", "0"].contains word then some false
  else none

/-- Set a switch from a text. Without a text, or with an empty one, the switch is toggled. -/
def setFlag (t : OptionTree) (name : String) (text : Option String) :
    Except OptionFault OptionTree := do
  match text.getD "" with
  | "" =>
      return t.put name (.flag !(← t.get name).isTrue)
  | text =>
      match flagOfText? text with
      | some b => return t.put name (.flag b)
      | none => throw (.badFlag name text)

/-- Set an option from a text, read as the schema says. -/
def parse (t : OptionTree) (name : String) (text : Option String) :
    Except OptionFault OptionTree := do
  match (← t.entry name).kind, text with
  | .flag, text => t.setFlag name text
  | _, none => throw (.noValue name)
  | .number _ _, some text =>
      match Text.Integer.read 10 text.toList with
      | .ok n => t.setNumber name n
      | .error _ => throw (.malformedNumber name text)
  | _, some text => t.setText name text

def reset (t : OptionTree) (name : String) : Except OptionFault OptionTree := do
  return t.put name (← t.entry name).default

/-- The options whose values differ from the defaults. -/
def changes (t : OptionTree) : List (String × OptionValue) :=
  t.values.filter fun (name, v) => (t.entry? name).map (·.default) ≠ some v

end OptionTree

end MuxLaunch
