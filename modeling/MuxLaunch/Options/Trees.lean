import MuxLaunch.Options.Tree
import MuxLaunch.Environ
import MuxLaunch.Journal.Note

/-! # The option trees at launch

The three trees and the environment handed to the client, and the key tables that the user's
editor asks for.
-/

namespace MuxLaunch

/-- The two tables of key bindings. -/
inductive KeyTable where
  | emacs
  | vi
  deriving Repr, DecidableEq

namespace KeyTable

def name : KeyTable → String
  | emacs => "emacs"
  | vi => "vi"

/-- The table that suits the editor at a path. -/
def ofEditor (path : String) : KeyTable :=
  if Text.occurs ['v', 'i'] (Text.afterLast '/' path.toList) then vi else emacs

/-- The table that suits the editor in the environment, if one is set there. The visual editor
    goes before the other one, even when its variable is empty. -/
def ofEnviron? (e : Environ) : Option KeyTable :=
  match e.get? "VISUAL" with
  | some editor => some (ofEditor editor)
  | none => (e.get? "EDITOR").map ofEditor

end KeyTable

structure OptionTrees where
  server : OptionTree
  session : OptionTree
  window : OptionTree
  environ : Environ
  deriving Repr, DecidableEq

namespace OptionTrees

def tree (ts : OptionTrees) : Scope → OptionTree
  | .server => ts.server
  | .session => ts.session
  | .window => ts.window

def setTree (ts : OptionTrees) (scope : Scope) (t : OptionTree) : OptionTrees :=
  match scope with
  | .server => { ts with server := t }
  | .session => { ts with session := t }
  | .window => { ts with window := t }

theorem tree_setTree (ts : OptionTrees) (scope scope' : Scope) (t : OptionTree) :
    (ts.setTree scope t).tree scope' = if scope' = scope then t else ts.tree scope' := by
  cases scope <;> cases scope' <;> rfl

theorem environ_setTree (ts : OptionTrees) (scope : Scope) (t : OptionTree) :
    (ts.setTree scope t).environ = ts.environ := by
  cases scope <;> rfl

/-- The trees that a launch starts from: defaults throughout, but with the user's shell. -/
def initial (e : Environ) (shell : String) (directory : Option String) : OptionTrees where
  server := .ofScope .server
  session := (OptionTree.ofScope .session).put "default-shell" (.text shell)
  window := .ofScope .window
  environ := e.withDirectory directory

def initialNote (ts : OptionTrees) : Note :=
  ⟨.treesFilled, "Option trees populated: server=" ++ toString ts.server.values.length
    ++ " session=" ++ toString ts.session.values.length ++ " window="
    ++ toString ts.window.values.length ++ " environ=" ++ toString ts.environ.size⟩

/-- Use one key table everywhere. -/
def withKeys (ts : OptionTrees) (keys : KeyTable) : OptionTrees :=
  { ts with
    session := ts.session.put "status-keys" (.text keys.name)
    window := ts.window.put "mode-keys" (.text keys.name) }

/-- Use the key table that the editor in the environment asks for. -/
def withEditorKeys (ts : OptionTrees) (e : Environ) : OptionTrees × List Note :=
  match KeyTable.ofEnviron? e with
  | none => (ts, [])
  | some keys =>
      (ts.withKeys keys,
        [⟨.keyTablesSet, "Key tables set to " ++ keys.name ++ " from editor environment"⟩])

end OptionTrees

end MuxLaunch
