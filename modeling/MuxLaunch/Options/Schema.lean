/-! # The option schema

Every option of the multiplexer that may be set at launch: the tree it lives in, the values it
takes, and the value it starts with.
-/

namespace MuxLaunch

/-- The tree that an option lives in. -/
inductive Scope where
  | server
  | session
  | window
  deriving Repr, DecidableEq

def Scope.name : Scope → String
  | server => "server"
  | session => "session"
  | window => "window"

/-- The largest number that an option without a bound of its own takes. -/
def numberLimit : Int := 2147483647

inductive OptionKind where
  | text
  | number (minimum : Int) (maximum : Int)
  | flag
  | choice (choices : List String)
  deriving Repr, DecidableEq

inductive OptionValue where
  | text (s : String)
  | number (n : Int)
  | flag (b : Bool)
  deriving Repr, DecidableEq

/-- Does the value count as true? -/
def OptionValue.isTrue : OptionValue → Bool
  | text s => s ≠ ""
  | number n => n ≠ 0
  | flag b => b

structure OptionEntry where
  name : String
  scope : Scope
  kind : OptionKind
  default : OptionValue
  deriving Repr, DecidableEq

namespace OptionKind

/-- Any number from zero to the common limit. -/
def count : OptionKind := number 0 numberLimit

/-- The choice between the two key tables. -/
def keyTable : OptionKind := choice ["emacs", "vi"]

/-- Is the value one that the option takes? -/
def admits : OptionKind → OptionValue → Bool
  | text, .text _ => true
  | number minimum maximum, .number n => minimum ≤ n && n ≤ maximum
  | flag, .flag _ => true
  | choice choices, .text s => choices.contains s
  | _, _ => false

end OptionKind

namespace OptionEntry

/-- The rows of the schema, in the order in which they are listed. -/
def schema : List OptionEntry :=
  [⟨"buffer-limit", .server, .number 1 numberLimit, .number 20⟩,
   ⟨"escape-time", .server, .count, .number 500⟩,
   ⟨"exit-unattached", .server, .flag, .flag false⟩,
   ⟨"focus-events", .server, .flag, .flag false⟩,
   ⟨"history-file", .server, .text, .text ""⟩,
   ⟨"message-limit", .server, .count, .number 100⟩,
   ⟨"set-clipboard", .server, .flag, .flag true⟩,
   ⟨"terminal-overrides", .server, .text, .text "xterm*:XT:Ms=\\E]52;%p1%s;%p2%s\\007"⟩,
   ⟨"base-index", .session, .count, .number 0⟩,
   ⟨"default-command", .session, .text, .text ""⟩,
   ⟨"default-shell", .session, .text, .text "/bin/sh"⟩,
   ⟨"default-terminal", .session, .text, .text "screen"⟩,
   ⟨"display-time", .session, .count, .number 750⟩,
   ⟨"history-limit", .session, .count, .number 2000⟩,
   ⟨"mouse", .session, .flag, .flag false⟩,
   ⟨"prefix", .session, .text, .text "C-b"⟩,
   ⟨"set-titles", .session, .flag, .flag false⟩,
   ⟨"status", .session, .flag, .flag true⟩,
   ⟨"status-keys", .session, .keyTable, .text "emacs"⟩,
   ⟨"status-position", .session, .choice ["top", "bottom"], .text "bottom"⟩,
   ⟨"tmate-api-key", .session, .text, .text ""⟩,
   ⟨"tmate-authorized-keys", .session, .text, .text ""⟩,
   ⟨"tmate-identity", .session, .text, .text ""⟩,
   ⟨"tmate-server-host", .session, .text, .text "ssh.tmate.io"⟩,
   ⟨"tmate-server-port", .session, .number 1 65535, .number 22⟩,
   ⟨"tmate-session-name", .session, .text, .text ""⟩,
   ⟨"tmate-session-name-ro", .session, .text, .text ""⟩,
   ⟨"aggressive-resize", .window, .flag, .flag false⟩,
   ⟨"allow-rename", .window, .flag, .flag true⟩,
   ⟨"automatic-rename", .window, .flag, .flag true⟩,
   ⟨"mode-keys", .window, .keyTable, .text "emacs"⟩,
   ⟨"monitor-activity", .window, .flag, .flag false⟩,
   ⟨"pane-base-index", .window, .number 0 32767, .number 0⟩,
   ⟨"remain-on-exit", .window, .flag, .flag false⟩,
   ⟨"synchronize-panes", .window, .flag, .flag false⟩,
   ⟨"wrap-search", .window, .flag, .flag true⟩]

def find? (name : String) : Option OptionEntry :=
  schema.find? (·.name = name)

def ofScope (scope : Scope) : List OptionEntry :=
  schema.filter (·.scope = scope)

end OptionEntry

end MuxLaunch
