import MuxLaunch.Entries

/-! # Deferred options

Options given on the command line go before those in configuration files. They wait in a queue
until the files are loaded and are then delivered as commands, in a fixed order, each once.
-/

namespace MuxLaunch

/-- The options that can wait. -/
inductive Deferrable where
  | apiKey
  | sessionName
  | readOnlyName
  | authorizedKeys
  deriving Repr, DecidableEq

namespace Deferrable

def name : Deferrable → String
  | apiKey => "tmate-api-key"
  | sessionName => "tmate-session-name"
  | readOnlyName => "tmate-session-name-ro"
  | authorizedKeys => "tmate-authorized-keys"

/-- The order of delivery. -/
def all : List Deferrable :=
  [apiKey, sessionName, readOnlyName, authorizedKeys]

def ofName? (name : String) : Option Deferrable :=
  all.find? (·.name = name)

end Deferrable

/-- The option is none of those that can wait. -/
structure DeferralFault where
  name : String
  deriving Repr, DecidableEq

def DeferralFault.message (f : DeferralFault) : String :=
  "Option '" ++ f.name ++ "' cannot be deferred"

/-- A command as a runner is given it: its words, and whether its failure is to be put off. -/
structure Order where
  words : List String
  putsOff : Bool
  deriving Repr, DecidableEq

/-- The values that wait, at most one for each option. -/
structure DeferredQueue where
  entries : List (Deferrable × String)
  deriving Repr, DecidableEq

namespace DeferredQueue

def empty : DeferredQueue := ⟨[]⟩

def get? (q : DeferredQueue) (d : Deferrable) : Option String :=
  q.entries.lookup d

/-- Let a value wait, in place of an earlier one of the same option. -/
def put (q : DeferredQueue) (d : Deferrable) (value : String) : DeferredQueue :=
  ⟨(d, value) :: q.entries.filter (·.1 ≠ d)⟩

def erase (q : DeferredQueue) (d : Deferrable) : DeferredQueue :=
  ⟨q.entries.filter (·.1 ≠ d)⟩

/-- What waits, in the order of delivery. -/
def pending (q : DeferredQueue) : List (Deferrable × String) :=
  Deferrable.all.filterMap fun d => (q.get? d).map fun value => (d, value)

def size (q : DeferredQueue) : Nat :=
  q.pending.length

theorem get?_empty (d : Deferrable) : empty.get? d = none := rfl

theorem get?_erase (q : DeferredQueue) (d d' : Deferrable) :
    (q.erase d).get? d' = if d' = d then none else q.get? d' :=
  Entries.lookup_filter_ne d d' q.entries

/-- Only the latest value of an option waits. -/
theorem get?_put (q : DeferredQueue) (d d' : Deferrable) (value : String) :
    (q.put d value).get? d' = if d' = d then some value else q.get? d' := by
  have := get?_erase q d d'
  by_cases h : d' = d
  · simp [put, get?, h]
  · simpa [put, get?, erase, h, Entries.lookup_cons] using this

/-- Let a value wait for the option with a name. -/
def enqueue (q : DeferredQueue) (name value : String) : Except DeferralFault DeferredQueue :=
  match Deferrable.ofName? name with
  | some d => .ok (q.put d value)
  | none => .error ⟨name⟩

def command (d : Deferrable) (value : String) : List String :=
  ["set-option", d.name, value]

/-- The order that a value is delivered with. -/
def order (entry : Deferrable × String) : Order :=
  ⟨command entry.1 entry.2, true⟩

/-- Why a delivery stops early. -/
inductive DrainFault (ε : Type) where
  /-- The option is gone from the queue: the runner has emptied it in the meantime. -/
  | gone (d : Deferrable)
  | runner (e : ε)
  deriving Repr, DecidableEq

/-- Deliveries change the queue and whatever else the runner of commands changes. -/
abbrev Drain (ε σ : Type) := EStateM (DrainFault ε) (DeferredQueue × σ)

/-- How a value is delivered. A runner of commands is told no more than the order. -/
abbrev Delivery (ε σ : Type) := Deferrable → String → Order → Drain ε σ Bool

def release {ε σ : Type} (d : Deferrable) : Drain ε σ Unit := do
  let (q, s) ← get
  if (q.get? d).isSome then set (q.erase d, s) else throw (.gone d)

/-- Deliver options one after another, each once it has left the queue, and count them. -/
def deliver {ε σ : Type} (run : Delivery ε σ) :
    List (Deferrable × String) → Drain ε σ Nat
  | [] => return 0
  | (d, value) :: rest => do
      release d
      let _ ← run d value (order (d, value))
      return (← deliver run rest) + 1

/-- Deliver what waits at the start and count it. -/
def drain {ε σ : Type} (run : Delivery ε σ) : Drain ε σ Nat := do
  deliver run (← get).1.pending

end DeferredQueue

end MuxLaunch
