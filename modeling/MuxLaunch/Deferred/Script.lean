import MuxLaunch.Deferred

/-! # Scripted runners

A runner that follows a script while deferred options are delivered to it. Each call uses up one
reaction of the script, and a reaction may go back to the very queue that is being emptied.
-/

namespace MuxLaunch

/-- What a runner does when a command is delivered to it. -/
inductive Reaction where
  | reply (succeeded : Bool)
  | refuse
  /-- Let another value wait. -/
  | enqueue (name value : String)
  /-- Deliver everything that waits, to the same runner. -/
  | drain
  deriving Repr, DecidableEq

/-- What a runner fails with. -/
inductive ReactionFault where
  | refused (d : Deferrable)
  | deferral (f : DeferralFault)
  deriving Repr, DecidableEq

/-- The reactions to come and the orders delivered so far. -/
structure Script where
  reactions : List Reaction
  calls : List Order := []
  deriving Repr, DecidableEq

namespace Script

open DeferredQueue

/-- Write down a call and take the next reaction. A script that is used up replies with success. -/
def next (o : Order) : Drain ReactionFault Script Reaction := do
  let (q, s) ← get
  let calls := s.calls ++ [o]
  match s.reactions with
  | [] => set (q, { s with calls }); return .reply true
  | r :: rest => set (q, (⟨rest, calls⟩ : Script)); return r

/-- React to a call. The first argument bounds how deep deliveries may be nested; a script does
    not nest them deeper than it has reactions. -/
def react : Nat → Delivery ReactionFault Script
  | bound, d, _, o => do
      match ← next o with
      | .reply succeeded => return succeeded
      | .refuse => throw (.runner (.refused d))
      | .enqueue name value =>
          let (q, s) ← get
          match q.enqueue name value with
          | .ok q => set (q, s); return true
          | .error f => throw (.runner (.deferral f))
      | .drain =>
          match bound with
          | 0 => return true
          | bound + 1 => let _ ← drain (react bound); return true

/-- Deliver what waits in a queue to the runner that follows the script. -/
def drain (reactions : List Reaction) (q : DeferredQueue) :
    EStateM.Result (DrainFault ReactionFault) (DeferredQueue × Script) Nat :=
  DeferredQueue.drain (react reactions.length) (q, ⟨reactions, []⟩)

end Script

end MuxLaunch
