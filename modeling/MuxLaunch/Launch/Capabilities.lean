import MuxLaunch.Flags.Basic
import MuxLaunch.Settings.Basic

/-! # Capabilities of the client

What the client is told about its terminal and about the mode it is to run in, as a set of bits.
-/

namespace MuxLaunch

structure Capabilities where
  login : Bool := false
  utf8 : Bool := false
  colours256 : Bool := false
  control : Bool := false
  /-- Control mode without echo. -/
  controlControl : Bool := false
  deriving Repr, DecidableEq

namespace Capabilities

def bits (c : Capabilities) : Nat :=
  c.login.toNat + 2 * c.utf8.toNat + 4 * c.colours256.toNat + 8 * c.control.toNat
    + 16 * c.controlControl.toNat

/-- The set that the low bits of a number stand for. -/
def ofBits (n : Int) : Capabilities :=
  let low := (n % 32).toNat
  ⟨low.testBit 0, low.testBit 1, low.testBit 2, low.testBit 3, low.testBit 4⟩

/-- The names of the members, in the order of their bits. -/
def names (c : Capabilities) : List String :=
  [(c.login, "login"), (c.utf8, "utf8"), (c.colours256, "colours_256"), (c.control, "control"),
    (c.controlControl, "control_control")].filterMap fun (isSet, name) =>
      if isSet then some name else none

def describe (c : Capabilities) : String :=
  if c.names = [] then "none" else ",".intercalate c.names

/-- What the program's name, the command line and the profile come to. A name that begins with a
    dash marks a login. -/
def compose (program : String) (line : CommandLine) (p : Profile) : Capabilities where
  login := startsWithDash program || line.login
  utf8 := p.forceCapabilities || line.utf8
  colours256 := p.forceCapabilities || line.colours256
  control := 1 ≤ line.control
  controlControl := 2 ≤ line.control

end Capabilities

end MuxLaunch
