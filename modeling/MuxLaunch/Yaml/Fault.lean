import MuxLaunch.Text.Utf8

/-! # Faults of a YAML stream

Why a stream cannot be read, cut into tokens, or its structure not be found, and how far things may
be nested in it.
-/

namespace MuxLaunch.Yaml

/-- How many calls of each kind can be made inside of each other before the process has no room left
    for more. -/
structure Limits where
  /-- For collections that stand in each other. -/
  nesting : Nat
  /-- For mappings that take over entries from each other. -/
  merging : Nat
  /-- For mappings that have each other as their default values. -/
  defaults : Nat
  /-- For values whose texts are parts of each other. -/
  writing : Nat
  deriving Repr, DecidableEq

namespace Limits

/-- The room that a thousand calls leave. -/
def standard : Limits := ⟨488, 960, 970, 980⟩

end Limits

inductive Fault where
  | malformed
  /-- The bytes of the stream are no text. -/
  | encoding (f : Text.Utf8.Fault)
  /-- An escape names a code point beyond the last. -/
  | codePointRange
  /-- An escape names a number beyond every code point table. -/
  | codePointOverflow
  /-- A number of a version has too many digits. -/
  | longVersion (digits : Nat)
  /-- Collections are nested too deep. -/
  | tooDeep
  deriving Repr, DecidableEq

end MuxLaunch.Yaml
