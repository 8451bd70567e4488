import MuxLaunch.Yaml.Cursor

/-! # YAML tokens

The alphabet in which the structure of a stream is spelled. Indentation appears as explicit start
and end tokens, and a mapping key as a token before it, wherever its colon is found.
-/

namespace MuxLaunch.Yaml

inductive Directive where
  | version (major minor : Nat)
  | handle (handle : String) (expansion : String)
  | other (name : String)
  deriving Repr, DecidableEq

inductive Token where
  | streamEnd
  | directive (d : Directive)
  | documentStart
  | documentEnd
  | blockSequenceStart
  | blockMappingStart
  | blockEnd
  | flowSequenceStart
  | flowSequenceEnd
  | flowMappingStart
  | flowMappingEnd
  | blockEntry
  | flowEntry
  | key
  | value
  | alias (name : String)
  | anchor (name : String)
  /-- A tag with its handle, or a verbatim one. -/
  | tag (handle : Option String) (suffix : String)
  /-- A scalar; a plain one stands without quotation marks. -/
  | scalar (text : String) (plain : Bool)
  deriving Repr, DecidableEq

end MuxLaunch.Yaml
