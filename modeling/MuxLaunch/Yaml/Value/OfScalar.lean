import MuxLaunch.Yaml.Value
import MuxLaunch.Yaml.Fault
import MuxLaunch.Text.Letter
import MuxLaunch.Text.Search
import MuxLaunch.Text.SmallLetter

/-! # Values of YAML scalars

What the text of a scalar stands for under each of the standard tags, and the ways in which it may
stand for nothing.
-/

namespace MuxLaunch.Yaml

/-- Why a document cannot be read. -/
inductive LoadFault where
  /-- The text is no YAML, or its tags do not fit its nodes. -/
  | malformed
  /-- The bytes of the document are no text. -/
  | encoding (f : Text.Utf8.Fault)
  | integer (f : Text.Integer.Fault)
  /-- A text tagged as a number is none. -/
  | float (text : List Char)
  | date (f : DateFault)
  /-- A text tagged as a switch is none. -/
  | notASwitch
  /-- A text tagged as a number has no digits at all. -/
  | emptyNumber
  /-- A text tagged as a date is none. -/
  | notADate
  /-- A collection is tagged as a date. -/
  | dateOfCollection
  /-- A number in base sixty is beyond every floating-point number. -/
  | numberOverflow
  /-- An escape names a code point beyond the last. -/
  | codePointRange
  /-- An escape names a number beyond every code point table. -/
  | codePointOverflow
  /-- Collections are nested too deep, or a default value leads back to itself. -/
  | tooDeep
  deriving Repr, DecidableEq

namespace LoadFault

/-- Is the fault an ordinary one of a text or of a value in it? The others are accidents of
    reading. -/
def isOrdinary : LoadFault → Bool
  | malformed | encoding _ | integer _ | float _ | date _ | codePointRange => true
  | _ => false

/-- The wording of a fault. Faults of a text that is no YAML are not told apart. -/
def message : LoadFault → String
  | malformed => "<yaml>"
  | encoding f => f.message
  | integer f => f.message
  | float text => "could not convert string to float: " ++ String.ofList (Text.Quoted.encode text)
  | date f => f.message
  | codePointRange => "chr() arg not in range(0x110000)"
  | _ => ""

end LoadFault

def Fault.toLoadFault : Fault → LoadFault
  | .malformed => .malformed
  | .encoding f => .encoding f
  | .codePointRange => .codePointRange
  | .codePointOverflow => .codePointOverflow
  | .longVersion digits => .integer (.tooManyDigits digits)
  | .tooDeep => .tooDeep

namespace Scalar

/-- A switch, in any letter case. -/
def ofSwitch (text : List Char) : Except LoadFault Scalar :=
  match String.ofList (Text.lower text) with
  | "yes" | "true" | "on" => .ok (.bool true)
  | "no" | "false" | "off" => .ok (.bool false)
  | _ => .error .notASwitch

def withoutUnderscores (text : List Char) : List Char :=
  text.filter (· ≠ '_')

/-- Is the number negative, and what follows its sign? -/
def splitSign (text : List Char) : Except LoadFault (Bool × List Char) :=
  match text with
  | [] => .error .emptyNumber
  | '-' :: rest => .ok (true, rest)
  | '+' :: rest => .ok (false, rest)
  | rest => .ok (false, rest)

def readInt (base : Nat) (text : List Char) : Except LoadFault Int :=
  (Text.Integer.read base text).mapError .integer

/-- The value of a number in base sixty. -/
def sixties (parts : List Int) : Int :=
  parts.foldl (fun n part => n * 60 + part) 0

/-- A whole number: binary after `0b`, hexadecimal after `0x`, octal after another zero, in base
    sixty with colons, and decimal otherwise. -/
def ofInteger (text : List Char) : Except LoadFault Scalar := do
  let (negative, digits) ← splitSign (withoutUnderscores text)
  let n ← match digits with
    | [] => throw .emptyNumber
    | ['0'] => pure 0
    | '0' :: 'b' :: rest => readInt 2 rest
    | '0' :: 'x' :: rest => readInt 16 rest
    | '0' :: _ => readInt 8 digits
    | _ =>
        if ':' ∈ digits then
          sixties <$> (Text.splitAt ':' digits).mapM (readInt 10)
        else readInt 10 digits
  return .int (if negative then -n else n)

/-- Decimal digits of any script as the ASCII digits. -/
def asciiDigit (c : Char) : Char :=
  match Text.digitValue? c with
  | some n => Char.ofNat (48 + n)
  | none => c

/-- A floating-point number: blanks around it, a sign, and a decimal or a name. -/
def readFloat (text : List Char) : Except LoadFault Float :=
  let bare := ((text.dropWhile Text.Integer.isPadding).reverse.dropWhile
    Text.Integer.isPadding).reverse
  let (negative, magnitude) := Text.Integer.sign (bare.map asciiDigit)
  let value :=
    match String.ofList (Text.lower magnitude) with
    | "inf" | "infinity" => some (1.0 / 0.0 : Float)
    | "nan" => some (0.0 / 0.0 : Float)
    | _ => Decimal.readUnsigned? magnitude
  match value with
  | some x => .ok (if negative then -x else x)
  | none => .error (.float text)

/-- The value of a number in base sixty, from its last part to its first. -/
def floatSixties : List Float → Nat → Float → Except LoadFault Float
  | [], _, sum => .ok sum
  | part :: more, base, sum =>
      if Nat.pow 2 1024 ≤ base then .error .numberOverflow
      else floatSixties more (base * 60) (sum + part * Float.ofScientific base false 0)

/-- A floating-point number, also in base sixty. It is read in small letters. -/
def ofFloatText (text : List Char) : Except LoadFault Scalar := do
  let (negative, digits) ← splitSign (Text.small (withoutUnderscores text))
  let signed (x : Float) : Scalar := .float (if negative then -x else x)
  match String.ofList digits with
  | ".inf" => return signed (1.0 / 0.0)
  | ".nan" => return .notANumber
  | _ =>
      if ':' ∈ digits then
        let parts ← (Text.splitAt ':' digits).mapM readFloat
        return signed (← floatSixties parts.reverse 1 0.0)
      else return signed (← readFloat digits)

def ofDate (text : List Char) : Except LoadFault Scalar :=
  match Stamp.ofScalar? text with
  | none => .error .notADate
  | some stamp =>
      match stamp.resolve with
      | .ok (.inl d) => .ok (.date d)
      | .ok (.inr m) => .ok (.moment m)
      | .error f => .error (.date f)

/-! ## Bytes written as text -/

/-- The value of a digit in base sixty-four. -/
def digit64? (c : Char) : Option Nat :=
  if 'A' ≤ c ∧ c ≤ 'Z' then some (c.toNat - 65)
  else if 'a' ≤ c ∧ c ≤ 'z' then some (c.toNat - 71)
  else if '0' ≤ c ∧ c ≤ '9' then some (c.toNat + 4)
  else if c = '+' then some 62
  else if c = '/' then some 63
  else none

/-- The state between two digits in base sixty-four: how many of a group of four have been read,
    the bits not yet written, and how many padding marks stand before the next one. -/
structure Group where
  read : Nat
  bits : Nat
  padding : Nat

/-- The bytes that the digits spell. Other characters are passed over, and enough padding ends the
    text. -/
def bytes64 : Group → List Char → Except LoadFault (List UInt8)
  | g, [] => if g.read = 0 then .ok [] else .error .malformed
  | g, '=' :: rest =>
      if 2 ≤ g.read ∧ 4 ≤ g.read + g.padding + 1 then .ok []
      else bytes64 { g with padding := if 2 ≤ g.read then g.padding + 1 else g.padding } rest
  | g, c :: rest =>
      match digit64? c with
      | none => bytes64 g rest
      | some d =>
          match g.read with
          | 0 => bytes64 ⟨1, d, 0⟩ rest
          | 1 => (bytes64 ⟨2, d % 16, 0⟩ rest).map (UInt8.ofNat (g.bits * 4 + d / 16) :: ·)
          | 2 => (bytes64 ⟨3, d % 4, 0⟩ rest).map (UInt8.ofNat (g.bits * 16 + d / 4) :: ·)
          | _ => (bytes64 ⟨0, 0, 0⟩ rest).map (UInt8.ofNat (g.bits * 64 + d) :: ·)

/-- Bytes written in base sixty-four. -/
def ofBinary (text : List Char) : Except LoadFault Scalar :=
  if text.any fun c => 128 ≤ c.toNat then .error .malformed
  else .bytes <$> bytes64 ⟨0, 0, 0⟩ text

/-- What a text stands for under a tag of scalars. -/
def ofText (tag : Tag) (text : List Char) : Except LoadFault Scalar :=
  match tag with
  | .null => .ok .null
  | .bool => ofSwitch text
  | .int => ofInteger text
  | .float => ofFloatText text
  | .binary => ofBinary text
  | .timestamp => ofDate text
  | .str => .ok (.text (String.ofList text))
  | _ => .error .malformed

end Scalar

end MuxLaunch.Yaml
