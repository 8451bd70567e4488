import MuxLaunch.Decimal.Places
import MuxLaunch.Text.Letter
import MuxLaunch.Text.Quoted
import MuxLaunch.Text.Digit

/-! # Fields of a line format

A field says which part of a note it shows and how: as text, as a number in some base, or as a
number with a given number of digits; and how wide it is at least, on which side it is filled up
and with what.
-/

namespace MuxLaunch

/-- What a field stands for. -/
inductive FieldValue where
  | text (cs : List Char)
  | number (n : Int)
  | float (x : Float)
  /-- A value that only has a text. -/
  | other (cs : List Char)

/-- How a value is shown. The numbers with digits and exponents may have capitals. -/
inductive Conversion where
  | plain
  | quoted
  | quotedAscii
  | character
  | decimal
  | octal
  | hexadecimal (capitals : Bool)
  | places
  | power (capitals : Bool)
  | digits (capitals : Bool)
  deriving Repr, DecidableEq

/-- A field in a format. One without a name stands for the whole note. -/
structure Field where
  name : Option String
  left : Bool
  zeros : Bool
  plus : Bool
  blank : Bool
  /-- Mark the base of a number, and keep its point and zeros. -/
  marked : Bool
  width : Option Nat
  precision : Option Nat
  conversion : Conversion
  deriving Repr, DecidableEq

/-- The conversion that a letter names. -/
def Conversion.ofLetter? (c : Char) : Option Conversion :=
  match c with
  | 's' => some .plain
  | 'r' => some .quoted
  | 'a' => some .quotedAscii
  | 'c' => some .character
  | 'd' | 'i' | 'u' => some .decimal
  | 'o' => some .octal
  | 'x' => some (.hexadecimal false)
  | 'X' => some (.hexadecimal true)
  | 'f' | 'F' => some .places
  | 'e' => some (.power false)
  | 'E' => some (.power true)
  | 'g' => some (.digits false)
  | 'G' => some (.digits true)
  | _ => none

namespace FieldValue

/-- The text of a value. -/
def plain : FieldValue → List Char
  | text cs => cs
  | number n => (toString n).toList
  | float x => Decimal.text x
  | other cs => cs

/-- The text of a value as it is written inside other values. -/
def written : FieldValue → List Char
  | text cs => Text.Quoted.encode cs
  | v => v.plain

def writtenAscii : FieldValue → List Char
  | text cs => Text.Quoted.encodeAscii cs
  | v => v.plain

/-- A floating-point number as a whole one, without its fraction. -/
def truncate (x : Float) : Option Int :=
  match Decimal.Reading.ofFloat x with
  | .finite negative i =>
      let size : Int := i.ratio.numerator / i.ratio.denominator
      some (if negative then -size else size)
  | _ => none

def integer? : FieldValue → Option Int
  | number n => some n
  | float x => truncate x
  | _ => none

/-- The value as a floating-point number: its sign and its size. -/
def ratio? (v : FieldValue) : Option (Bool × Decimal.Ratio) :=
  let x? := match v with
    | number n => some (Float.ofInt n)
    | float x => some x
    | _ => none
  match x?.map Decimal.Reading.ofFloat with
  | some (.finite negative i) => some (negative, i.ratio)
  | _ => none

def character? : FieldValue → Option Char
  | text [c] => some c
  | number n => if 0 ≤ n ∧ n.toNat.isValidChar then some (Char.ofNat n.toNat) else none
  | _ => none

end FieldValue

namespace Field

/-- Fill up with blanks to the width of the field. -/
def fill (f : Field) (cs : List Char) : List Char :=
  let filling := List.replicate (f.width.getD 0 - cs.length) ' '
  if f.left then cs ++ filling else filling ++ cs

/-- A text as a field shows it, cut to its precision. -/
def showText (f : Field) (cs : List Char) : List Char :=
  f.fill ((f.precision.map cs.take).getD cs)

def sign (f : Field) (negative : Bool) : List Char :=
  if negative then ['-'] else if f.plus then ['+'] else if f.blank then [' '] else []

/-- A number as a field shows it: zeros that fill it up stand between the mark of its base and its
    digits. -/
def showNumber (f : Field) (negative : Bool) (mark digits : List Char) : List Char :=
  let front := f.sign negative ++ mark
  if f.zeros ∧ !f.left then
    front ++ List.replicate (f.width.getD 0 - front.length - digits.length) '0' ++ digits
  else f.fill (front ++ digits)

/-- A whole number in a base, with at least as many digits as the precision asks for. -/
def showInteger (f : Field) (base : Nat) (letter : Char) (n : Int) : List Char :=
  let digits := Nat.toDigits base n.natAbs
  let digits := List.replicate (f.precision.getD 0 - digits.length) '0' ++ digits
  f.showNumber (n < 0) (if f.marked ∧ base ≠ 10 then ['0', letter] else []) digits

/-- How many digits a number has after its point, or in all, when nothing is said about it. -/
def standardPrecision : Nat := 6

/-- A number that is written by `write`. -/
def showRatio (f : Field) (v : FieldValue) (write : Bool → Nat → Decimal.Ratio → List Char) :
    Option (List Char) :=
  v.ratio?.map fun (negative, r) =>
    f.showNumber negative [] (write f.marked (f.precision.getD standardPrecision) r)

/-- A value as a field shows it, if the field can. -/
def render? (f : Field) (v : FieldValue) : Option (List Char) :=
  match f.conversion with
  | .plain => some (f.showText v.plain)
  | .quoted => some (f.showText v.written)
  | .quotedAscii => some (f.showText v.writtenAscii)
  | .character => v.character?.map fun c => f.fill [c]
  | .decimal => v.integer?.map (f.showInteger 10 'd')
  | .octal =>
      match v with
      | .number n => some (f.showInteger 8 'o' n)
      | _ => none
  | .hexadecimal capitals =>
      match v with
      | .number n =>
          let shown := f.showInteger 16 'x' n
          some (if capitals then Text.upper shown else shown)
      | _ => none
  | .places => f.showRatio v Decimal.withPlaces
  | .power capitals =>
      (f.showRatio v Decimal.withPower).map fun cs => if capitals then Text.upper cs else cs
  | .digits capitals =>
      (f.showRatio v Decimal.withDigits).map fun cs => if capitals then Text.upper cs else cs

end Field

end MuxLaunch
