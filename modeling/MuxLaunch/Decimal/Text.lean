import MuxLaunch.Decimal.Shortest
import MuxLaunch.Text.Digit

/-! # Floating-point numbers in text

A number is written with the fewest digits that read back, positionally from a ten-thousandth up
to below ten quadrillions and with an exponent of at least two digits otherwise. A positional
number always shows a fraction.
-/

namespace MuxLaunch.Decimal

/-- Drop the zeros at the end of the digits, counting them into the exponent. The first argument
    bounds how many digits there are. -/
def Scientific.strip : Nat → Scientific → Scientific
  | 0, s => s
  | bound + 1, s =>
      if s.digits ≠ 0 ∧ s.digits % 10 = 0 then strip bound ⟨s.digits / 10, s.exponent + 1⟩ else s

/-- Digits with a point after the first `point` of them, padded with zeros. -/
def placePoint (digits : List Char) (point : Int) : List Char :=
  if point ≤ 0 then
    '0' :: '.' :: (List.replicate (-point).toNat '0' ++ digits)
  else
    let whole := digits.take point.toNat
    let fraction := digits.drop point.toNat
    whole ++ List.replicate (point.toNat - digits.length) '0' ++ '.' ::
      (if fraction = [] then ['0'] else fraction)

/-- Digits with a point after the first of them and an exponent. -/
def withExponent (digits : List Char) (exponent : Int) : List Char :=
  let mantissa := match digits with
    | [] => ['0']
    | [d] => [d]
    | d :: more => d :: '.' :: more
  let size := (toString exponent.natAbs).toList
  let mark := if exponent < 0 then '-' else '+'
  mantissa ++ 'e' :: mark :: (if size.length < 2 then '0' :: size else size)

def Scientific.text (s : Scientific) : List Char :=
  let s := s.strip 400
  let digits := (toString s.digits).toList
  let point := digits.length + s.exponent
  if -4 < point ∧ point ≤ 16 then placePoint digits point else withExponent digits (point - 1)

def text (x : Float) : List Char :=
  match Reading.ofFloat x with
  | .notANumber => "nan".toList
  | .infinite negative => (if negative then "-inf" else "inf").toList
  | .finite negative interval =>
      let magnitude :=
        if interval.significand = 0 then "0.0".toList else interval.shortest.text
      if negative then '-' :: magnitude else magnitude

/-- The digits at the head of a text and what follows them. -/
def spanDigits (cs : List Char) : List Char × List Char :=
  (cs.takeWhile Text.isAsciiDigit, cs.dropWhile Text.isAsciiDigit)

def natOfDigits (cs : List Char) : Nat :=
  cs.foldl (fun n c => n * 10 + (c.toNat - 48)) 0

/-- An exponent mark with its number, or nothing. -/
def exponent? : List Char → Option Int
  | [] => some 0
  | mark :: rest =>
      if mark ≠ 'e' ∧ mark ≠ 'E' then none
      else
        let (negative, digits) := match rest with
          | '-' :: digits => (true, digits)
          | '+' :: digits => (false, digits)
          | digits => (false, digits)
        if digits = [] ∨ digits.any (fun c => !Text.isAsciiDigit c) then none
        else some (if negative then -(natOfDigits digits : Int) else natOfDigits digits)

/-- The floating-point number nearest to `digits * 10 ^ exponent`. Exponents beyond any that
    matter are cut, so that no huge power is ever formed. -/
def nearest (digits : Nat) (exponent : Int) : Float :=
  if digits = 0 then 0
  else if exponent < 0 then
    Float.ofScientific digits true (min exponent.natAbs (1100 + (toString digits).length))
  else Float.ofScientific digits false (min exponent.natAbs 400)

/-- Read an unsigned decimal: digits with a point anywhere among them, then an exponent. -/
def readUnsigned? (cs : List Char) : Option Float :=
  let (whole, rest) := spanDigits cs
  let (fraction, rest) := match rest with
    | '.' :: rest => spanDigits rest
    | rest => ([], rest)
  if whole = [] ∧ fraction = [] then none
  else (exponent? rest).map fun e =>
    nearest (natOfDigits (whole ++ fraction)) (e - fraction.length)

end MuxLaunch.Decimal
