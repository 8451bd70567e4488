import MuxLaunch.Decimal.Text

/-! # Numbers with a given number of digits

A number is written with so many places after the point, or with so many digits in all and an
exponent. What is left over is rounded to the nearest, a half to the even neighbour. All arithmetic
is exact.
-/

namespace MuxLaunch.Decimal

structure Ratio where
  numerator : Nat
  denominator : Nat
  deriving Repr, DecidableEq

/-- The number at the middle of the interval. -/
def Interval.ratio (i : Interval) : Ratio :=
  ⟨i.significand * Nat.pow 2 i.exponent.toNat, Nat.pow 2 (-i.exponent).toNat⟩

namespace Ratio

/-- The number times a power of ten. -/
def scale (r : Ratio) (e : Int) : Ratio :=
  ⟨r.numerator * Nat.pow 10 e.toNat, r.denominator * Nat.pow 10 (-e).toNat⟩

/-- The nearest natural number, of two the even one. -/
def round (r : Ratio) : Nat :=
  let lower := r.numerator / r.denominator
  let rest := 2 * (r.numerator % r.denominator)
  if rest < r.denominator ∨ (rest = r.denominator ∧ lower % 2 = 0) then lower else lower + 1

/-- The exponent of the leading digit; that of zero is zero. -/
def magnitude (r : Ratio) : Int :=
  if r.numerator = 0 then 0
  else
    let estimate : Int :=
      ((Nat.toDigits 10 r.numerator).length : Int) - (Nat.toDigits 10 r.denominator).length
    let power := r.scale (-estimate)
    if power.denominator ≤ power.numerator then estimate else estimate - 1

/-- So many digits of the number, at least one, with the exponent of the first of them. -/
def leading (r : Ratio) (count : Nat) : List Char × Int :=
  let e := r.magnitude
  let n := (r.scale (count - 1 - e)).round
  if n = Nat.pow 10 count then (Nat.toDigits 10 (Nat.pow 10 (count - 1)), e + 1)
  else
    let digits := Nat.toDigits 10 n
    (List.replicate (count - digits.length) '0' ++ digits, e)

end Ratio

/-- Whole digits, and a point and a fraction if there is one. The point may be kept without. -/
def joinPoint (keepPoint : Bool) (whole fraction : List Char) : List Char :=
  if fraction = [] ∧ !keepPoint then whole else whole ++ '.' :: fraction

/-- An exponent of at least two digits, with its mark and its sign. -/
def exponentText (e : Int) : List Char :=
  let digits := Nat.toDigits 10 e.natAbs
  'e' :: (if e < 0 then '-' else '+') :: (List.replicate (2 - digits.length) '0' ++ digits)

/-- A number with so many places after the point. -/
def withPlaces (keepPoint : Bool) (places : Nat) (r : Ratio) : List Char :=
  let digits := Nat.toDigits 10 (r.scale places).round
  let digits := List.replicate (places + 1 - digits.length) '0' ++ digits
  let whole := digits.length - places
  joinPoint keepPoint (digits.take whole) (digits.drop whole)

/-- A number with one digit before the point, so many places after it, and an exponent. -/
def withPower (keepPoint : Bool) (places : Nat) (r : Ratio) : List Char :=
  let (digits, e) := r.leading (places + 1)
  joinPoint keepPoint (digits.take 1) (digits.drop 1) ++ exponentText e

def dropZeros (digits : List Char) : List Char :=
  (digits.reverse.dropWhile (· = '0')).reverse

/-- A number with so many digits, in whichever of the two forms suits its size: with an exponent if
    that is below -4 or too large for the digits. Zeros at the end of the fraction are dropped
    unless they are to be kept. -/
def withDigits (keepZeros : Bool) (count : Nat) (r : Ratio) : List Char :=
  let count := max count 1
  let (digits, e) := r.leading count
  let trim (fraction : List Char) := if keepZeros then fraction else dropZeros fraction
  if e < -4 ∨ (count : Int) ≤ e then
    joinPoint keepZeros (digits.take 1) (trim (digits.drop 1)) ++ exponentText e
  else
    let padded := List.replicate (-e).toNat '0' ++ digits
    let whole := e.toNat + 1
    joinPoint keepZeros (padded.take whole) (trim (padded.drop whole))

end MuxLaunch.Decimal
