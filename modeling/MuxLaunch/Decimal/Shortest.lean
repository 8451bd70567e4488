/-! # The shortest decimal of a binary number

A finite floating-point number stands for every real that rounds to it. Among the decimals in that
interval those with the fewest digits are sought, and of these the one nearest to the number. All
arithmetic is exact, on natural numbers.
-/

namespace MuxLaunch.Decimal

/-- The reals that round to `significand * 2 ^ exponent`. A number at the lower end of its binade
    has its lower neighbour at half the distance. -/
structure Interval where
  significand : Nat
  exponent : Int
  closeBelow : Bool
  deriving Repr, DecidableEq

/-- A decimal `digits * 10 ^ exponent`. -/
structure Scientific where
  digits : Nat
  exponent : Int
  deriving Repr, DecidableEq

namespace Interval

/-- `factor * 10 ^ e` against `quarters` quarters of the last binary place, as natural numbers. -/
def scaled (i : Interval) (factor : Nat) (e : Int) (quarters : Nat) : Nat × Nat :=
  let q := i.exponent - 2
  (factor * Nat.pow 10 e.toNat * Nat.pow 2 (-q).toNat,
    quarters * Nat.pow 2 q.toNat * Nat.pow 10 (-e).toNat)

def isBelowPower (i : Interval) (e : Int) : Bool :=
  let (power, value) := i.scaled 1 e (4 * i.significand)
  value < power

/-- The least `e` with the number below `10 ^ e`, from an estimate by the binary length. -/
def magnitude (i : Interval) : Int :=
  let estimate := (i.significand.log2 + i.exponent) * 30103 / 100000
  ((List.range 4).map fun n : Nat => estimate - 1 + (n : Int)).find? i.isBelowPower |>.getD estimate

/-- The largest multiple of `10 ^ e` that does not exceed the number. -/
def floorAt (i : Interval) (e : Int) : Nat :=
  let (unit, value) := i.scaled 1 e (4 * i.significand)
  value / unit

/-- Does `factor * 10 ^ e` lie in the interval? The ends belong to it when the significand is
    even. -/
def contains (i : Interval) (factor : Nat) (e : Int) : Bool :=
  let lower := if i.closeBelow then 4 * i.significand - 1 else 4 * i.significand - 2
  let (low, least) := i.scaled factor e lower
  let (high, most) := i.scaled factor e (4 * i.significand + 2)
  if i.significand % 2 = 0 then least ≤ low && high ≤ most else least < low && high < most

/-- Is `factor * 10 ^ e` nearer to the number than the next multiple? A tie goes to the even
    one. -/
def prefersLower (i : Interval) (factor : Nat) (e : Int) : Bool :=
  let (middle, value) := i.scaled (2 * factor + 1) e (8 * i.significand)
  value < middle || (value = middle && factor % 2 = 0)

/-- The decimal of the interval on the grid of `10 ^ e` that is nearest to the number. -/
def nearestAt? (i : Interval) (e : Int) : Option Scientific :=
  let lower := i.floorAt e
  match i.contains lower e, i.contains (lower + 1) e with
  | true, true => some ⟨if i.prefersLower lower e then lower else lower + 1, e⟩
  | true, false => some ⟨lower, e⟩
  | false, true => some ⟨lower + 1, e⟩
  | false, false => none

/-- The shortest decimal of the interval. Seventeen digits always suffice. -/
def shortest (i : Interval) : Scientific :=
  let top := i.magnitude
  let grids := (List.range 17).map fun n : Nat => top - 1 - (n : Int)
  (grids.findSome? i.nearestAt?).getD ⟨i.floorAt (top - 17), top - 17⟩

end Interval

/-- What a floating-point number stands for. -/
inductive Reading where
  | notANumber
  | infinite (negative : Bool)
  | finite (negative : Bool) (interval : Interval)
  deriving Repr, DecidableEq

/-- Take a floating-point number apart. -/
def Reading.ofFloat (x : Float) : Reading :=
  let bits := x.toBits.toNat
  let negative := bits / Nat.pow 2 63 = 1
  let exponent : Nat := bits / Nat.pow 2 52 % Nat.pow 2 11
  let fraction : Nat := bits % Nat.pow 2 52
  if exponent = 2047 then
    if fraction = 0 then .infinite negative else .notANumber
  else if exponent = 0 then .finite negative ⟨fraction, -1074, false⟩
  else
    .finite negative
      ⟨fraction + Nat.pow 2 52, (exponent : Int) - 1075, fraction = 0 && 1 < exponent⟩

end MuxLaunch.Decimal
