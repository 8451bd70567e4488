/-! # Letter case

Case maps as far as they reach ASCII. Names of levels, code sets and switches are ASCII words, so
a letter whose other case lies outside ASCII can never complete one.
-/

namespace MuxLaunch.Text

/-- The small letter of an ASCII capital; every other character is kept. -/
def lower (cs : List Char) : List Char :=
  cs.map fun c => if 'A' ≤ c ∧ c ≤ 'Z' then Char.ofNat (c.toNat + 32) else c

/-- The ASCII capitals that a single letter turns into: sharp s, the dotless i, the long s and
    the Latin ligatures besides the ASCII letters themselves. -/
def capitals (c : Char) : List Char :=
  if 'a' ≤ c ∧ c ≤ 'z' then [Char.ofNat (c.toNat - 32)]
  else match c.toNat with
    | 0xdf => ['S', 'S']
    | 0x131 => ['I']
    | 0x17f => ['S']
    | 0xfb00 => ['F', 'F']
    | 0xfb01 => ['F', 'I']
    | 0xfb02 => ['F', 'L']
    | 0xfb03 => ['F', 'F', 'I']
    | 0xfb04 => ['F', 'F', 'L']
    | 0xfb05 => ['S', 'T']
    | 0xfb06 => ['S', 'T']
    | _ => [c]

def upper (cs : List Char) : List Char :=
  cs.flatMap capitals

end MuxLaunch.Text
