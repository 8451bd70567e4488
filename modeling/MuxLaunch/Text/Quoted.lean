import MuxLaunch.Text.Printable

/-! # Quoted text

The written form of a text inside messages: between single quotes, or between double quotes when
the text holds single quotes and no double ones, with an escape for each character that may not
stand for itself.
-/

namespace MuxLaunch.Text

def digitChar (n : Nat) : Char :=
  if n < 10 then Char.ofNat (48 + n) else Char.ofNat (87 + n)

/-- The low `width` digits of `n` in the given base, the most significant first. -/
def fixedDigits (base : Nat) : Nat → Nat → List Char
  | 0, _ => []
  | width + 1, n => fixedDigits base width (n / base) ++ [digitChar (n % base)]

namespace Quoted

def mark (cs : List Char) : Char :=
  if '\x27' ∈ cs ∧ '\x22' ∉ cs then '\x22' else '\x27'

/-- The escape of a character by its code point, in the shortest of the three lengths. -/
def codeEscape (c : Char) : List Char :=
  let n := c.toNat
  if n < 0x100 then '\\' :: 'x' :: fixedDigits 16 2 n
  else if n < 0x10000 then '\\' :: 'u' :: fixedDigits 16 4 n
  else '\\' :: 'U' :: fixedDigits 16 8 n

/-- The written form of one character between the given marks. -/
def encodeChar (quote c : Char) : List Char :=
  if c = quote ∨ c = '\\' then ['\\', c]
  else if c = '\t' then ['\\', 't']
  else if c = '\n' then ['\\', 'n']
  else if c = '\r' then ['\\', 'r']
  else if isPrintable c then [c]
  else codeEscape c

/-- The written form of a text. -/
def encode (cs : List Char) : List Char :=
  mark cs :: cs.flatMap (encodeChar (mark cs)) ++ [mark cs]

/-- The written form of a text in ASCII. -/
def encodeAscii (cs : List Char) : List Char :=
  (encode cs).flatMap fun c => if c.toNat < 128 then [c] else codeEscape c

/-- The written form of one byte between the given marks. -/
def encodeByte (quote : Char) (b : UInt8) : List Char :=
  let c := Char.ofNat b.toNat
  if b < 0x7f then
    if 32 ≤ b ∨ c = '\t' ∨ c = '\n' ∨ c = '\r' then encodeChar quote c else codeEscape c
  else codeEscape c

/-- The written form of a row of bytes. -/
def encodeBytes (bytes : List UInt8) : List Char :=
  let quote := mark (bytes.map fun b => Char.ofNat b.toNat)
  'b' :: quote :: bytes.flatMap (encodeByte quote) ++ [quote]

end Quoted

def quoted (text : String) : String :=
  String.ofList (Quoted.encode text.toList)

end MuxLaunch.Text
