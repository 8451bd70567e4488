import MuxLaunch.Text.Blank
import MuxLaunch.Text.Digit
import MuxLaunch.Text.Quoted

/-! # Whole numbers in text

Reading a whole number: blanks around it, a sign, digits of any script, and single underscores
between digits. A number of more than 4300 digits is refused in every base that is no power of
two, and so is the writing of one.
-/

namespace MuxLaunch.Text.Integer

/-- The largest number of digits that is read or written. -/
def digitLimit : Nat := 4300

/-- Why a text is no whole number. -/
inductive Fault where
  | malformed (base : Nat) (text : List Char)
  | tooManyDigits (count : Nat)
  deriving Repr, DecidableEq

/-- The wording of a fault. A long text is cut after 200 characters of its written form. -/
def Fault.message : Fault → String
  | .malformed base text =>
      "invalid literal for int() with base " ++ toString base ++ ": "
        ++ String.ofList ((Quoted.encode text).take 200)
  | .tooManyDigits count =>
      "Exceeds the limit (4300 digits) for integer string conversion: value has "
        ++ toString count ++ " digits; use sys.set_int_max_str_digits() to increase the limit"

/-- Blanks that may surround a number. The information separators may not. -/
def isPadding (c : Char) : Bool :=
  isBlank c && !(28 ≤ c.toNat && c.toNat < 32)

/-- Digits with single underscores between them; every digit is followed by the end, another
    digit, or one underscore and a digit. -/
def digits? (base : Nat) : List Char → Option (List Nat)
  | [] => none
  | [c] => (digitIn? base c).map ([·])
  | c :: '_' :: rest => do return (← digitIn? base c) :: (← digits? base rest)
  | c :: rest => do return (← digitIn? base c) :: (← digits? base rest)

/-- The value of digits, the most significant first. -/
def ofDigits (base : Nat) (digits : List Nat) : Nat :=
  digits.foldl (fun value digit => value * base + digit) 0

/-- The letter that marks a base after a leading zero. -/
def baseLetter (base : Nat) : Option Char :=
  match base with
  | 2 => some 'b'
  | 8 => some 'o'
  | 16 => some 'x'
  | _ => none

/-- Drop the mark of the base, such as `0x`, and one underscore after it. -/
def dropBaseMark (base : Nat) (text : List Char) : List Char :=
  match text with
  | zero :: letter :: rest =>
      if digitValue? zero = some 0 ∧ some letter.toLower = baseLetter base then
        match rest with
        | '_' :: rest => rest
        | rest => rest
      else text
  | _ => text

/-- Split off a sign; `true` stands for minus. -/
def sign : List Char → Bool × List Char
  | '-' :: rest => (true, rest)
  | '+' :: rest => (false, rest)
  | rest => (false, rest)

/-- A character of the digits of a number. -/
def isDigitPart (base : Nat) (c : Char) : Bool :=
  c = '_' || (digitIn? base c).isSome

/-- Read a whole number in a base of at most sixteen. A number of too many digits is refused before
    a look is taken at what follows them. -/
def read (base : Nat) (text : List Char) : Except Fault Int :=
  let (negative, magnitude) := sign (text.dropWhile isPadding)
  let bare := dropBaseMark base magnitude
  match digits? base (bare.takeWhile (isDigitPart base)) with
  | none => .error (.malformed base text)
  | some digits =>
      if baseLetter base = none ∧ digitLimit < digits.length then
        .error (.tooManyDigits digits.length)
      else if !(bare.dropWhile (isDigitPart base)).all isPadding then
        .error (.malformed base text)
      else
        let value : Int := ofDigits base digits
        .ok (if negative then -value else value)

def isTooLong (n : Int) : Bool :=
  Nat.pow 10 digitLimit ≤ n.natAbs

end MuxLaunch.Text.Integer
