import MuxLaunch.Yaml.Cursor
import MuxLaunch.Text.Digit

/-! # Tags of YAML nodes

A tag says what kind of value a node stands for. A plain scalar without one is given the tag of
the first form that its text has: a switch, a number, a date, nothing, or a merge or value mark. A
line feed at the end of a text does not change its form.
-/

namespace MuxLaunch.Yaml

/-- The kinds of values that can be built. -/
inductive Tag where
  | null
  | bool
  | int
  | float
  | binary
  | timestamp
  | omap
  | pairs
  | set
  | str
  | seq
  | map
  /-- The key under which a mapping takes over the entries of others. -/
  | merge
  /-- The key of the default value of a mapping. -/
  | value
  /-- A tag from which nothing can be built. -/
  | other
  deriving Repr, DecidableEq

/-- What the standard tags begin with. -/
def standardTags : List Char :=
  "tag:yaml.org,2002:".toList

def Tag.ofName (name : String) : Tag :=
  let cs := name.toList
  if standardTags.isPrefixOf cs then
    match String.ofList (cs.drop standardTags.length) with
    | "null" => .null
    | "bool" => .bool
    | "int" => .int
    | "float" => .float
    | "binary" => .binary
    | "timestamp" => .timestamp
    | "omap" => .omap
    | "pairs" => .pairs
    | "set" => .set
    | "str" => .str
    | "seq" => .seq
    | "map" => .map
    | "merge" => .merge
    | "value" => .value
    | _ => .other
  else .other

/-! ## Forms of plain scalars -/

namespace Form

/-- The part of a text that its form is seen from: all but one line feed at the end. -/
def visible (cs : List Char) : List Char :=
  match cs.reverse with
  | '\n' :: rest => rest.reverse
  | _ => cs

/-- Is the text a nonempty row of characters with a property? -/
def isRow (p : Char → Bool) (cs : List Char) : Bool :=
  cs ≠ [] && cs.all p

def isBinaryDigit (c : Char) : Bool :=
  c = '0' || c = '1' || c = '_'

def isOctalDigit (c : Char) : Bool :=
  ('0' ≤ c && c ≤ '7') || c = '_'

def isDecimalDigit (c : Char) : Bool :=
  Text.isAsciiDigit c || c = '_'

def isHexDigit (c : Char) : Bool :=
  Text.isAsciiHexDigit c || c = '_'

def dropSign : List Char → List Char
  | '+' :: rest => rest
  | '-' :: rest => rest
  | rest => rest

/-- Split off a run of digits and underscores that begins with a digit. -/
def number? (cs : List Char) : Option (List Char) :=
  match cs with
  | c :: rest => if Text.isAsciiDigit c then some (rest.dropWhile isDecimalDigit) else none
  | [] => none

/-- Step over the groups after a colon, each a number below sixty. The first argument bounds how
    many there are; the result tells whether there is one at all. -/
def sixties : Nat → Bool → List Char → Bool × List Char
  | 0, found, rest => (found, rest)
  | bound + 1, found, rest =>
      match rest with
      | ':' :: a :: b :: more =>
          if '0' ≤ a ∧ a ≤ '5' ∧ Text.isAsciiDigit b then sixties bound true more
          else if Text.isAsciiDigit a then sixties bound true (b :: more)
          else (found, rest)
      | [':', a] => if Text.isAsciiDigit a then (true, []) else (found, rest)
      | _ => (found, rest)

def isBool (text : String) : Bool :=
  ["yes", "Yes", "YES", "no", "No", "NO", "true", "True", "TRUE", "false", "False", "FALSE",
    "on", "On", "ON", "off", "Off", "OFF"].contains text

def isNull (text : String) : Bool :=
  ["~", "null", "Null", "NULL", ""].contains text

/-- An exponent: its mark, a sign, and digits; or nothing at all. -/
def isExponent (cs : List Char) : Bool :=
  match cs with
  | [] => true
  | mark :: sign :: digits =>
      (mark = 'e' || mark = 'E') && (sign = '-' || sign = '+') && isRow Text.isAsciiDigit digits
  | _ => false

/-- Digits, a point, and then digits and an exponent. -/
def isPointed (cs : List Char) : Bool :=
  match number? cs with
  | some ('.' :: rest) => isExponent (rest.dropWhile isDecimalDigit)
  | _ => false

/-- A fraction without a whole part. -/
def isFraction (cs : List Char) : Bool :=
  match cs with
  | '.' :: rest =>
      match number? rest with
      | some rest => isExponent rest
      | none => false
  | _ => false

/-- A number in base sixty with a fraction. -/
def isPointedSixties (cs : List Char) : Bool :=
  match number? cs with
  | some rest =>
      match sixties rest.length false rest with
      | (true, '.' :: rest) => rest.all isDecimalDigit
      | _ => false
  | none => false

def isFloat (text : String) : Bool :=
  let cs := text.toList
  let bare := dropSign cs
  isPointed bare || isFraction cs || isPointedSixties bare
    || [".inf", ".Inf", ".INF"].contains (String.ofList bare)
    || [".nan", ".NaN", ".NAN"].contains text

/-- A decimal number without leading zeros. -/
def isDecimal (cs : List Char) : Bool :=
  match cs with
  | ['0'] => true
  | c :: rest => '1' ≤ c && c ≤ '9' && rest.all isDecimalDigit
  | [] => false

/-- A whole number in base sixty. -/
def isSixties (cs : List Char) : Bool :=
  match cs with
  | c :: rest =>
      let rest := rest.dropWhile isDecimalDigit
      '1' ≤ c && c ≤ '9' && sixties rest.length false rest == (true, [])
  | [] => false

def isInt (text : String) : Bool :=
  let bare := dropSign text.toList
  (match bare with
    | '0' :: 'b' :: rest => isRow isBinaryDigit rest
    | '0' :: 'x' :: rest => isRow isHexDigit rest
    | '0' :: rest => isRow isOctalDigit rest
    | _ => false)
    || isDecimal bare || isSixties bare

end Form

/-! ## Dates and times -/

/-- The parts of a date with an optional time of day, as they are written. -/
structure Stamp where
  year : List Char
  month : List Char
  day : List Char
  /-- Hour, minute, second and the digits of a fraction. -/
  time : Option (List Char × List Char × List Char × List Char)
  /-- An offset from universal time: `none` for universal time itself. -/
  zone : Option (Option (Bool × List Char × List Char))
  deriving Repr, DecidableEq

namespace Stamp

/-- Exactly `n` digits. -/
def fixed? (n : Nat) (cs : List Char) : Option (List Char × List Char) :=
  let digits := cs.take n
  if digits.length = n ∧ digits.all Text.isAsciiDigit then some (digits, cs.drop n) else none

/-- One digit or two. -/
def oneOrTwo? (cs : List Char) : Option (List Char × List Char) :=
  fixed? 2 cs <|> fixed? 1 cs

def mark? (c : Char) (cs : List Char) : Option (List Char) :=
  match cs with
  | d :: rest => if d = c then some rest else none
  | [] => none

/-- What stands between a date and a time: a letter or blanks. -/
def between? (cs : List Char) : Option (List Char) :=
  match cs with
  | 'T' :: rest => some rest
  | 't' :: rest => some rest
  | c :: rest =>
      if c = ' ' ∨ c = '\t' then some (rest.dropWhile fun c => c = ' ' || c = '\t') else none
  | [] => none

/-- An offset from universal time. -/
def zone? (cs : List Char) : Option (Option (Option (Bool × List Char × List Char))) :=
  match cs.dropWhile fun c => c = ' ' || c = '\t' with
  | [] => if cs = [] then some none else none
  | ['Z'] => some (some none)
  | sign :: rest =>
      if sign = '+' ∨ sign = '-' then do
        let (hours, rest) ← oneOrTwo? rest
        match rest with
        | [] => return some (some (sign = '-', hours, []))
        | _ =>
            let (minutes, rest) ← fixed? 2 (← mark? ':' rest)
            if rest = [] then return some (some (sign = '-', hours, minutes)) else none
      else none

/-- Read a date, with a time of day and an offset if they are given. -/
def ofChars? (cs : List Char) : Option Stamp := do
  let (year, cs) ← fixed? 4 cs
  let (month, cs) ← oneOrTwo? (← mark? '-' cs)
  let (day, cs) ← oneOrTwo? (← mark? '-' cs)
  if cs = [] then return ⟨year, month, day, none, none⟩
  let (hour, cs) ← oneOrTwo? (← between? cs)
  let (minute, cs) ← fixed? 2 (← mark? ':' cs)
  let (second, cs) ← fixed? 2 (← mark? ':' cs)
  let (fraction, cs) := match cs with
    | '.' :: rest => (rest.takeWhile Text.isAsciiDigit, rest.dropWhile Text.isAsciiDigit)
    | cs => ([], cs)
  let zone ← zone? cs
  return ⟨year, month, day, some (hour, minute, second, fraction), zone⟩

/-- Does a text read as a date? Without a time, month and day must have two digits. -/
def isForm (text : String) : Bool :=
  match ofChars? text.toList with
  | some s => s.time.isSome || text.toList.length == 10
  | none => false

/-- Read a date as the text of a scalar, where a line feed may follow it. -/
def ofScalar? (cs : List Char) : Option Stamp :=
  ofChars? (Form.visible cs)

end Stamp

/-- The tag that a text has by its form. -/
def Tag.ofForm (text : String) : Tag :=
  if Form.isBool text then .bool
  else if Form.isFloat text then .float
  else if Form.isInt text then .int
  else if text = "<<" then .merge
  else if Form.isNull text then .null
  else if Stamp.isForm text then .timestamp
  else if text = "=" then .value
  else if text = "!" ∨ text = "&" ∨ text = "*" then .other
  else .str

/-- The tag that a plain scalar has by its form. A line feed alone has none. -/
def Tag.ofPlain (text : String) : Tag :=
  if text = "\n" then .str else .ofForm (String.ofList (Form.visible text.toList))

end MuxLaunch.Yaml
