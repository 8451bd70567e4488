import MuxLaunch.Yaml.Moment
import MuxLaunch.Decimal.Text
import MuxLaunch.Text.Integer

/-! # YAML values

What a document holds once it has been read, when a value counts as true, and the text of a value.
-/

namespace MuxLaunch.Yaml

/-- A value that is no collection. Only such a value can be a key. -/
inductive Scalar where
  | null
  | bool (b : Bool)
  | int (n : Int)
  | float (x : Float)
  /-- The one value that is written `.nan`. -/
  | notANumber
  | text (s : String)
  | bytes (bs : List UInt8)
  | date (d : Date)
  | moment (m : Moment)
  deriving Repr

/-- A collection that contains itself, at the place where it would be shown again. -/
inductive Knot where
  | sequence
  | mapping
  | set
  deriving Repr, DecidableEq

inductive Value where
  | scalar (s : Scalar)
  | sequence (items : List Value)
  | mapping (entries : List (Scalar × Value))
  | set (members : List Scalar)
  /-- An ordered mapping, or a row of pairs. -/
  | pairs (entries : List (Value × Value))
  | knot (k : Knot)
  deriving Repr

/-- Why a value has no text. -/
inductive Flaw where
  /-- It is nested deeper than there is room for. -/
  | tooDeep
  /-- It is or contains a number of too many digits. -/
  | tooLong
  deriving Repr, DecidableEq

namespace Scalar

/-- A number as its simplest equal: switches count as numbers, and a float without a fraction
    equals a whole number. -/
def simplest : Scalar → Scalar
  | .bool b => .int (if b then 1 else 0)
  | .float x =>
      match Decimal.Reading.ofFloat x with
      | .finite negative ⟨significand, exponent, _⟩ =>
          let scale := Nat.pow 2 (-exponent).toNat
          if significand % scale = 0 then
            let size : Int := significand / scale * Nat.pow 2 exponent.toNat
            .int (if negative then -size else size)
          else .float x
      | _ => .float x
  | s => s

/-- Are two keys the same? A computed number that is none differs even from itself. -/
def sameKey (a b : Scalar) : Bool :=
  match a.simplest, b.simplest with
  | .null, .null => true
  | .int m, .int n => m = n
  | .float x, .float y => x == y
  | .notANumber, .notANumber => true
  | .text s, .text t => s = t
  | .bytes s, .bytes t => s = t
  | .date d, .date e => d = e
  | .moment m, .moment n => m.isSame n
  | _, _ => false

/-- Does the value count as true? Empty text, zero and null do not. -/
def isTrue : Scalar → Bool
  | .null => false
  | .bool b => b
  | .int n => n ≠ 0
  | .float x => x != 0
  | .notANumber => true
  | .text s => s ≠ ""
  | .bytes bs => bs ≠ []
  | .date _ => true
  | .moment _ => true

/-- How many texts inside of each other the text of a value is made of, itself included. -/
def levels : Scalar → Nat
  | .moment m =>
      match m.offset with
      | none => 1
      | some 0 => 2
      | some _ => 3
  | _ => 1

/-- Why there is no text where so much room is left. -/
def flaw? (room : Nat) (s : Scalar) : Option Flaw :=
  if room < s.levels then some .tooDeep
  else match s with
    | .int n => if Text.Integer.isTooLong n then some .tooLong else none
    | _ => none

/-- The text inside a collection. -/
def written : Scalar → List Char
  | .null => "None".toList
  | .bool true => "True".toList
  | .bool false => "False".toList
  | .int n => (toString n).toList
  | .float x => Decimal.text x
  | .notANumber => "nan".toList
  | .text s => Text.Quoted.encode s.toList
  | .bytes bs => Text.Quoted.encodeBytes bs
  | .date d => d.written
  | .moment m => m.written

/-- The text of a value that stands alone. -/
def plain : Scalar → List Char
  | .text s => s.toList
  | .date d => d.text
  | .moment m => m.text
  | s => s.written

end Scalar

/-- The text of a collection at the place where it would contain itself. -/
def Knot.written : Knot → List Char
  | .sequence => "[...]".toList
  | .mapping => "\x7b...\x7d".toList
  | .set => "set(...)".toList

namespace Value

mutual

/-- The text inside a collection. -/
def written : Value → List Char
  | .scalar s => s.written
  | .sequence items => '[' :: commaSeparated (writtenItems items) ++ [']']
  | .mapping entries => '\x7b' :: commaSeparated (writtenEntries entries) ++ ['\x7d']
  | .set [] => "set()".toList
  | .set members => '\x7b' :: commaSeparated (members.map Scalar.written) ++ ['\x7d']
  | .pairs entries => '[' :: commaSeparated (writtenPairs entries) ++ [']']
  | .knot k => k.written

def writtenItems : List Value → List (List Char)
  | [] => []
  | item :: more => written item :: writtenItems more

def writtenEntries : List (Scalar × Value) → List (List Char)
  | [] => []
  | (key, value) :: more => (key.written ++ ": ".toList ++ written value) :: writtenEntries more

def writtenPairs : List (Value × Value) → List (List Char)
  | [] => []
  | (key, value) :: more =>
      ('(' :: written key ++ ", ".toList ++ written value ++ [')']) :: writtenPairs more

end

mutual

/-- Why there is no text where so much room is left. The parts are written one after another, so the
    first flaw counts. Members of a set are written as those of a sequence in it, and pairs as
    sequences. -/
def flaw? : Nat → Value → Option Flaw
  | 0, _ => some .tooDeep
  | room + 1, .scalar s => s.flaw? (room + 1)
  | room + 1, .sequence items => itemsFlaw? room items
  | room + 1, .mapping entries => entriesFlaw? room entries
  | room + 1, .set members => members.findSome? (Scalar.flaw? (room - 1))
  | room + 1, .pairs entries => pairsFlaw? (room - 1) entries
  | _ + 1, .knot _ => none

def itemsFlaw? (room : Nat) : List Value → Option Flaw
  | [] => none
  | item :: more => flaw? room item <|> itemsFlaw? room more

def entriesFlaw? (room : Nat) : List (Scalar × Value) → Option Flaw
  | [] => none
  | (key, value) :: more => key.flaw? room <|> flaw? room value <|> entriesFlaw? room more

def pairsFlaw? (room : Nat) : List (Value × Value) → Option Flaw
  | [] => none
  | (key, value) :: more => flaw? room key <|> flaw? room value <|> pairsFlaw? room more

end

/-- The text of a value that stands alone. -/
def text : Value → List Char
  | .scalar s => s.plain
  | v => v.written

/-- The text of a value that stands alone, if it has one. A text is its own. -/
def text? (room : Nat) (v : Value) : Except Flaw (List Char) :=
  match v with
  | .scalar (.text s) => .ok s.toList
  | v =>
      match v.flaw? room with
      | some f => .error f
      | none => .ok v.text

/-- Does the value count as true? Empty collections do not. -/
def isTrue : Value → Bool
  | .scalar s => s.isTrue
  | .sequence items => !items.isEmpty
  | .mapping entries => !entries.isEmpty
  | .set members => !members.isEmpty
  | .pairs entries => !entries.isEmpty
  | .knot _ => true

def null : Value := .scalar .null

end Value

end MuxLaunch.Yaml
