import MuxLaunch.Journal.Field
import MuxLaunch.Journal.Note
import MuxLaunch.Text.Search
import MuxLaunch.Text.WordChar

/-! # Line formats of the journal

A format is a text with fields such as `%(name)s` or `%(levelname)-8s`. The time of every note is
the beginning of the epoch.
-/

namespace MuxLaunch

inductive FormatPart where
  | text (cs : List Char)
  | field (f : Field)
  deriving Repr, DecidableEq

namespace Format

def version : String := "2.4.0"

/-- The field for the time of a note. -/
def timeStamp : List Char := "%(asctime)s".toList

/-- Let the version follow every time stamp. -/
def withVersion (format : String) : String :=
  String.ofList
    (Text.replace timeStamp (timeStamp ++ (" [v" ++ version ++ "]").toList) format.toList)

def isFlag (c : Char) : Bool :=
  ['#', '0', '+', ' ', '-'].contains c

/-- A letter that may end a field, in any letter case; the dotless i and the long s are such
    letters too, and so is the dotted capital I. -/
def isConversion (c : Char) : Bool :=
  "diouxefgcrsaDIOUXEFGCRSA%\u0130\u0131\u017f".toList.contains c

/-- Drop a width or a precision. -/
def dropCount (cs : List Char) : Option (List Char) :=
  match cs with
  | '*' :: rest => some rest
  | c :: rest => if (Text.digitValue? c).isSome then
      some (rest.dropWhile fun d => (Text.digitValue? d).isSome) else none
  | [] => none

/-- Is the text after a percent sign the rest of a field? -/
def isField (cs : List Char) : Bool :=
  match cs with
  | '(' :: rest =>
      match rest.takeWhile Text.isWordChar, rest.dropWhile Text.isWordChar with
      | _ :: _, ')' :: rest =>
          let rest := rest.dropWhile isFlag
          let rest := (dropCount rest).getD rest
          let rest := match rest with
            | '.' :: more => (dropCount more).getD rest
            | _ => rest
          match rest with
          | c :: _ => isConversion c
          | [] => false
      | _, _ => false
  | _ => false

/-- A format needs at least one field. -/
def isValid : List Char → Bool
  | [] => false
  | c :: rest => (c = '%' && isField rest) || isValid rest

/-- The largest width or precision. -/
def countLimit : Nat := Nat.pow 2 31

/-- The number at the head of a text, if there is one, and what follows it. There is no result for
    a number beyond the limit. -/
def readCount? (cs : List Char) : Option (Option Nat × List Char) :=
  match cs.takeWhile Text.isAsciiDigit with
  | [] => some (none, cs)
  | digits =>
      let n := digits.foldl (fun n c => n * 10 + (c.toNat - 48)) 0
      if n < countLimit then some (some n, cs.dropWhile Text.isAsciiDigit) else none

/-- The name at the head of a text up to the bracket that closes it, and what follows. The first
    argument counts the brackets that have been opened inside. -/
def readName? : Nat → List Char → Option (List Char × List Char)
  | _, [] => none
  | 0, ')' :: rest => some ([], rest)
  | depth, c :: rest =>
      let depth := if c = '(' then depth + 1 else if c = ')' then depth - 1 else depth
      (readName? depth rest).map fun (name, rest) => (c :: name, rest)

/-- Drop a mark of size before the letter of a conversion; it means nothing. -/
def dropSize : List Char → List Char
  | 'h' :: rest => rest
  | 'l' :: rest => rest
  | 'L' :: rest => rest
  | rest => rest

/-- The field at the head of a text that follows a percent sign. -/
def readField? (cs : List Char) : Option (Field × List Char) := do
  let (name, rest) ← match cs with
    | '(' :: rest => (readName? 0 rest).map fun (name, rest) => (some (String.ofList name), rest)
    | rest => some (none, rest)
  let flags := rest.takeWhile isFlag
  let (width, rest) ← readCount? (rest.dropWhile isFlag)
  let (precision, rest) ← match rest with
    | '.' :: more => (readCount? more).map fun (n, rest) => (some (n.getD 0), rest)
    | _ => some (none, rest)
  match dropSize rest with
  | letter :: rest =>
      let conversion ← Conversion.ofLetter? letter
      let has (flag : Char) : Bool := flags.contains flag
      return (⟨name, has '-', has '0', has '+', has ' ', has '#', width, precision, conversion⟩,
        rest)
  | [] => none

/-- The parts of a format, unless a percent sign in it starts no field. The first argument bounds
    how many parts there are. -/
def parts? : Nat → List Char → Option (List FormatPart)
  | 0, _ => some []
  | _, [] => some []
  | bound + 1, '%' :: '%' :: rest => do return .text ['%'] :: (← parts? bound rest)
  | bound + 1, '%' :: rest => do
      let (f, rest) ← readField? rest
      return .field f :: (← parts? bound rest)
  | bound + 1, c :: rest => do return .text [c] :: (← parts? bound rest)

end Format

namespace Note

/-- What a field of a note's line stands for. -/
def field? (process : Int) (n : Note) (name : String) : Option FieldValue :=
  let part := Text.afterLast '.' n.topic.name.toList
  match name with
  | "message" | "msg" => some (.text n.text.toList)
  | "name" => some (.text n.topic.name.toList)
  | "levelname" => some (.text n.level.name.toList)
  | "levelno" => some (.number n.level.number)
  | "asctime" => some (.text "1970-01-01 00:00:00,000".toList)
  | "created" | "msecs" => some (.float 0)
  | "module" => some (.text part)
  | "filename" => some (.text (part ++ ".py".toList))
  | "funcName" => some (.text n.occasion.listing.1.toList)
  | "lineno" => some (.number n.occasion.listing.2)
  | "process" => some (.number process)
  | "processName" => some (.text "MainProcess".toList)
  | "threadName" => some (.text "MainThread".toList)
  | "args" => some (.other "()".toList)
  | "exc_info" | "exc_text" | "stack_info" => some (.other "None".toList)
  | _ => none

/-- How the record of a whole note begins. What follows depends on where the program stands. -/
def opening (n : Note) : List Char :=
  "\x7b'name': ".toList ++ Text.Quoted.encode n.topic.name.toList
    ++ ", 'msg': ".toList ++ Text.Quoted.encode n.text.toList
    ++ ", 'args': (), 'levelname': ".toList ++ Text.Quoted.encode n.level.name.toList
    ++ ", 'levelno': ".toList ++ (toString n.level.number).toList
    ++ ", 'pathname': '/".toList

/-- A field without a name can show the beginning of the record. -/
def showOpening? (n : Note) (f : Field) : Option (List Char) :=
  match f.precision with
  | some count => if count ≤ n.opening.length then f.render? (.other n.opening) else none
  | none => none

/-- The texts of the parts of a format. Only the first field may be one without a name. -/
def showParts? (process : Int) (n : Note) (isFirst : Bool) : List FormatPart → Option (List Char)
  | [] => some []
  | .text cs :: more => (n.showParts? process isFirst more).map (cs ++ ·)
  | .field f :: more => do
      let shown ← match f.name with
        | some name => (n.field? process name).bind f.render?
        | none => if isFirst then n.showOpening? f else none
      return shown ++ (← n.showParts? process false more)

/-- The line of a note. A format with a field that does not exist makes no lines. -/
def line? (format : String) (process : Int) (n : Note) : Option String := do
  let parts ← Format.parts? (format.length + 1) format.toList
  return String.ofList (← n.showParts? process true parts)

end Note

end MuxLaunch
