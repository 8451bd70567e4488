import MuxLaunch.Yaml.Tag
import MuxLaunch.Text.Quoted

/-! # Dates and times in YAML

The calendar checks that a written date must pass, and the two texts of a date: as it stands alone
and as it stands inside a collection.
-/

namespace MuxLaunch.Yaml

/-- Why a written date is none. -/
inductive DateFault where
  | year (year : Nat)
  | month
  | day
  | hour
  | minute
  | second
  /-- An offset, in minutes, of a day or more. -/
  | offset (minutes : Int)
  deriving Repr, DecidableEq

structure Date where
  year : Nat
  month : Nat
  day : Nat
  deriving Repr, DecidableEq

/-- A date with a time of day and, if given, an offset from universal time in minutes. -/
structure Moment where
  date : Date
  hour : Nat
  minute : Nat
  second : Nat
  microsecond : Nat
  offset : Option Int
  deriving Repr, DecidableEq

def padded (width n : Nat) : List Char :=
  let digits := (toString n).toList
  List.replicate (width - digits.length) '0' ++ digits

def commaSeparated : List (List Char) → List Char
  | [] => []
  | [part] => part
  | part :: more => part ++ ", ".toList ++ commaSeparated more

namespace Date

def isLeap (year : Nat) : Bool :=
  year % 4 = 0 && (year % 100 ≠ 0 || year % 400 = 0)

def monthLength (year month : Nat) : Nat :=
  match month with
  | 2 => if isLeap year then 29 else 28
  | 4 | 6 | 9 | 11 => 30
  | _ => 31

/-- How many days of the calendar lie before the date. -/
def dayNumber (d : Date) : Nat :=
  let years := d.year - 1
  let months := (List.range d.month).drop 1
  let earlier := months.foldl (fun days month => days + monthLength d.year month) 0
  years * 365 + years / 4 - years / 100 + years / 400 + earlier + (d.day - 1)

/-- A date of the calendar. The first fault found is reported. -/
def check (d : Date) : Except DateFault Date :=
  if d.year = 0 then .error (.year d.year)
  else if d.month = 0 ∨ 12 < d.month then .error .month
  else if d.day = 0 ∨ monthLength d.year d.month < d.day then .error .day
  else .ok d

def text (d : Date) : List Char :=
  padded 4 d.year ++ '-' :: padded 2 d.month ++ '-' :: padded 2 d.day

/-- The numbers of a date, as they are listed inside a collection. -/
def numbers (d : Date) : List Nat :=
  [d.year, d.month, d.day]

def written (d : Date) : List Char :=
  "datetime.date(".toList ++ commaSeparated (d.numbers.map fun n => (toString n).toList) ++ [')']

end Date

/-- A length of time given in minutes, as days and seconds. -/
def writtenDuration (minutes : Int) : List Char :=
  let days := minutes.fdiv 1440
  let seconds := (minutes.fmod 1440) * 60
  let parts :=
    (if days = 0 then [] else [("days=" ++ toString days).toList])
      ++ (if seconds = 0 then [] else [("seconds=" ++ toString seconds).toList])
  "datetime.timedelta(".toList ++ (if parts = [] then ['0'] else commaSeparated parts) ++ [')']

def DateFault.message : DateFault → String
  | .year number => "year " ++ toString number ++ " is out of range"
  | .month => "month must be in 1..12"
  | .day => "day is out of range for month"
  | .hour => "hour must be in 0..23"
  | .minute => "minute must be in 0..59"
  | .second => "second must be in 0..59"
  | .offset minutes =>
      "offset must be a timedelta strictly between -timedelta(hours=24) and "
        ++ "timedelta(hours=24), not " ++ String.ofList (writtenDuration minutes) ++ "."

namespace Moment

/-- A moment whose parts are in range. The first fault found is reported, the date before the
    time. -/
def check (m : Moment) : Except DateFault Moment := do
  let _ ← m.date.check
  if 23 < m.hour then throw .hour
  if 59 < m.minute then throw .minute
  if 59 < m.second then throw .second
  return m

/-- The microseconds since the beginning of the calendar, with the clock set back by an offset. -/
def ticks (m : Moment) (offset : Int) : Int :=
  let minutes : Int := (m.date.dayNumber * 24 + m.hour) * 60 + m.minute
  ((minutes - offset) * 60 + m.second) * 1000000 + m.microsecond

/-- Do two moments fall together? Moments with an offset are compared in universal time; without
    one only the clock counts, and it cannot be compared with universal time. -/
def isSame (m n : Moment) : Bool :=
  match m.offset, n.offset with
  | none, none => m.ticks 0 = n.ticks 0
  | some a, some b => m.ticks a = n.ticks b
  | _, _ => false

/-- An offset as hours and minutes. -/
def offsetText (minutes : Int) : List Char :=
  (if minutes < 0 then '-' else '+') :: padded 2 (minutes.natAbs / 60) ++ ':' ::
    padded 2 (minutes.natAbs % 60)

def text (m : Moment) : List Char :=
  m.date.text ++ ' ' :: padded 2 m.hour ++ ':' :: padded 2 m.minute ++ ':' :: padded 2 m.second
    ++ (if m.microsecond = 0 then [] else '.' :: padded 6 m.microsecond)
    ++ (match m.offset with
      | none => []
      | some minutes => offsetText minutes)

/-- Seconds and microseconds are left out when they and all that follows are zero. -/
def numbers (m : Moment) : List Nat :=
  m.date.numbers ++ [m.hour, m.minute]
    ++ (if m.microsecond ≠ 0 then [m.second, m.microsecond]
      else if m.second ≠ 0 then [m.second] else [])

def written (m : Moment) : List Char :=
  let zone := match m.offset with
    | none => []
    | some 0 => ["tzinfo=datetime.timezone.utc".toList]
    | some minutes => ["tzinfo=datetime.timezone(".toList ++ writtenDuration minutes ++ [')']]
  "datetime.datetime(".toList
    ++ commaSeparated (m.numbers.map (fun n => (toString n).toList) ++ zone) ++ [')']

end Moment

namespace Stamp

def number (digits : List Char) : Nat :=
  digits.foldl (fun n d => n * 10 + (d.toNat - 48)) 0

/-- The microseconds that the digits of a fraction spell; further digits are dropped. -/
def microseconds (fraction : List Char) : Nat :=
  let digits := fraction.take 6
  number digits * Nat.pow 10 (6 - digits.length)

/-- An offset in minutes; it has to be less than a day. -/
def offset (negative : Bool) (hours minutes : List Char) : Except DateFault Int :=
  let size : Int := number hours * 60 + number minutes
  let signed := if negative then -size else size
  if size < 1440 then .ok signed else .error (.offset signed)

/-- The date or moment that is written, if the calendar has it. -/
def resolve (s : Stamp) : Except DateFault (Date ⊕ Moment) := do
  let date : Date := ⟨number s.year, number s.month, number s.day⟩
  match s.time with
  | none => return .inl (← date.check)
  | some (hour, minute, second, fraction) =>
      let offset ← match s.zone with
        | none => pure none
        | some none => pure (some 0)
        | some (some (negative, hours, minutes)) => some <$> offset negative hours minutes
      let m : Moment :=
        ⟨date, number hour, number minute, number second, microseconds fraction, offset⟩
      return .inr (← m.check)

end Stamp

end MuxLaunch.Yaml
