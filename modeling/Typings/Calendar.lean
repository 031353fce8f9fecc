/-
Dates and times of day: which ones exist, how they are written and when two of them are the same moment.
-/
import Typings.Text.Basic

namespace Typings

/-- a day of the Gregorian calendar -/
structure Date where
  year : Nat
  month : Nat
  day : Nat
  deriving DecidableEq, Repr

/-- a day and a time of day, with the seconds by which its clock is ahead of universal time if that is known -/
structure DateTime where
  date : Date
  hour : Nat
  minute : Nat
  second : Nat
  micro : Nat
  offset : Option Int
  deriving DecidableEq, Repr

namespace Calendar

/-- why numbers name no moment -/
inductive Fault
  | year (n : Nat)
  | month
  | day
  | hour
  | minute
  | second
  | offset (seconds : Int)
  deriving DecidableEq, Repr

def isLeap (year : Nat) : Bool := year % 4 == 0 && (year % 100 != 0 || year % 400 == 0)

def daysInMonth (year month : Nat) : Nat :=
  if month = 2 then (if isLeap year then 29 else 28)
  else if month = 4 ∨ month = 6 ∨ month = 9 ∨ month = 11 then 30
  else 31

/-- days before the first of a month, counted from the first day of year 1 -/
def daysBefore (year month : Nat) : Nat :=
  let y := year - 1
  365 * y + y / 4 - y / 100 + y / 400 + (List.range (month - 1)).foldr (fun m n => daysInMonth year (m + 1) + n) 0

/-- seconds of a day -/
def daySeconds : Nat := 86400

/-- a span in whole days, never more than the given seconds, and the seconds left over -/
def spanText (seconds : Int) : Text :=
  let days := seconds / daySeconds
  let rest := seconds % daySeconds
  let dayPart : List Text := if days = 0 then [] else ["days=" ++ Text.ofInt days]
  let restPart : List Text := if rest = 0 then [] else ["seconds=" ++ Text.ofInt rest]
  "datetime.timedelta(" ++ (if seconds = 0 then ("0" : Text) else Text.join ", " (dayPart ++ restPart)) ++ ")"

def Fault.message : Fault → Text
  | .year n => "year " ++ Text.ofNat n ++ " is out of range"
  | .month => "month must be in 1..12"
  | .day => "day is out of range for month"
  | .hour => "hour must be in 0..23"
  | .minute => "minute must be in 0..59"
  | .second => "second must be in 0..59"
  | .offset seconds =>
    "offset must be a timedelta strictly between -timedelta(hours=24) and timedelta(hours=24), not "
      ++ spanText seconds ++ "."

end Calendar

namespace Date

open Calendar

/-- the day with these numbers -/
def make (year month day : Nat) : Except Fault Date :=
  if year < 1 ∨ 9999 < year then .error (.year year)
  else if month < 1 ∨ 12 < month then .error .month
  else if day < 1 ∨ daysInMonth year month < day then .error .day
  else .ok ⟨year, month, day⟩

/-- year, month and day with dashes -/
def render (d : Date) : Text :=
  Text.zeroFill 4 (Text.ofNat d.year) ++ "-" ++ Text.zeroFill 2 (Text.ofNat d.month) ++ "-"
    ++ Text.zeroFill 2 (Text.ofNat d.day)

/-- the numbers of a day as a list -/
def numbers (d : Date) : List Nat := [d.year, d.month, d.day]

def quoted (d : Date) : Text := "datetime.date(" ++ Text.join ", " (d.numbers.map Text.ofNat) ++ ")"

end Date

namespace DateTime

open Calendar

/-- the moment with these numbers; the offset is checked first -/
def make (year month day hour minute second micro : Nat) (offset : Option Int) : Except Fault DateTime := do
  if let some s := offset then
    if s ≤ -(daySeconds : Int) ∨ (daySeconds : Int) ≤ s then throw (.offset s)
  let date ← Date.make year month day
  if 23 < hour then throw .hour
  if 59 < minute then throw .minute
  if 59 < second then throw .second
  return ⟨date, hour, minute, second, micro, offset⟩

/-- an offset as hours and minutes behind its sign -/
def offsetText (s : Int) : Text :=
  [if s < 0 then CodePoint.ofChar '-' else CodePoint.ofChar '+']
    ++ Text.zeroFill 2 (Text.ofNat (s.natAbs / 3600)) ++ ":" ++ Text.zeroFill 2 (Text.ofNat (s.natAbs / 60 % 60))

/-- day and time with a T between them; a fraction has six digits -/
def render (t : DateTime) : Text :=
  t.date.render ++ "T" ++ Text.zeroFill 2 (Text.ofNat t.hour) ++ ":" ++ Text.zeroFill 2 (Text.ofNat t.minute)
    ++ ":" ++ Text.zeroFill 2 (Text.ofNat t.second)
    ++ Text.only (t.micro != 0) ("." ++ Text.zeroFill 6 (Text.ofNat t.micro))
    ++ (match t.offset with
      | none => []
      | some s => offsetText s)

def quoted (t : DateTime) : Text :=
  let late := if t.micro ≠ 0 then [t.second, t.micro] else if t.second ≠ 0 then [t.second] else []
  "datetime.datetime(" ++ Text.join ", " ((t.date.numbers ++ [t.hour, t.minute] ++ late).map Text.ofNat)
    ++ (match t.offset with
      | none => ([] : Text)
      | some s => ", tzinfo=" ++
        if s = 0 then ("datetime.timezone.utc" : Text)
        else "datetime.timezone(" ++ spanText s ++ ")")
    ++ ")"

/-- microseconds since the first day of year 1, on the clock of the offset or on universal time -/
def instant (t : DateTime) : Int :=
  let days := daysBefore t.date.year t.date.month + t.date.day
  let seconds : Int := ((days * 24 + t.hour) * 60 + t.minute) * 60 + t.second
  (seconds - t.offset.getD 0) * 1000000 + t.micro

/-- the same moment; one with an offset is never the same as one without -/
def same (a b : DateTime) : Bool := a.offset.isSome == b.offset.isSome && a.instant == b.instant

end DateTime
end Typings
