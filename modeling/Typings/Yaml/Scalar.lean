/-
Scalars: the value of a scalar node by its tag.

A spelling that a tag does not allow is a fault beyond the grammar of the text, except in base-64 data, whose faults
are problems with a place.
-/
import Typings.Text.Case
import Typings.Text.Numeral
import Typings.Yaml.Tag

namespace Typings.Yaml.Scalar

/-- why a text has no value by a tag -/
inductive Fault
  /-- nothing where a number begins -/
  | empty
  /-- no integer in a base -/
  | integer (base : Nat) (t : Text) (fault : Numeral.Fault)
  /-- no decimal number -/
  | decimal (t : Text)
  /-- a part to the base sixty whose weight is beyond all binary64 numbers -/
  | weight
  /-- no word of truth -/
  | truth (word : Text)
  /-- not spelled as a day or a moment -/
  | moment
  /-- a day or a moment that is not on the calendar -/
  | calendar (fault : Calendar.Fault)
  deriving DecidableEq, Repr

def Fault.crash : Fault → Crash
  | .empty => .index "string index out of range"
  | .integer base t fault => .value (fault.message base t)
  | .decimal t => .value ("could not convert string to float: " ++ t.quoted)
  | .weight => .overflow "int too large to convert to float"
  | .truth word => .key word
  | .moment => .attribute "'NoneType' object has no attribute 'groupdict'"
  | .calendar fault => .value fault.message

/-- the first code point of a text that must have one -/
def firstOf (t : Text) : Except Fault CodePoint :=
  match t with
  | c :: _ => .ok c
  | [] => .error .empty

/-- whether a number is negative, and its text without a sign -/
def signOf (t : Text) : Except Fault (Bool × Text) := do
  let c ← firstOf t
  return (c = '-', Spelling.unsigned t)

/-! ## Numbers -/

/-- an integer in a base -/
def integer (base : Nat) (t : Text) : Except Fault Int := (Numeral.integer base t).mapError (Fault.integer base t)

/-- a binary64 number -/
def number (t : Text) : Except Fault Binary64 :=
  match Numeral.binary64? t with
  | some x => .ok x
  | none => .error (.decimal t)

/-- a spelling without underscores -/
def withoutUnderscores (t : Text) : Text := t.filter (· != CodePoint.ofChar '_')

/-- the numerals of an integer, each with its base: one that is binary, hexadecimal, octal or decimal, or those to the
base sixty between colons -/
def numerals (u : Text) : List (Nat × Text) :=
  if Text.startsWith u "0b" then [(2, u.drop 2)]
  else if Text.startsWith u "0x" then [(16, u.drop 2)]
  else if Text.startsWith u "0" then [(8, u)]
  else (Text.splitAt ':' u).map fun part => (10, part)

/-- an integer -/
def int (t : Text) : Except Fault Int := do
  let (negative, u) ← signOf (withoutUnderscores t)
  let _ ← firstOf u
  let parts ← (numerals u).mapM fun (base, part) => integer base part
  let n := parts.foldl (fun n d => 60 * n + d) 0
  return if negative then -n else n

/-- a weight that is not too great to be a number -/
def bounded : Binary64 → Except Fault Binary64
  | .infinite _ => .error .weight
  | x => .ok x

/-- a power of sixty as a factor -/
def weight (base : Nat) : Except Fault Binary64 := bounded (Binary64.ofInt base)

/-- the number of parts to the base sixty, the last part first, the first of them of a weight -/
def sixtieths (sum : Binary64) (base : Nat) : List Binary64 → Except Fault Binary64
  | [] => .ok sum
  | d :: ds => do sixtieths (sum.add (d.mul (← weight base))) (base * 60) ds

/-- a spelling of a binary64 number without underscores and capitals: its sign, and the text behind it -/
def floatSpelling (t : Text) : Except Fault (Bool × Text) := signOf (Text.lower (withoutUnderscores t))

/-- the word for the result that is no number -/
def nanWord : Text := ".nan"

/-- whether a text spells no number by the word for it -/
def isNanWord (t : Text) : Bool :=
  match floatSpelling t with
  | .ok (_, u) => u == nanWord
  | .error _ => false

/-- the word for the infinite numbers -/
def infinityWord : Text := ".inf"

/-- a binary64 number without a sign: infinite, no number, to the base sixty or a decimal -/
def magnitude (u : Text) : Except Fault Binary64 :=
  if u = infinityWord then .ok (.infinite false)
  else if u = nanWord then .ok .nan
  else if u.contains (CodePoint.ofChar ':') then do
    let parts ← (Text.splitAt ':' u).mapM number
    sixtieths (.finite false 0) 1 parts.reverse
  else number u

/-- a binary64 number -/
def float (t : Text) : Except Fault Binary64 := do
  let (negative, u) ← floatSpelling t
  let x ← magnitude u
  return if negative then x.neg else x

/-! ## Words and moments -/

/-- what the words of truth stand for -/
def truths : List (Text × Bool) :=
  [("yes", true), ("no", false), ("true", true), ("false", false), ("on", true), ("off", false)]

def bool (t : Text) : Except Fault Bool :=
  let word := Text.lower t
  match truths.lookup word with
  | some b => .ok b
  | none => .error (.truth word)

/-- a fraction of a second in microseconds; digits beyond the sixth do not count -/
def microseconds (fraction : Text) : Nat :=
  let six := fraction.take 6
  Text.toNat six * Nat.pow 10 (6 - six.length)

/-- the seconds of a zone -/
def zoneOffset : Option (CodePoint × Text × Text) → Int
  | none => 0
  | some (sign, hours, minutes) =>
    let seconds : Int := (Text.toNat hours * 60 + Text.toNat minutes) * 60
    if sign = '-' then -seconds else seconds

/-- the value of a moment as it is spelled -/
def onCalendar (m : Spelling.Moment) : Except Calendar.Fault Value :=
  let (year, month, day) := (Text.toNat m.year, Text.toNat m.month, Text.toNat m.day)
  match m.time with
  | none => .date <$> Date.make year month day
  | some (hour, minute, second, fraction) =>
    .datetime <$> DateTime.make year month day (Text.toNat hour) (Text.toNat minute) (Text.toNat second)
      (microseconds fraction) (m.zone.map zoneOffset)

/-- a day or a moment -/
def timestamp (t : Text) : Except Fault Value :=
  match (Spelling.moment? t).or (Spelling.moment? (Spelling.withoutLineFeed t)) with
  | none => .error .moment
  | some m => (onCalendar m).mapError .calendar

/-! ## By tag -/

/-- the tags of scalars that are no octets -/
def tags : List Text := [Tag.null, Tag.bool, Tag.int, Tag.float, Tag.timestamp, Tag.str]

/-- the value of a text by one of these tags -/
def spelled (tag t : Text) : Except Fault Value :=
  if tag = Tag.null then .ok .null
  else if tag = Tag.bool then .bool <$> bool t
  else if tag = Tag.int then .int <$> int t
  else if tag = Tag.float then .float <$> float t
  else if tag = Tag.timestamp then timestamp t
  else .ok (.text t)

/-- why a node has no value by its tag -/
inductive Refusal
  /-- its text is no spelling of one -/
  | spelling (tag t : Text) (fault : Fault) (h : spelled tag t = .error fault)
  /-- it has the tag of a moment, and its text stands in a mapping -/
  | mapping
  deriving DecidableEq, Repr

def Refusal.crash : Refusal → Crash
  | .spelling _ _ fault _ => fault.crash
  | .mapping => .operand "expected string or bytes-like object, got 'list'"

/-! ## Octets -/

/-- the six bits of a base-64 digit -/
def sixBits? (c : CodePoint) : Option Nat :=
  if 0x41 ≤ c.val ∧ c.val ≤ 0x5A then some (c.val - 0x41)
  else if 0x61 ≤ c.val ∧ c.val ≤ 0x7A then some (c.val - 0x61 + 26)
  else if c.isDigit then some (c.val - 0x30 + 52)
  else if c = '+' then some 62
  else if c = '/' then some 63
  else none

/-- the digits of base-64 data up to the padding that completes a group of four; other code points do not count.
The result tells how many digits the last group has, or that padding completed it -/
def base64Digits (digits pads : Nat) : Text → List Nat × Option Nat
  | [] => ([], some (digits % 4))
  | c :: r =>
    if c = '=' then
      if 2 ≤ digits % 4 then
        if 4 ≤ digits % 4 + pads + 1 then ([], none) else base64Digits digits (pads + 1) r
      else base64Digits digits pads r
    else match sixBits? c with
      | none => base64Digits digits pads r
      | some d =>
        let (ds, left) := base64Digits (digits + 1) 0 r
        (d :: ds, left)

/-- the octets of groups of four digits; a group that is not complete gives one octet fewer than it has digits -/
def octetsOf : List Nat → Bytes
  | a :: b :: c :: d :: r =>
    (a * 4 + b / 16).toUInt8 :: (b % 16 * 16 + c / 4).toUInt8 :: (c % 4 * 64 + d).toUInt8 :: octetsOf r
  | [a, b, c] => [(a * 4 + b / 16).toUInt8, (b % 16 * 16 + c / 4).toUInt8]
  | [a, b] => [(a * 4 + b / 16).toUInt8]
  | _ => []

/-- what is said of the first code points that are not ASCII -/
def notAscii (t : Text) : Option Text :=
  let before := (t.takeWhile fun c => c.val < 128).length
  let run := (t.drop before).takeWhile fun c => 128 ≤ c.val
  let wording (what : Text) : Text := "'ascii' codec can't encode character" ++ what ++ ": ordinal not in range(128)"
  match run with
  | [] => none
  | [c] => some (wording (" '" ++ Utf8.escaped c ++ "' in position " ++ Text.ofNat before))
  | _ => some (wording ("s in position " ++ Text.ofNat before ++ "-" ++ Text.ofNat (before + run.length - 1)))

/-- the octets of base-64 data, or what is wrong with it -/
def binary (t : Text) : Except Text Bytes :=
  match notAscii t with
  | some wrong => .error ("failed to convert base64 data into ascii: " ++ wrong)
  | none =>
    let (digits, left) := base64Digits 0 0 t
    match left with
    | some 1 =>
      .error ("failed to decode base64 data: Invalid base64-encoded string: number of data characters ("
        ++ Text.ofNat digits.length ++ ") cannot be 1 more than a multiple of 4")
    | some 2 => .error "failed to decode base64 data: Incorrect padding"
    | some 3 => .error "failed to decode base64 data: Incorrect padding"
    | _ => .ok (octetsOf digits)

end Typings.Yaml.Scalar
