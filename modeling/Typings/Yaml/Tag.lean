/-
Tags: the kinds that nodes have, and the kind that a plain scalar has by its spelling.

The spellings are regular patterns; each is a small function on texts here. A pattern may leave one line feed at the
end of the text unread.
-/
import Typings.Yaml.Cursor

namespace Typings.Yaml

namespace Tag

/-- a tag of the core set -/
def core (name : Text) : Text := "tag:yaml.org,2002:" ++ name

def null : Text := core "null"
def bool : Text := core "bool"
def int : Text := core "int"
def float : Text := core "float"
def binary : Text := core "binary"
def timestamp : Text := core "timestamp"
def orderedMap : Text := core "omap"
def pairs : Text := core "pairs"
def set : Text := core "set"
def str : Text := core "str"
def seq : Text := core "seq"
def map : Text := core "map"
def merge : Text := core "merge"
def value : Text := core "value"
def yaml : Text := core "yaml"

/-- the tag that leaves a node's kind to its spelling -/
def unspecific : Text := "!"

end Tag

namespace Spelling

/-! ## Pieces of patterns: what is left behind a piece -/

def isDigitOr (set : Text) (c : CodePoint) : Bool := c.isDigit || isOneOf set c

/-- without a sign in front -/
def unsigned (t : Text) : Text :=
  match t with
  | c :: r => if c = '+' ∨ c = '-' then r else t
  | [] => []

/-- whether a text is not empty and holds only certain code points -/
def isRun (p : CodePoint → Bool) (t : Text) : Bool := !t.isEmpty && t.all p

/-- a digit that is not zero and digits with underscores behind it -/
def isCount (t : Text) : Bool :=
  match t with
  | c :: r => c.isDigit && c != '0' && r.all (isDigitOr "_")
  | [] => false

/-- one or two digits, the first of two at most five -/
def isSixtieth (t : Text) : Bool :=
  match t with
  | [a] => a.isDigit
  | [a, b] => a.isDigit && a.val ≤ 0x35 && b.isDigit
  | _ => false

/-! ## Patterns -/

def nulls : List Text := ["~", "null", "Null", "NULL", ""]

def bools : List Text :=
  ["yes", "Yes", "YES", "no", "No", "NO", "true", "True", "TRUE", "false", "False", "FALSE", "on", "On", "ON",
    "off", "Off", "OFF"]

/-- a sign, then binary, octal, decimal or hexadecimal digits, or numbers to the base sixty between colons -/
def isInt (t : Text) : Bool :=
  let u := unsigned t
  match Text.splitAt ':' u with
  | [_] =>
    u == "0" || isCount u
      || (Text.startsWith u "0b" && isRun (isOneOf "01_") (u.drop 2))
      || (Text.startsWith u "0x" && isRun (fun c => c.hexValue?.isSome || c = '_') (u.drop 2))
      || (Text.startsWith u "0" && isRun (isOneOf "01234567_") (u.drop 1))
  | first :: rest => isCount first && rest.all isSixtieth
  | [] => false

/-- an exponent with its sign, or nothing -/
def isExponent (t : Text) : Bool :=
  match t with
  | [] => true
  | e :: s :: digits => (e = 'e' || e = 'E') && (s = '+' || s = '-') && isRun CodePoint.isDigit digits
  | _ => false

/-- digits around a point with an exponent behind them -/
def isDecimal (t : Text) : Bool :=
  let whole := t.takeWhile (isDigitOr "_")
  match t.drop whole.length with
  | c :: r =>
    let fraction := r.takeWhile (isDigitOr "_")
    c = '.' && (whole.head?.map CodePoint.isDigit).getD false && isExponent (r.drop fraction.length)
  | [] => false

/-- a point with digits behind it -/
def isFraction (t : Text) : Bool :=
  match t with
  | p :: d :: r =>
    p = '.' && d.isDigit && isExponent (r.dropWhile (isDigitOr "_"))
  | _ => false

/-- numbers to the base sixty, the last one with a point -/
def isSexagesimal (t : Text) : Bool :=
  match t.splitLast '.' with
  | some (whole, fraction) =>
    fraction.all (isDigitOr "_") &&
      match Text.splitAt ':' whole with
      | [_] => false
      | first :: rest =>
        (first.head?.map CodePoint.isDigit).getD false && first.all (isDigitOr "_") && rest.all isSixtieth
      | [] => false
  | none => false

def infinities : List Text := [".inf", ".Inf", ".INF"]
def nans : List Text := [".nan", ".NaN", ".NAN"]

def isFloat (t : Text) : Bool :=
  let u := unsigned t
  isDecimal u || isFraction t || isSexagesimal u || infinities.contains u || nans.contains t

/-- a number of digits between two bounds, and what is left -/
def digits? (least most : Nat) (t : Text) : Option (Text × Text) :=
  let run := (t.takeWhile CodePoint.isDigit).take most
  if run.length < least then none else some (run, t.drop run.length)

/-- what is left behind a code point -/
def after? (c : CodePoint) (t : Text) : Option Text :=
  match t with
  | d :: r => if d = c then some r else none
  | [] => none

/-- the parts of a moment as it is spelled -/
structure Moment where
  year : Text
  month : Text
  day : Text
  /-- hour, minute, second, fraction -/
  time : Option (Text × Text × Text × Text)
  /-- nothing, universal time, or a sign with hours and minutes -/
  zone : Option (Option (CodePoint × Text × Text))
  deriving Repr

/-- the zone at the end of a moment -/
def zone? (t : Text) : Option (Option (Option (CodePoint × Text × Text))) :=
  let u := t.dropWhile isSpaceOrTab
  match u with
  | [] => if t.isEmpty then some none else none
  | c :: r =>
    if c = 'Z' then (if r.isEmpty then some (some none) else none)
    else if c = '+' ∨ c = '-' then do
      let (hours, r) ← digits? 1 2 r
      if r.isEmpty then return some (some (c, hours, []))
      let (minutes, r) ← digits? 2 2 (← after? ':' r)
      if r.isEmpty then return some (some (c, hours, minutes)) else none
    else none

/-- the time of day of a moment, behind its day -/
def time? (t : Text) : Option ((Text × Text × Text × Text) × Text) := do
  let r ← match t with
    | c :: r =>
      if c = 'T' ∨ c = 't' then some r
      else if isSpaceOrTab c then some (r.dropWhile isSpaceOrTab)
      else none
    | [] => none
  let (hour, r) ← digits? 1 2 r
  let (minute, r) ← digits? 2 2 (← after? ':' r)
  let (second, r) ← digits? 2 2 (← after? ':' r)
  let fraction := match after? '.' r with
    | some s => s.takeWhile CodePoint.isDigit
    | none => []
  let r := match after? '.' r with
    | some s => s.drop fraction.length
    | none => r
  return ((hour, minute, second, fraction), r)

/-- a day, alone or with a time of day and a zone -/
def moment? (t : Text) : Option Moment := do
  let (year, r) ← digits? 4 4 t
  let (month, r) ← digits? 1 2 (← after? '-' r)
  let (day, r) ← digits? 1 2 (← after? '-' r)
  if r.isEmpty then return ⟨year, month, day, none, none⟩
  let (time, r) ← time? r
  return ⟨year, month, day, some time, ← zone? r⟩

/-- a moment whose day has two digits for month and day if it stands alone -/
def isTimestamp (t : Text) : Bool :=
  match moment? t with
  | none => false
  | some m => m.time.isSome || (m.month.length == 2 && m.day.length == 2)

/-- a text without a line feed at its end -/
def withoutLineFeed (t : Text) : Text := if t.getLast? = some 10 then t.dropLast else t

/-- patterns, each with the code points that may begin a text of it -/
def patterns : List (Text × Text × (Text → Bool)) :=
  [("yYnNtTfFoO", Tag.bool, bools.contains),
    ("-+0123456789.", Tag.float, isFloat),
    ("-+0123456789", Tag.int, isInt),
    ("<", Tag.merge, (· == "<<")),
    ("~nN", Tag.null, nulls.contains),
    ("0123456789", Tag.timestamp, isTimestamp),
    ("=", Tag.value, (· == "=")),
    ("!&*", Tag.yaml, (["!", "&", "*"] : List Text).contains)]

/-- the tag that a text has by its spelling -/
def tagOf (t : Text) : Text :=
  match t with
  | [] => Tag.null
  | c :: _ =>
    match patterns.find? fun (first, _, fits) => isOneOf first c && (fits t || fits (withoutLineFeed t)) with
    | some (_, tag, _) => tag
    | none => Tag.str

end Spelling
end Typings.Yaml
