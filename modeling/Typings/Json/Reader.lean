/-
Reading JSON texts.

Each piece of the grammar is a function from the text that is left to what it holds and what is left then. A
failure keeps how much was left where it arose; line, column and offset are counted from that at the end.
Beyond the standard grammar the words NaN, Infinity and -Infinity are numbers, and a surrogate may stand alone.
-/
import Typings.Value

namespace Typings.Json

/-- why a text is no JSON -/
inductive Fault
  | byteOrderMark
  | value
  | propertyName
  | colon
  | comma
  | unterminated
  | control
  | escape
  | hexEscape
  | extra
  deriving DecidableEq, Repr

def Fault.message : Fault → Text
  | .byteOrderMark => "Unexpected UTF-8 BOM (decode using utf-8-sig)"
  | .value => "Expecting value"
  | .propertyName => "Expecting property name enclosed in double quotes"
  | .colon => "Expecting ':' delimiter"
  | .comma => "Expecting ',' delimiter"
  | .unterminated => "Unterminated string starting at"
  | .control => "Invalid control character at"
  | .escape => "Invalid \\escape"
  | .hexEscape => "Invalid \\uXXXX escape"
  | .extra => "Extra data"

/-- a fault and where it arose; lines and columns count from one, the offset from zero -/
structure Error where
  fault : Fault
  line : Nat
  column : Nat
  offset : Nat
  deriving DecidableEq, Repr

def Error.message (e : Error) : Text :=
  e.fault.message ++ ": line " ++ Text.ofNat e.line ++ " column " ++ Text.ofNat e.column
    ++ " (char " ++ Text.ofNat e.offset ++ ")"

/-- the error at an offset of a text -/
def Error.locate (fault : Fault) (t : Text) (offset : Nat) : Error :=
  let before := t.take offset
  ⟨fault, before.count 10 + 1, (before.reverse.takeWhile fun c => c.val != 10).length + 1, offset⟩

/-- why reading ends early -/
inductive Stop
  /-- no JSON; this many code points were left -/
  | fault (fault : Fault) (left : Nat)
  /-- an integer with more digits than are converted -/
  | digits (count : Nat)
  deriving DecidableEq, Repr

/-- a failure to read a whole text -/
inductive Failure
  | malformed (e : Error)
  | digits (count : Nat)
  deriving DecidableEq, Repr

/-- the greatest number of decimal digits that are converted to an integer -/
def digitLimit : Nat := 4300

/-- whether an integer has more decimal digits than are converted to text -/
def isLong (n : Int) : Bool := Nat.pow 10 digitLimit ≤ n.natAbs

/-- what is said of a text with more digits -/
def digitLimitMessage (count : Nat) : Text :=
  "Exceeds the limit (" ++ Text.ofNat digitLimit ++ " digits) for integer string conversion: value has "
    ++ Text.ofNat count ++ " digits; use sys.set_int_max_str_digits() to increase the limit"

def Failure.message : Failure → Text
  | .malformed e => e.message
  | .digits count => digitLimitMessage count

/-- white space between the pieces -/
def isSpace (c : CodePoint) : Bool := c.val == 32 || c.val == 9 || c.val == 10 || c.val == 13

def skipSpace (t : Text) : Text := t.dropWhile isSpace

/-- a fault where `t` is left -/
def stopAt {α : Type} (fault : Fault) (t : Text) : Except Stop α := .error (.fault fault t.length)

/-! ## Strings -/

/-- the number of four hexadecimal digits -/
def hex4? (t : Text) : Option Nat :=
  if t.length < 4 then none else Text.toNatBase? 16 (t.take 4)

/-- the code point of an escape letter -/
def escapeLetter? (c : CodePoint) : Option CodePoint :=
  if c = '"' ∨ c = '\\' ∨ c = '/' then some c
  else if c = 'b' then some 8
  else if c = 'f' then some 12
  else if c = 'n' then some 10
  else if c = 'r' then some 13
  else if c = 't' then some 9
  else none

/-- a pair of surrogates as one code point -/
def joinSurrogates (high low : Nat) : CodePoint :=
  CodePoint.ofNat (0x10000 + (high - 0xD800) * 0x400 + (low - 0xDC00))

/-- the code point of four digits behind `\u` and how many code points they take, a second escape that makes
the pair complete included; `fromLetter` is what is left from the letter u on -/
def hexEscape (fromLetter : Text) : Except Stop (CodePoint × Nat) :=
  let t := fromLetter.drop 1
  if t.length ≤ 4 then stopAt .hexEscape fromLetter
  else match hex4? t with
    | none => stopAt .hexEscape fromLetter
    | some high =>
      let r := t.drop 4
      if 0xD800 ≤ high ∧ high ≤ 0xDBFF ∧ 6 < r.length ∧ Text.startsWith r "\\u" then
        match hex4? (r.drop 2) with
        | none => stopAt .hexEscape (r.drop 1)
        | some low =>
          if 0xDC00 ≤ low ∧ low ≤ 0xDFFF then .ok (joinSurrogates high low, 10)
          else .ok (CodePoint.ofNat high, 4)
      else .ok (CodePoint.ofNat high, 4)

/-- a string after its opening quote; `opening` was left at that quote and `fuel` bounds the number of steps -/
def readString (opening : Text) : Nat → Text → Except Stop (Text × Text)
  | _, [] => stopAt .unterminated opening
  | 0, _ => stopAt .unterminated opening
  | fuel + 1, c :: r =>
    if c = '"' then .ok ([], r)
    else if c = '\\' then
      match r with
      | [] => stopAt .unterminated opening
      | e :: s =>
        if e = 'u' then do
          let (d, used) ← hexEscape (e :: s)
          let (t, rest) ← readString opening fuel (s.drop used)
          .ok (d :: t, rest)
        else match escapeLetter? e with
          | none => stopAt .escape (c :: r)
          | some d => do
            let (t, rest) ← readString opening fuel s
            .ok (d :: t, rest)
    else if c.val ≤ 0x1F then stopAt .control (c :: r)
    else do
      let (t, rest) ← readString opening fuel r
      .ok (c :: t, rest)

/-! ## Numbers -/

/-- the fraction that follows, without its point -/
def fractionPart (t : Text) : Option (Text × Text) :=
  match t with
  | c :: r =>
    let digits := r.takeWhile CodePoint.isDigit
    if c = '.' ∧ digits ≠ [] then some (digits, r.drop digits.length) else none
  | [] => none

/-- the exponent that follows -/
def exponentPart (t : Text) : Option (Int × Text) :=
  match t with
  | c :: r =>
    if c = 'e' ∨ c = 'E' then
      let negative := Text.startsWith r "-"
      let s := if negative || Text.startsWith r "+" then r.drop 1 else r
      let digits := s.takeWhile CodePoint.isDigit
      if digits = [] then none
      else some (if negative then -(Text.toNat digits : Int) else Text.toNat digits, s.drop digits.length)
    else none
  | [] => none

/-- an integer, unless it has too many digits -/
def integerOf (negative : Bool) (digits : Text) : Except Stop Value :=
  if digitLimit < digits.length then .error (.digits digits.length)
  else .ok (.int (if negative then -(Text.toNat digits : Int) else Text.toNat digits))

/-- a number: sign, integer part without leading zeros, fraction, exponent -/
def readNumber (t : Text) : Except Stop (Value × Text) := do
  let negative := t.startsWith "-"
  let s := if negative then t.drop 1 else t
  let digits := s.takeWhile CodePoint.isDigit
  let whole := if Text.startsWith digits "0" then digits.take 1 else digits
  if whole = [] then stopAt .value t
  let r := s.drop whole.length
  match fractionPart r, exponentPart r with
  | none, none => return (← integerOf negative whole, r)
  | none, some (e, r) => return (.float (Binary64.ofDecimal negative (Text.toNat whole) e), r)
  | some (fraction, r), _ =>
    let (e, r) := (exponentPart r).getD (0, r)
    let x := Binary64.ofDecimal negative (Text.toNat (whole ++ fraction)) (e - fraction.length)
    return (.float x, r)

/-! ## Values -/

/-- the words that are values -/
def words : List (Text × Value) :=
  [("null", .null), ("true", .bool true), ("false", .bool false), ("NaN", .float .nan),
    ("Infinity", .float (.infinite false)), ("-Infinity", .float (.infinite true))]

/-- the word that a text starts with -/
def readWord? (t : Text) : Option (Value × Text) :=
  (words.find? fun w => t.startsWith w.1).map fun w => (w.2, t.drop w.1.length)

mutual

/-- one value; `fuel` bounds the number of steps -/
def readValue : Nat → Text → Except Stop (Value × Text)
  | 0, t => stopAt .value t
  | _, [] => stopAt .value []
  | fuel + 1, c :: r =>
    if c = '"' then do
      let (t, rest) ← readString (c :: r) fuel r
      .ok (.text t, rest)
    else if c = '[' then
      let s := skipSpace r
      if s.startsWith "]" then .ok (.list [], s.drop 1)
      else do
        let (items, rest) ← readItems fuel s
        .ok (.list items, rest)
    else if c = '{' then
      let s := skipSpace r
      if s.startsWith "\x7d" then .ok (.map [], s.drop 1)
      else do
        let (entries, rest) ← readEntries fuel s
        .ok (.map (Value.ofEntries entries), rest)
    else match readWord? (c :: r) with
      | some found => .ok found
      | none => readNumber (c :: r)

/-- the items of a list up to its closing bracket -/
def readItems : Nat → Text → Except Stop (List Value × Text)
  | 0, t => stopAt .value t
  | fuel + 1, t => do
    let (v, r) ← readValue fuel t
    let r := skipSpace r
    if r.startsWith "]" then .ok ([v], r.drop 1)
    else if r.startsWith "," then do
      let (vs, rest) ← readItems fuel (skipSpace (r.drop 1))
      .ok (v :: vs, rest)
    else stopAt .comma r

/-- the entries of a mapping up to its closing brace -/
def readEntries : Nat → Text → Except Stop (List (Value × Value) × Text)
  | 0, t => stopAt .propertyName t
  | fuel + 1, t => do
    if !t.startsWith "\"" then stopAt .propertyName t
    let (key, r) ← readString t fuel (t.drop 1)
    let r := skipSpace r
    if !r.startsWith ":" then stopAt .colon r
    let (v, r) ← readValue fuel (skipSpace (r.drop 1))
    let r := skipSpace r
    if r.startsWith "\x7d" then .ok ([(.text key, v)], r.drop 1)
    else if r.startsWith "," then do
      let (es, rest) ← readEntries fuel (skipSpace (r.drop 1))
      .ok ((.text key, v) :: es, rest)
    else stopAt .comma r

end

/-- a whole text: one value with white space around it -/
def readText (t : Text) : Except Stop Value := do
  let (v, r) ← readValue (2 * t.length + 2) (skipSpace t)
  let r := skipSpace r
  if !r.isEmpty then stopAt .extra r
  return v

/-- the value of a JSON text -/
def read (t : Text) : Except Failure Value :=
  if t.startsWith [0xFEFF] then .error (.malformed (Error.locate .byteOrderMark t 0))
  else match readText t with
    | .ok v => .ok v
    | .error (.fault fault left) => .error (.malformed (Error.locate fault t (t.length - left)))
    | .error (.digits count) => .error (.digits count)

end Typings.Json
