/-
Numerals: integers and decimal numbers as people and programs spell them, with white space around them, a sign, and
digits of any script.
-/
import Typings.Json.Reader
import Typings.Text.Blank
import Typings.Text.Digit

namespace Typings.Numeral

/-- why a numeral is none -/
inductive Fault
  | malformed
  /-- more decimal digits than are converted -/
  | digits (count : Nat)
  deriving DecidableEq, Repr

/-- how much of a malformed numeral a message shows -/
def shownLimit : Nat := 200

/-- what is wrong with a text that is no integer in a base -/
def Fault.message (base : Nat) (t : Text) : Fault → Text
  | .malformed => "invalid literal for int() with base " ++ Text.ofNat base ++ ": " ++ t.quoted.take shownLimit
  | .digits count => Json.digitLimitMessage count

/-- whether a numeral is negative, and what stands behind its sign -/
def signed (t : Text) : Bool × Text :=
  match t with
  | c :: r => if c = '-' then (true, r) else if c = '+' then (false, r) else (false, t)
  | [] => (false, [])

/-- the letters that announce a base -/
def baseLetter : Nat → Option CodePoint
  | 2 => some 'b'
  | 8 => some 'o'
  | 16 => some 'x'
  | _ => none

/-- digits without the zero and the letter that announce their base -/
def withoutBase (base : Nat) (t : Text) : Text :=
  match baseLetter base, t with
  | some letter, z :: l :: r => if z = '0' && l.toLower = letter && !r.isEmpty then r else t
  | _, t => t

/-- a digit in a base -/
def isDigit (base : Nat) (c : CodePoint) : Bool := (c.hexValue?.map (decide <| · < base)).getD false

/-- an integer in a base -/
def integer (base : Nat) (t : Text) : Except Fault Int :=
  let (negative, u) := signed t.trim.asciiDigits
  let digits := withoutBase base u
  let count := (digits.takeWhile (isDigit base)).length
  if base = 10 ∧ Json.digitLimit < count then .error (.digits count)
  else if digits.isEmpty then .error .malformed
  else match Text.toNatBase? base digits with
    | some n => .ok (if negative then -(n : Int) else n)
    | none => .error .malformed

/-- digits around a point, at least one of them, and an exponent -/
def decimal? (t : Text) : Option (Nat × Int) := do
  let whole := t.takeWhile CodePoint.isDigit
  let r := t.drop whole.length
  let fraction := if Text.startsWith r "." then (r.drop 1).takeWhile CodePoint.isDigit else []
  let r := if Text.startsWith r "." then r.drop (1 + fraction.length) else r
  if whole.isEmpty && fraction.isEmpty then none
  let digits := Text.toNat (whole ++ fraction)
  match r with
  | [] => return (digits, -(fraction.length : Int))
  | e :: s =>
    let (negative, places) := signed s
    if e.toLower = CodePoint.ofChar 'e' && !places.isEmpty && places.all CodePoint.isDigit then
      let n : Int := Text.toNat places
      return (digits, (if negative then -n else n) - fraction.length)
    else none

/-- a binary64 number: a decimal, or one of the words for infinity and for no number -/
def binary64? (t : Text) : Option Binary64 :=
  let (negative, u) := signed t.trim.asciiDigits
  let word := Text.toLower u
  if word = ("inf" : Text) ∨ word = ("infinity" : Text) then some (.infinite negative)
  else if word = ("nan" : Text) then some .nan
  else (decimal? u).map fun (digits, exponent) => Binary64.ofDecimal negative digits exponent

end Typings.Numeral
