/-
The shortest decimal that reads back as a given binary64 number.

The numbers that round to a finite number form an interval around it. Of the decimals with n digits only the two
next to the number can lie in it; the least n with a hit wins, and of two hits the nearer one.
-/
import Typings.Number.Binary64

namespace Typings.Binary64

/-- decimal digits without trailing zeros, and how many of them stand before the point -/
structure Decimal where
  digits : List Nat
  point : Int
  deriving DecidableEq, Repr

/-- how many steps of ten bring a number below one up to at least one tenth of the next power -/
def leadingZeros (units : Nat) : Nat → Nat
  | 0 => 0
  | fuel + 1 => if one ≤ units then 0 else leadingZeros (units * 10) fuel + 1

/-- the power of ten just above a positive number -/
def magnitude (units : Nat) : Int :=
  if one ≤ units then (Nat.toDigits 10 (units / one)).length else 1 - (leadingZeros units 400 : Nat)

/-- a decimal with `count` digits that rounds to the number, if there is one -/
def decimalWith? (units : Nat) (count : Nat) : Option (Nat × Int) :=
  let exponent := magnitude units - count
  let scale := if exponent < 0 then Nat.pow 10 exponent.natAbs else 1
  let step := if exponent < 0 then 2 * one else 2 * one * Nat.pow 10 exponent.natAbs
  let gap := Nat.pow 2 (excess units)
  let below := if excess units > 0 ∧ units = Nat.pow 2 units.log2 then gap / 2 else gap
  let isEven := units / gap % 2 = 0
  let centre := 2 * units * scale
  let low := (2 * units - below) * scale
  let high := (2 * units + gap) * scale
  let hit (n : Nat) : Bool :=
    let x := n * step
    if isEven then low ≤ x && x ≤ high else low < x && x < high
  let floor := centre / step
  let ceil := floor + 1
  let floorIsNearer :=
    let d := centre - floor * step
    let e := ceil * step - centre
    d < e || (d == e && floor % 2 == 0)
  if hit floor && (floorIsNearer || !hit ceil) then some (floor, exponent)
  else if hit ceil then some (ceil, exponent)
  else none

/-- the shortest decimal of a positive number of units -/
def shortest (units : Nat) : Decimal :=
  match (List.range 17).findSome? fun n => decimalWith? units (n + 1) with
  | none => ⟨[], 0⟩
  | some (n, exponent) =>
    let digits := (Nat.toDigits 10 n).map fun c => c.toNat - 0x30
    ⟨(digits.reverse.dropWhile (· == 0)).reverse, digits.length + exponent⟩

/-- the decisions of a way to write numbers -/
structure Style where
  nan : Text
  infinity : Text
  /-- point positions, both ends included, that are written without an exponent -/
  positional : Int × Int := (-3, 16)

/-- digits as text -/
def digitsText (digits : List Nat) : Text := digits.flatMap Text.ofNat

/-- an exponent with its sign and at least two digits -/
def exponentText (e : Int) : Text :=
  "e" ++ [if e < 0 then CodePoint.ofChar '-' else CodePoint.ofChar '+'] ++ Text.zeroFill 2 (Text.ofNat e.natAbs)

/-- a decimal written without an exponent; at least one digit stands on each side of the point -/
def Decimal.plain (d : Decimal) : Text :=
  if d.point ≤ 0 then
    "0." ++ List.replicate d.point.natAbs (CodePoint.ofChar '0') ++ digitsText d.digits
  else
    let before := d.digits.take d.point.toNat
    let after := d.digits.drop d.point.toNat
    digitsText before ++ List.replicate (d.point.toNat - before.length) (CodePoint.ofChar '0') ++ "."
      ++ digitsText (if after.isEmpty then [0] else after)

/-- a decimal written with an exponent: one digit before the point, no point after a lone digit -/
def Decimal.scientific (d : Decimal) : Text :=
  digitsText (d.digits.take 1)
    ++ Text.only (1 < d.digits.length) ("." ++ digitsText (d.digits.drop 1))
    ++ exponentText (d.point - 1)

/-- the shortest text that reads back as the number -/
def render (style : Style) : Binary64 → Text
  | .nan => style.nan
  | .infinite s => Text.only s "-" ++ style.infinity
  | .finite s u =>
    Text.only s "-" ++
      if u = 0 then ("0.0" : Text)
      else
        let d := shortest u
        if style.positional.1 ≤ d.point ∧ d.point ≤ style.positional.2 then d.plain else d.scientific

/-- numbers in messages: `nan` and `inf` in small letters -/
def plainStyle : Style := { nan := "nan", infinity := "inf" }

/-- numbers in written JSON -/
def jsonStyle : Style := { nan := "NaN", infinity := "Infinity" }

end Typings.Binary64
