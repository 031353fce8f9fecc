/-
Binary64 numbers, exactly.

A finite number is a sign and a count of the smallest positive number 2^-1074, so sums, products and comparisons
are computed on natural numbers and rounded once, to the nearest number with 53 binary digits, a half to the even
neighbour.
-/
import Typings.Text.Basic

namespace Typings

/-- a binary64 number; `finite negative units` is ± units · 2^-1074 -/
inductive Binary64
  | nan
  | infinite (negative : Bool)
  | finite (negative : Bool) (units : Nat)
  deriving DecidableEq, Repr

namespace Binary64

/-- units in the number one -/
def one : Nat := Nat.pow 2 1074

/-- one more than the greatest finite number of units -/
def limit : Nat := Nat.pow 2 2098

/-- the quotient rounded to the nearest natural number, a half to the even one -/
def roundQuotient (num den : Nat) : Nat :=
  let q := num / den
  let twice := 2 * (num % den)
  if twice < den then q else if den < twice then q + 1 else if q % 2 = 0 then q else q + 1

/-- how many binary digits a number of units has beyond the 53 that are kept -/
def excess (units : Nat) : Nat := if units = 0 then 0 else units.log2 + 1 - 53

/-- the number nearest to ± num / den units -/
def ofUnits (negative : Bool) (num den : Nat) : Binary64 :=
  let gap := Nat.pow 2 (excess (num / den))
  let units := roundQuotient num (den * gap) * gap
  if units < limit then .finite negative units else .infinite negative

/-- the number nearest to an integer -/
def ofInt (n : Int) : Binary64 := ofUnits (n < 0) (n.natAbs * one) 1

/-- the number nearest to ± digits · 10^exponent -/
def ofDecimal (negative : Bool) (digits : Nat) (exponent : Int) : Binary64 :=
  let places : Int := (Nat.toDigits 10 digits).length + exponent
  if digits = 0 ∨ places < -330 then .finite negative 0
  else if places > 310 then .infinite negative
  else if exponent < 0 then ofUnits negative (digits * one) (Nat.pow 10 exponent.natAbs)
  else ofUnits negative (digits * Nat.pow 10 exponent.natAbs * one) 1

/-- the signed number of units -/
def signed (negative : Bool) (units : Nat) : Int := if negative then -(units : Int) else units

def neg : Binary64 → Binary64
  | .nan => .nan
  | .infinite s => .infinite (!s)
  | .finite s u => .finite (!s) u

def add : Binary64 → Binary64 → Binary64
  | .nan, _ => .nan
  | _, .nan => .nan
  | .infinite s, .infinite t => if s = t then .infinite s else .nan
  | .infinite s, _ => .infinite s
  | _, .infinite t => .infinite t
  | .finite s u, .finite t v =>
    let sum := signed s u + signed t v
    if sum = 0 then .finite (s && t) 0 else ofUnits (sum < 0) sum.natAbs 1

def mul : Binary64 → Binary64 → Binary64
  | .nan, _ => .nan
  | _, .nan => .nan
  | .infinite s, .infinite t => .infinite (s != t)
  | .infinite s, .finite t v => if v = 0 then .nan else .infinite (s != t)
  | .finite s u, .infinite t => if u = 0 then .nan else .infinite (s != t)
  | .finite s u, .finite t v => ofUnits (s != t) (u * v) one

/-- equality of numbers: both zeros are equal and no NaN equals anything -/
def same : Binary64 → Binary64 → Bool
  | .infinite s, .infinite t => s == t
  | .finite s u, .finite t v => u == v && (s == t || u == 0)
  | _, _ => false

/-- the integer that a number is, if it is one -/
def toInt? : Binary64 → Option Int
  | .finite s u => if u % one = 0 then some (signed s (u / one)) else none
  | _ => none

end Binary64
end Typings
