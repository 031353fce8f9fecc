/-
Reading a text from left to right.

A cursor is what is left of the text and the place where it starts. Looking ahead past the end gives the code
point zero, which no readable text holds. A reading is a computation that moves the cursor or ends early.
-/
import Typings.Yaml.Stop

namespace Typings.Yaml

structure Cursor where
  rest : Text
  place : Place
  deriving Repr

namespace Cursor

/-- the code point `k` places ahead -/
def peek (c : Cursor) (k : Nat) : CodePoint := c.rest.getD k 0

/-- the place after a code point `c` that `next` follows -/
def placeAfter (p : Place) (c next : CodePoint) : Place :=
  if c.val = 10 ∨ c.val = 0x85 ∨ c.val = 0x2028 ∨ c.val = 0x2029 ∨ (c.val = 13 ∧ next.val ≠ 10) then
    ⟨p.index + 1, p.line + 1, 0⟩
  else if c.val = 0xFEFF then { p with index := p.index + 1 }
  else ⟨p.index + 1, p.line, p.column + 1⟩

/-- the cursor moved over `n` code points -/
def advance : Nat → Cursor → Cursor
  | 0, c => c
  | n + 1, c =>
    match c.rest with
    | [] => c
    | ch :: r => advance n ⟨r, placeAfter c.place ch (r.headD 0)⟩

end Cursor

/-- a computation that reads on from a cursor -/
abbrev Reading (α : Type) := StateT Cursor (Except (Stop TokenFault)) α

namespace Reading

/-- the code point `k` places ahead -/
def peek (k : Nat) : Reading CodePoint := do return (← get).peek k

/-- the place of the cursor -/
def here : Reading Place := do return (← get).place

/-- moves over `n` code points -/
def skip (n : Nat) : Reading Unit := modify (Cursor.advance n)

/-- ends with a problem at the cursor, in the context of a construct that starts at a place -/
def failWithin {α : Type} (context : Text) (start : Place) (problem : Text) : Reading α := do
  throw (.problem (Problem.within context start problem (← here)))

/-- the code points ahead that satisfy `p`; the cursor moves past them -/
def takeWhile (p : CodePoint → Bool) : Reading Text := do
  let t := (← get).rest.takeWhile p
  skip t.length
  return t

/-- moves past the code points ahead that satisfy `p` -/
def skipWhile (p : CodePoint → Bool) : Reading Unit := discard (takeWhile p)

/-- how many steps a loop over the rest of the text can take -/
def budget : Reading Nat := do return (← get).rest.length + 1

end Reading

/-! ## Classes of code points -/

def isSpace (c : CodePoint) : Bool := c.val == 32

/-- a space or a tab -/
def isSpaceOrTab (c : CodePoint) : Bool := c.val == 32 || c.val == 9

/-- ends a line, or the text -/
def isBreak (c : CodePoint) : Bool := isBreakOrEnd c && c.val != 0

/-- ends a word: a space, a break or the end -/
def isSpaceOrEnd (c : CodePoint) : Bool := c.val == 32 || isBreakOrEnd c

/-- ends a word: a space, a tab, a break or the end -/
def isBlankOrEnd (c : CodePoint) : Bool := c.val == 9 || isSpaceOrEnd c

/-- an ASCII letter, a digit, a dash or an underscore -/
def isWordChar (c : CodePoint) : Bool := c.isDigit || c.isLetter || c = '-' || c = '_'

/-- one of the code points of a text -/
def isOneOf (set : Text) (c : CodePoint) : Bool := set.contains c

namespace Reading

/-- a line break: line feed, carriage return, both, or a next-line code point read as a line feed; the line and
paragraph separators stay themselves; nothing elsewhere -/
def lineBreak : Reading Text := do
  let c ← peek 0
  if c.val = 13 ∧ (← peek 1).val = 10 then
    skip 2
    return [10]
  else if c.val = 13 ∨ c.val = 10 ∨ c.val = 0x85 then
    skip 1
    return [10]
  else if c.val = 0x2028 ∨ c.val = 0x2029 then
    skip 1
    return [c]
  else return []

/-- moves to the end of the line -/
def skipLine : Reading Unit := skipWhile fun c => !isBreakOrEnd c

/-- whether the cursor is at three of these code points with a blank or the end behind them -/
def atThree (c : CodePoint) : Reading Bool := do
  return (← peek 0) = c && (← peek 1) = c && (← peek 2) = c && isBlankOrEnd (← peek 3)

/-- whether a document separator is ahead -/
def atSeparator : Reading Bool := do return (← atThree '-') || (← atThree '.')

end Reading
end Typings.Yaml
