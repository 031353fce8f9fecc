/-
Places in a text and problems at them.

A place is shown by its line and column and by an excerpt of its line with a caret below it. A problem has a
place, and may have a context with a place of its own, such as the start of the construct that is at fault.
-/
import Typings.Crash

namespace Typings.Yaml

/-- a place in a text: offset, line and column, all from zero -/
structure Place where
  index : Nat
  line : Nat
  column : Nat
  deriving DecidableEq, Repr, Inhabited

/-- the place of the first code point -/
def Place.start : Place := ⟨0, 0, 0⟩

/-- the code points that end a line, and the end of the text, which reads as zero -/
def isBreakOrEnd (c : CodePoint) : Bool :=
  c.val == 0 || c.val == 10 || c.val == 13 || c.val == 0x85 || c.val == 0x2028 || c.val == 0x2029

/-- how far an excerpt reaches to each side, and what is cut off beyond that -/
def excerptReach : Nat := 37
def excerptCut : Nat := 5

/-- one side of an excerpt: what is shown of the code points that run from the place to the end of the line, and
whether more was left out -/
def excerptSide (t : Text) : Text × Bool :=
  let side := t.takeWhile fun c => !isBreakOrEnd c
  if side.length < excerptReach then (side, false) else (side.take (excerptReach - excerptCut), true)

/-- the line around a place with a caret below the place -/
def Place.excerpt (text : Text) (p : Place) : Text :=
  let (before, cutBefore) := excerptSide (text.take p.index).reverse
  let (after, cutAfter) := excerptSide (text.drop p.index)
  let head := Text.only cutBefore " ... "
  let tail := Text.only cutAfter " ... "
  "    " ++ head ++ before.reverse ++ after ++ tail ++ "\n"
    ++ List.replicate (4 + before.length + head.length) (CodePoint.ofChar ' ') ++ "^"

/-- a place in words -/
def Place.message (text : Text) (p : Place) : Text :=
  "  in \"<unicode string>\", line " ++ Text.ofNat (p.line + 1) ++ ", column " ++ Text.ofNat (p.column + 1)
    ++ ":\n" ++ p.excerpt text

/-- what is wrong, where, and in what context -/
structure Problem where
  context : Option (Text × Option Place)
  problem : Text
  place : Place
  deriving DecidableEq, Repr

/-- a problem without context -/
def Problem.bare (problem : Text) (place : Place) : Problem := ⟨none, problem, place⟩

/-- a problem inside a construct that starts at a place -/
def Problem.within (context : Text) (start : Place) (problem : Text) (place : Place) : Problem :=
  ⟨some (context, some start), problem, place⟩

/-- a problem in words; the place of the context is left out where it is the place of the problem -/
def Problem.message (text : Text) (p : Problem) : Text :=
  let contextLines : List Text := match p.context with
    | none => []
    | some (context, none) => [context]
    | some (context, some start) =>
      if start.line = p.place.line ∧ start.column = p.place.column then [context]
      else [context, start.message text]
  Text.join "\n" (contextLines ++ [p.problem, p.place.message text])

end Typings.Yaml
